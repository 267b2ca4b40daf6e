/-
# Tables of descriptors

A table has one row for each page of a region, in the order of their addresses.  Rows are read
and changed by handle; a handle without a row is a fault that leaves the table alone.
-/
import PageFrames.Action
import PageFrames.Descriptor
import PageFrames.Exact

namespace PageFrames

/-- The descriptors of the pages of a region. -/
abbrev Table := Array Descriptor

namespace Table

/-! ## 1. Rows -/

/-- The row of a page. -/
def row (table : Table) (page : Page) : Except Fault Descriptor :=
  match table[page.toNat]? with
  | some row => .ok row
  | none => .error (.indexOutOfBounds table.size page.toNat)

/-- The number of free pages. -/
def freeCount (table : Table) : Nat := table.countP Descriptor.isFree

/-- Looks up the row of a page. -/
def read (page : Page) : Action Table Descriptor := .look fun table => row table page

/-- Changes the row of a page. -/
def update (page : Page) (f : Descriptor → Descriptor) : Action Table Unit :=
  ⟨fun table =>
    if page.toNat < table.size then
      ⟨.ok (), table.modify page.toNat f, []⟩
    else
      ⟨.error (.indexOutOfBounds table.size page.toNat), table, []⟩⟩

/-- Sets the link of a page. -/
def setLink (page : Page) (link : Link) : Action Table Unit := update page ({ · with link })

/-- Sets the page before this one on its list. -/
def setPrev (page prev : Page) : Action Table Unit :=
  update page fun row => { row with link := { row.link with prev } }

/-- Sets the page after this one on its list. -/
def setNext (page next : Page) : Action Table Unit :=
  update page fun row => { row with link := { row.link with next } }

/-- Sets the page after this one in its allocation. -/
def setCompound (page compound : Page) : Action Table Unit := update page ({ · with compound })

theorem row_eq_ok_iff {table : Table} {page : Page} {row : Descriptor} :
    table.row page = .ok row ↔ table[page.toNat]? = some row := by
  unfold Table.row
  split <;> simp_all

theorem run_update_of_lt {table : Table} {page : Page} (f : Descriptor → Descriptor)
    (h : page.toNat < table.size) :
    (update page f).run table = ⟨.ok (), table.modify page.toNat f, []⟩ := by
  simp [update, h]

theorem run_update_of_le {table : Table} {page : Page} (f : Descriptor → Descriptor)
    (h : table.size ≤ page.toNat) :
    (update page f).run table =
      ⟨.error (.indexOutOfBounds table.size page.toNat), table, []⟩ := by
  simp [update, Nat.not_lt.mpr h]

/-! ## 2. New tables -/

/-- The address of page `index` of a region that starts at `start`. -/
def addressAt (start : Addr) (index : Nat) : Except Fault Addr := do
  start.addExact (← Word.mulExact index.toUInt64 pageSize)

/-- The table of the first `count` pages from `start` on, all of them free and on no list. -/
def fresh (start : Addr) : (count : Nat) → Except Fault Table
  | 0 => return #[]
  | count + 1 => do
    let table ← fresh start count
    return table.push (.fresh (← addressAt start count))

theorem size_of_fresh_eq_ok {start : Addr} {count : Nat} {table : Table}
    (h : fresh start count = .ok table) : table.size = count := by
  induction count generalizing table with
  | zero => cases h; rfl
  | succ count ih =>
    rw [fresh] at h
    cases hrest : fresh start count with
    | error fault => rw [hrest] at h; cases h
    | ok rest =>
      rw [hrest] at h
      cases haddr : addressAt start count with
      | error fault => simp [bind, Except.bind, haddr] at h
      | ok addr =>
        simp only [bind, Except.bind, haddr, pure, Except.pure, Except.ok.injEq] at h
        rw [← h, Array.size_push, ih hrest]

end Table

end PageFrames
