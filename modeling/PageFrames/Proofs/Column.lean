/-
# The columns of a table

A table is read one column at a time: `Table.column f` is what `f` says of the row of a page,
where the page has a row.  A change to one row shows in the columns of that page only, and only
in those that the change concerns (`Table.column_modify`), so what an operation leaves alone is
said by columns that stay equal.

Most operations change links and nothing else.  What a row is without its link is `Descriptor.bare`,
and two tables that differ in the links of some pages only are `Table.Relinked` for these pages.
-/
import PageFrames.Proofs.Action
import PageFrames.Table
import Mathlib.Tactic.Common

namespace PageFrames

/-! ## 1. Parts of a row -/

namespace Descriptor

/-- The page before this one on the free list. -/
def prev (row : Descriptor) : Page := row.link.prev

/-- The row without its link. -/
def bare (row : Descriptor) : Descriptor := { row with link := .none }

/-- The row without its compound link. -/
def unchained (row : Descriptor) : Descriptor := { row with compound := .nil }

end Descriptor

namespace Table

variable {α β : Type} {table table' table'' : Table}

/-! ## 2. Columns -/

/-- What `f` says of the row of a page, if the page has a row. -/
def column (f : Descriptor → α) (table : Table) (page : Page) : Option α :=
  (table[page.toNat]?).map f

theorem column_eq_some_iff {f : Descriptor → α} {page : Page} {a : α} :
    table.column f page = some a ↔ ∃ row, table[page.toNat]? = some row ∧ f row = a := by
  simp [column]

theorem lt_of_column_eq_some {f : Descriptor → α} {page : Page} {a : α}
    (h : table.column f page = some a) : page.toNat < table.size := by
  obtain ⟨row, hrow, -⟩ := column_eq_some_iff.mp h
  exact (Array.getElem?_eq_some_iff.mp hrow).1

theorem column_isSome_iff {f : Descriptor → α} {page : Page} :
    (table.column f page).isSome ↔ page.toNat < table.size := by
  simp [column]

/-- A column that can be read off another one. -/
theorem column_comp (g : α → β) (f : Descriptor → α) (table : Table) (page : Page) :
    table.column (fun row => g (f row)) page = (table.column f page).map g := by
  simp [column, Function.comp_def]

theorem column_congr_row {f : Descriptor → α} {page : Page}
    (h : table'[page.toNat]? = table[page.toNat]?) :
    table'.column f page = table.column f page := by
  rw [column, column, h]

/-- A change to the row of one page shows in the columns of that page only. -/
theorem column_modify (f : Descriptor → α) (g : Descriptor → Descriptor) (table : Table)
    (page p : Page) :
    column f (table.modify page.toNat g) p =
      if p = page then table.column (fun row => f (g row)) p else table.column f p := by
  rw [column, Array.getElem?_modify]
  by_cases h : p = page
  · subst h
    simp [column, Function.comp_def]
  · have hne : page.toNat ≠ p.toNat := fun h' => h (UInt32.toNat_inj.mp h').symm
    rw [if_neg hne, if_neg h, column]

/-- A column that the change does not concern stays as it is. -/
theorem column_modify_of_keeps {f : Descriptor → α} {g : Descriptor → Descriptor}
    (h : ∀ row, f (g row) = f row) (table : Table) (page p : Page) :
    column f (table.modify page.toNat g) p = table.column f p := by
  rw [column_modify]
  split
  · simp only [h]
  · rfl

theorem column_const {page : Page} (h : page.toNat < table.size) (a : α) :
    table.column (fun _ => a) page = some a := by
  rw [column, Array.getElem?_eq_getElem h]
  rfl

theorem getElem?_modify_of_ne {g : Descriptor → Descriptor} {page p : Page} (h : p ≠ page) :
    (table.modify page.toNat g)[p.toNat]? = table[p.toNat]? := by
  have hne : page.toNat ≠ p.toNat := fun h' => h (UInt32.toNat_inj.mp h').symm
  rw [Array.getElem?_modify, if_neg hne]

/-- A row is its link and what it is without it. -/
theorem row_eq_of_bare {p : Page}
    (hbare : table'.column Descriptor.bare p = table.column Descriptor.bare p)
    (hnext : table'.column Descriptor.next p = table.column Descriptor.next p)
    (hprev : table'.column Descriptor.prev p = table.column Descriptor.prev p) :
    table'[p.toNat]? = table[p.toNat]? := by
  rw [column, column] at hbare hnext hprev
  cases hrow : table[p.toNat]? with
  | none => simpa [hrow] using hbare
  | some row =>
    obtain ⟨row', hrow', hsame⟩ : ∃ row', table'[p.toNat]? = some row' ∧ row'.bare = row.bare := by
      simpa [hrow] using hbare
    rw [hrow, hrow'] at hnext hprev
    have hlink : row'.link = row.link := by
      cases hl : row.link
      cases hl' : row'.link
      simp_all [Descriptor.next, Descriptor.prev]
    cases row
    cases row'
    simp_all [Descriptor.bare]

/-! ## 3. Tables that differ in links -/

/-- The tables differ in the links of the given pages only. -/
structure Relinked (pages : List Page) (table table' : Table) : Prop where
  bare : table'.map Descriptor.bare = table.map Descriptor.bare
  off : ∀ p ∉ pages, table'[p.toNat]? = table[p.toNat]?

theorem Relinked.refl (pages : List Page) (table : Table) : Relinked pages table table :=
  ⟨rfl, fun _ _ => rfl⟩

theorem Relinked.symm {pages : List Page} (h : Relinked pages table table') :
    Relinked pages table' table :=
  ⟨h.bare.symm, fun p hp => (h.off p hp).symm⟩

theorem Relinked.trans {pages : List Page} (h : Relinked pages table table')
    (h' : Relinked pages table' table'') : Relinked pages table table'' :=
  ⟨h'.bare.trans h.bare, fun p hp => (h'.off p hp).trans (h.off p hp)⟩

theorem Relinked.mono {pages pages' : List Page} (h : Relinked pages table table')
    (hsub : ∀ p ∈ pages, p ∈ pages') : Relinked pages' table table' :=
  ⟨h.bare, fun p hp => h.off p fun hp' => hp (hsub p hp')⟩

theorem Relinked.size_eq {pages : List Page} (h : Relinked pages table table') :
    table'.size = table.size := by
  simpa using congrArg Array.size h.bare

/-- A column that has nothing to do with links is the same in both tables. -/
theorem Relinked.column_eq {pages : List Page} (h : Relinked pages table table')
    (f : Descriptor → α) (hf : ∀ row, f row.bare = f row) (page : Page) :
    table'.column f page = table.column f page := by
  have hrow : (table'[page.toNat]?).map Descriptor.bare
      = (table[page.toNat]?).map Descriptor.bare := by
    rw [← Array.getElem?_map, ← Array.getElem?_map, h.bare]
  calc table'.column f page = ((table'[page.toNat]?).map Descriptor.bare).map f := by
        simp [column, Function.comp_def, hf]
    _ = ((table[page.toNat]?).map Descriptor.bare).map f := by rw [hrow]
    _ = table.column f page := by simp [column, Function.comp_def, hf]

/-- A change to the link of one row. -/
theorem relinked_modify {pages : List Page} {page : Page} (hp : page ∈ pages)
    {g : Descriptor → Descriptor} (hg : ∀ row, (g row).bare = row.bare) :
    Relinked pages table (table.modify page.toNat g) := by
  constructor
  · refine Array.ext_getElem? ?_
    intro i
    rw [Array.getElem?_map, Array.getElem?_map, Array.getElem?_modify]
    split
    · simp [Function.comp_def, hg]
    · rfl
  · intro p hpp
    have hne : p ≠ page := by
      rintro rfl
      exact hpp hp
    exact getElem?_modify_of_ne hne

/-! ## 4. Reading and changing rows -/

theorem row_of_lt {page : Page} (h : page.toNat < table.size) :
    table.row page = .ok table[page.toNat] := by
  rw [row_eq_ok_iff, Array.getElem?_eq_getElem h]

theorem row_of_le {page : Page} (h : table.size ≤ page.toNat) :
    table.row page = .error (.indexOutOfBounds table.size page.toNat) := by
  simp [row, Array.getElem?_eq_none h]

/-- A row is there or it is not, and either is found out at once. -/
theorem row_ne_endlessWalk (table : Table) (page : Page) :
    table.row page ≠ .error .endlessWalk := by
  rw [row]
  split <;> exact nofun

theorem yields_read {page : Page} {row : Descriptor} (h : table[page.toNat]? = some row) :
    (read page).Yields table (.ok row) table :=
  ⟨row_eq_ok_iff.mpr h, rfl⟩

theorem yields_update {page : Page} (f : Descriptor → Descriptor)
    (h : page.toNat < table.size) :
    (update page f).Yields table (.ok ()) (table.modify page.toNat f) := by
  rw [Action.Yields, run_update_of_lt f h]
  exact ⟨rfl, rfl⟩

end Table

end PageFrames
