/-
# What is kept up

Besides the balance of its pool, a table in good order shows nothing stale: the row of a free page
has no tag and no compound link, the row of a page in use is on no list (`Descriptor.Tidy`), and
every row has the address that its place in the table gives it.

No operation changes the address of a row, and each leaves a row in good order if it was so
before.  That is what `Table.Keeps` says of the tables before and after; together with the
statements about balance it makes `Pool.WellKept` an invariant of every request, granted or not,
and of every release.
-/
import PageFrames.Proofs.Pool.Allocating
import PageFrames.Proofs.Pool.Releasing

namespace PageFrames

/-! ## 1. Rows in good order -/

namespace Descriptor

/-- The row of a free page has no tag and no compound link, that of a page in use no link. -/
def Tidy (row : Descriptor) : Prop :=
  (row.status = .free → row.tag = .empty ∧ row.compound = .nil) ∧
    (row.status = .used → row.link = .none)

variable {row row' : Descriptor} {tag : Tag}

/-- The link of a free page does not matter. -/
theorem Tidy.of_bare (h : row.Tidy) (hfree : row.status = .free) (hbare : row'.bare = row.bare) :
    row'.Tidy := by
  have hstatus : row'.status = row.status := (congrArg Descriptor.status hbare :)
  have htag : row'.tag = row.tag := (congrArg Descriptor.tag hbare :)
  have hcompound : row'.compound = row.compound := (congrArg Descriptor.compound hbare :)
  constructor
  · intro _
    rw [htag, hcompound]
    exact h.1 hfree
  · intro hused
    rw [hstatus, hfree] at hused
    cases hused

theorem tidy_of_held (h : row'.unchained = row.held tag) : row'.Tidy := by
  have hstatus : row'.status = .used := (congrArg Descriptor.status h :)
  have hlink : row'.link = .none := (congrArg Descriptor.link h :)
  constructor
  · intro hfree
    rw [hstatus] at hfree
    cases hfree
  · intro _
    exact hlink

theorem tidy_of_released (h : row'.bare = row.released.bare) : row'.Tidy := by
  have hstatus : row'.status = .free := (congrArg Descriptor.status h :)
  have htag : row'.tag = .empty := (congrArg Descriptor.tag h :)
  have hcompound : row'.compound = .nil := (congrArg Descriptor.compound h :)
  constructor
  · intro _
    exact ⟨htag, hcompound⟩
  · intro hused
    rw [hstatus] at hused
    cases hused

end Descriptor

/-! ## 2. Tables that keep their rows in good order -/

namespace Table

variable {table table' table'' : Table} {pages ys zs : List Page} {p : Page}

/-- Each row of the second table has the address it has in the first, and is in good order if it
was so in the first. -/
def Keeps (table table' : Table) : Prop :=
  ∀ (p : Page) (row' : Descriptor), table'[p.toNat]? = some row' →
    ∃ row, table[p.toNat]? = some row ∧ row'.address = row.address ∧ (row.Tidy → row'.Tidy)

theorem keeps_refl (table : Table) : Keeps table table :=
  fun _ row' h => ⟨row', h, rfl, id⟩

theorem Keeps.trans (h : Keeps table table') (h' : Keeps table' table'') : Keeps table table'' := by
  intro p row'' hrow''
  obtain ⟨row', hrow', haddr', htidy'⟩ := h' p row'' hrow''
  obtain ⟨row, hrow, haddr, htidy⟩ := h p row' hrow'
  exact ⟨row, hrow, haddr'.trans haddr, fun ht => htidy' (htidy ht)⟩

/-- What `f` and `g` say of a row that is seen through two columns. -/
theorem exists_row_of_column {α : Type} {f g : Descriptor → α} {row' : Descriptor}
    (h : table'.column f p = table.column g p) (hrow' : table'[p.toNat]? = some row') :
    ∃ row, table[p.toNat]? = some row ∧ f row' = g row := by
  have hcolumn : table.column g p = some (f row') :=
    h.symm.trans (column_eq_some_iff.mpr ⟨row', hrow', rfl⟩)
  obtain ⟨row, hrow, hg⟩ := column_eq_some_iff.mp hcolumn
  exact ⟨row, hrow, hg.symm⟩

/-- A row is kept if at most its link has changed, and that only if the page is free. -/
theorem exists_row_of_bare {row' : Descriptor}
    (hbare : table'.column Descriptor.bare p = table.column Descriptor.bare p)
    (hused : table.IsUsed p → table'[p.toNat]? = table[p.toNat]?)
    (hrow' : table'[p.toNat]? = some row') :
    ∃ row, table[p.toNat]? = some row ∧ row'.address = row.address ∧ (row.Tidy → row'.Tidy) := by
  obtain ⟨row, hrow, heq⟩ := exists_row_of_column hbare hrow'
  have haddr : row'.bare.address = row.bare.address := congrArg Descriptor.address heq
  refine ⟨row, hrow, haddr, ?_⟩
  intro ht
  cases hs : row.status with
  | free => exact ht.of_bare hs heq
  | used =>
    have hsame := hused (column_eq_some_iff.mpr ⟨row, hrow, hs⟩)
    obtain rfl : row' = row := by
      rw [hrow', hrow] at hsame
      exact Option.some.inj hsame
    exact ht

theorem Relinked.keeps (h : Relinked pages table table')
    (hfree : ∀ p ∈ pages, table.IsFree p) : Keeps table table' := by
  intro p row' hrow'
  refine exists_row_of_bare (h.column_eq _ (fun _ => rfl) p) ?_ hrow'
  intro hused
  exact h.off p fun hp => (hfree p hp).not_isUsed hused

theorem Released.keeps (h : Released ys zs table table') (hfree : ∀ p ∈ zs, table.IsFree p) :
    Keeps table table' := by
  intro p row' hrow'
  by_cases hp : p ∈ ys
  · obtain ⟨row, hrow, heq⟩ := exists_row_of_column (h.released p hp) hrow'
    have haddr : row'.bare.address = row.released.bare.address :=
      congrArg Descriptor.address heq
    exact ⟨row, hrow, haddr, fun _ => Descriptor.tidy_of_released heq⟩
  · refine exists_row_of_bare (h.others p hp) ?_ hrow'
    intro hused
    exact h.off p hp fun hz => (hfree p hz).not_isUsed hused

end Table

/-! ## 3. Pools in good order -/

namespace Pool

open Table

variable {pool pool' pool₁ : Pool} {xs ys zs : List Page} {start : Addr} {tag : Tag}

theorem Taken.keeps (h : Taken tag ys zs pool pool') (hfree : ∀ p ∈ zs, pool.table.IsFree p) :
    Keeps pool.table pool'.table := by
  intro p row' hrow'
  by_cases hp : p ∈ ys
  · obtain ⟨row, hrow, heq⟩ := exists_row_of_column (h.taken p hp) hrow'
    have haddr : row'.unchained.address = (row.held tag).address :=
      congrArg Descriptor.address heq
    exact ⟨row, hrow, haddr, fun _ => Descriptor.tidy_of_held heq⟩
  · refine exists_row_of_bare (h.others p hp) ?_ hrow'
    intro hused
    exact h.off p hp fun hz => (hfree p hz).not_isUsed hused

/-- The pool is in balance, its rows are in good order, and they have the addresses of the pages
from `start` on. -/
structure WellKept (start : Addr) (pool : Pool) (xs : List Page) : Prop
    extends Balanced pool xs where
  tidy : ∀ (p : Page) (row : Descriptor), pool.table[p.toNat]? = some row → row.Tidy
  sited : ∀ (p : Page) (row : Descriptor), pool.table[p.toNat]? = some row →
    row.address.toNat = start.toNat + p.toNat * 4096

theorem WellKept.keep (h : pool.WellKept start xs) (hbal : pool'.Balanced ys)
    (hkeeps : Keeps pool.table pool'.table) : pool'.WellKept start ys where
  toBalanced := hbal
  tidy := by
    intro p row' hrow'
    obtain ⟨row, hrow, -, htidy⟩ := hkeeps p row' hrow'
    exact htidy (h.tidy p row hrow)
  sited := by
    intro p row' hrow'
    obtain ⟨row, hrow, haddr, -⟩ := hkeeps p row' hrow'
    rw [haddr]
    exact h.sited p row hrow

/-- **Two pools that are well kept show the same of a page,** but for its link, if it is free in
both, or if its row has not been touched. -/
theorem WellKept.column_bare_eq (h : pool.WellKept start xs) (h' : pool'.WellKept start ys)
    (hsize : pool'.table.size = pool.table.size) {p : Page}
    (hfree : pool'.table.IsFree p ↔ pool.table.IsFree p)
    (hused : pool.table.IsUsed p → pool'.table[p.toNat]? = pool.table[p.toNat]?) :
    pool'.table.column Descriptor.bare p = pool.table.column Descriptor.bare p := by
  rcases Nat.lt_or_ge p.toNat pool.table.size with hlt | hge
  · rcases isFree_or_isUsed hlt with hp | hp
    · obtain ⟨row, hrow, hstatus⟩ := column_eq_some_iff.mp hp
      obtain ⟨row', hrow', hstatus'⟩ := column_eq_some_iff.mp (hfree.mpr hp)
      obtain ⟨htag, hcompound⟩ := (h.tidy p row hrow).1 hstatus
      obtain ⟨htag', hcompound'⟩ := (h'.tidy p row' hrow').1 hstatus'
      have haddress : row'.address = row.address := by
        rw [← UInt64.toNat_inj, h.sited p row hrow, h'.sited p row' hrow']
      rw [column, column, hrow, hrow']
      simp [Descriptor.bare, haddress, hstatus, hstatus', htag, htag', hcompound, hcompound']
    · exact column_congr_row (hused hp)
  · rw [column, column, Array.getElem?_eq_none hge, Array.getElem?_eq_none (hsize ▸ hge)]

theorem Balanced.isFree_of_mem_freePages (h : pool.Balanced xs) :
    ∀ p ∈ pool.table.freePages, pool.table.IsFree p :=
  fun _ hp => (mem_freePages_iff (le_of_small h.small)).mp hp

theorem Balanced.keeps_rebuilt (h : pool.Balanced xs) (h' : Rebuilt pool pool') :
    Keeps pool.table pool'.table :=
  h'.links.keeps h.isFree_of_mem_freePages

/-- Lining up and taking keep the rows in good order. -/
theorem Balanced.keeps_taken {count : Nat} {run compaction : Bool} (h : pool.Balanced xs)
    (hlined : Lined count run compaction pool xs pool₁ (ys ++ zs))
    (htaken : Taken tag ys zs pool₁ pool') : Keeps pool.table pool'.table := by
  have hbal := h.lined hlined
  exact (hlined.links.keeps h.isFree_of_mem_freePages).trans
    (htaken.keeps fun _ hp => hbal.isFree (List.mem_append_right ys hp))

variable {count : Word} {run compaction : Bool} {r : Except Fault (Except Refusal Page)}

/-- **A pool in balance stays so, whatever a request comes to,** and its rows are kept. A refusal
may leave a rebuilt list behind, and so may the fault of a counter at its end; the list then has
another order, so the pages of the balance are given anew. -/
theorem Balanced.allocates (h : pool.Balanced xs)
    (h' : Allocates count run compaction tag pool xs r pool') :
    Keeps pool.table pool'.table ∧ pool'.table.size = pool.table.size ∧
      ∃ xs', pool'.Balanced xs' := by
  cases h' with
  | zeroPages => exact ⟨keeps_refl _, rfl, xs, h⟩
  | outOfMemory => exact ⟨keeps_refl _, rfl, xs, h⟩
  | hidden => exact ⟨keeps_refl _, rfl, xs, h⟩
  | absent _ _ _ _ _ hbuilt =>
    exact ⟨h.keeps_rebuilt hbuilt, hbuilt.links.size_eq, _, h.rebuilt hbuilt⟩
  | uncounted _ hbuilt =>
    exact ⟨h.keeps_rebuilt hbuilt, hbuilt.links.size_eq, _, h.rebuilt hbuilt⟩
  | granted _ hlined htaken _ _ =>
    have hleft := (h.lined hlined).taken htaken
    have hkeeps := h.keeps_taken hlined htaken
    exact ⟨hkeeps, htaken.size.trans hlined.links.size_eq, _,
      ⟨hleft.small, hleft.threads, hleft.mem_iff, hleft.counted⟩⟩
  | unrecorded _ hlined htaken =>
    exact ⟨h.keeps_taken hlined htaken, htaken.size.trans hlined.links.size_eq, _,
      (h.lined hlined).taken htaken⟩

/-- **A pool in good order stays so, whatever a request comes to,** even if it comes to a fault. -/
theorem WellKept.allocates (h : pool.WellKept start xs)
    (h' : Allocates count run compaction tag pool xs r pool') :
    pool'.table.size = pool.table.size ∧ ∃ xs', pool'.WellKept start xs' := by
  obtain ⟨hkeeps, hsize, xs', hbal⟩ := h.toBalanced.allocates h'
  exact ⟨hsize, xs', h.keep hbal hkeeps⟩

/-- **A pool in good order stays so when an allocation is given back.** -/
theorem WellKept.givenBack (h : pool.WellKept start xs)
    (hused : ∀ p ∈ ys, pool.table.IsUsed p) (h' : GivenBack ys xs pool pool') :
    pool'.WellKept start (xs ++ ys) :=
  h.keep (h.toBalanced.givenBack hused h') (h'.rows.keeps fun _ hp => h.isFree hp)

end Pool

end PageFrames
