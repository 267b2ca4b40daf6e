/-
# Rebuilding in any condition

A rebuild looks at nothing but which pages are free.  What the links were before, and which page
the list began with, does not matter, so from a pool in any condition it comes to a list of exactly
the free pages in ascending order, and to nothing else: the row of a free page is what it was
without its link, and all other rows are what they were (`Pool.Healed`).

The links that a rebuild leaves are those of the ring of the free pages, and a ring determines its
links (`Table.Relinked.eq_of_ring`).  So a second rebuild, which comes to the same ring, changes
nothing (`Pool.Rebuilt.eq_of_rebuilt`).
-/
import PageFrames.Proofs.Pool.Balance

namespace PageFrames

open Table

/-! ## 1. Tables that are the same up to links -/

namespace Table

variable {α : Type} {table table' : Table} {xs : List Page}

/-- Two tables show the same in a column if they do so for every page. -/
theorem map_eq_of_column {f : Descriptor → α} (hsize : table'.size = table.size)
    (hsmall : table.size ≤ 2 ^ 32) (h : ∀ p, table'.column f p = table.column f p) :
    table'.map f = table.map f := by
  refine Array.ext_getElem? ?_
  intro i
  rw [Array.getElem?_map, Array.getElem?_map]
  rcases Nat.lt_or_ge i table.size with hlt | hge
  · have hpage := h i.toUInt32
    rw [column, column, toNat_toUInt32 (by omega)] at hpage
    exact hpage
  · rw [Array.getElem?_eq_none hge, Array.getElem?_eq_none (hsize ▸ hge)]

/-- **The links of a ring are determined by the ring.**  Tables that differ in links of pages on it
only, and have it both, do not differ. -/
theorem Relinked.eq_of_ring (h : Relinked xs table table') (hring : Ring table.Linked xs)
    (hring' : Ring table'.Linked xs) (hsmall : table.size ≤ 2 ^ 32) : table' = table := by
  have hboth := hring'.and hring
  have hrow : ∀ p : Page, table'[p.toNat]? = table[p.toNat]? := by
    intro p
    by_cases hp : p ∈ xs
    · obtain ⟨next, -, hnext', hnext⟩ := hboth.exists_next hp
      obtain ⟨prev, -, hprev', hprev⟩ := hboth.exists_prev hp
      exact row_eq_of_bare (h.column_eq _ (fun _ => rfl) p) (hnext'.1.trans hnext.1.symm)
        (hprev'.2.trans hprev.2.symm)
    · exact h.off p hp
  simpa using map_eq_of_column (f := id) h.size_eq hsmall fun p => column_congr_row (hrow p)

/-- A row whose page is not on the list is what it was. -/
theorem Relinked.row_eq (h : Relinked xs table table') (hsmall : table.size ≤ 2 ^ 32) {i : Nat}
    {row : Descriptor} (hrow : table[i]? = some row) (hi : i.toUInt32 ∉ xs) :
    table'[i]? = some row := by
  have hlt := (Array.getElem?_eq_some_iff.mp hrow).1
  have hsame := h.off _ hi
  rw [toNat_toUInt32 (by omega)] at hsame
  exact hsame.trans hrow

/-- Every row is what it was without its link. -/
theorem Relinked.exists_row (h : Relinked xs table table') {i : Nat} {row : Descriptor}
    (hrow : table[i]? = some row) : ∃ link, table'[i]? = some { row with link } := by
  have hsame := congrArg (fun rows : Array Descriptor => rows[i]?) h.bare
  simp only [Array.getElem?_map, hrow, Option.map_some, Option.map_eq_some_iff] at hsame
  obtain ⟨row', hrow', hbare⟩ := hsame
  refine ⟨row'.link, hrow'.trans (congrArg some ?_)⟩
  cases row
  cases row'
  simp_all [Descriptor.bare]

/-- **On a ring of links** one page is after another if and only if that one is before it. -/
theorem next_iff_prev (h : Ring table.Linked xs) {p q : Page} (hp : p ∈ xs) (hq : q ∈ xs) :
    table.column Descriptor.next p = some q ↔ table.column Descriptor.prev q = some p := by
  constructor
  · intro hnext
    obtain ⟨r, -, hr⟩ := h.exists_next hp
    obtain rfl : r = q := Option.some.inj (hr.1.symm.trans hnext)
    exact hr.2
  · intro hprev
    obtain ⟨r, -, hr⟩ := h.exists_prev hq
    obtain rfl : r = p := Option.some.inj (hr.2.symm.trans hprev)
    exact hr.1

end Table

/-! ## 2. What a rebuild comes to -/

namespace Pool

variable {pool pool₁ pool₂ pool' : Pool}

/-- **To rebuild a second time changes nothing.**  The list is a ring of the same pages in the same
order, and the ring determines their links. -/
theorem Rebuilt.eq_of_rebuilt (h : Rebuilt pool pool₁) (h' : Rebuilt pool₁ pool₂)
    (hsmall : pool.table.size ≤ 2 ^ 32) (hcompactions : pool₂.compactions = pool₁.compactions) :
    pool₂ = pool₁ := by
  obtain ⟨hthreads, hlinks, hfree, hallocations⟩ := h'
  rw [h.table_freePages] at hthreads hlinks
  have htable : pool₂.table = pool₁.table :=
    hlinks.eq_of_ring h.threads.ring hthreads.ring (h.links.size_eq ▸ hsmall)
  have hhead : pool₂.free.head = pool₁.free.head := hthreads.head.trans h.threads.head.symm
  obtain ⟨table₁, ⟨head₁⟩, freePages₁, allocations₁, compactions₁⟩ := pool₁
  obtain ⟨table₂, ⟨head₂⟩, freePages₂, allocations₂, compactions₂⟩ := pool₂
  simp_all

/-- The second pool is the first one with a free list of exactly the free pages, in ascending
order. -/
structure Healed (pool pool' : Pool) : Prop extends Rebuilt pool pool' where
  ascending : pool.table.freePages.Pairwise (· < ·)
  mem_iff : ∀ p, p ∈ pool.table.freePages ↔ pool.table.IsFree p
  /-- The walk along the list from its head passes these pages in this order. -/
  walk : pool'.free.pages pool'.table pool.table.size = .ok pool.table.freePages
  head_iff : pool'.free.head = none ↔ ∀ p, ¬ pool.table.IsFree p
  /-- The links lead back the way they lead forward. -/
  inverse : ∀ p q, pool.table.IsFree p → pool.table.IsFree q →
    (pool'.table.column Descriptor.next p = some q ↔
      pool'.table.column Descriptor.prev q = some p)
  /-- Every row is what it was, but for its link. -/
  rows : ∀ (i : Nat) (row : Descriptor), pool.table[i]? = some row →
    ∃ link, pool'.table[i]? = some { row with link }
  /-- The row of a page in use is what it was, its link included. -/
  used : ∀ (i : Nat) (row : Descriptor), pool.table[i]? = some row → row.status = .used →
    pool'.table[i]? = some row
  size : pool'.table.size = pool.table.size
  compactions : pool'.compactions = pool.compactions

theorem Rebuilt.healed (h : Rebuilt pool pool') (hsmall : pool.table.size ≤ 2 ^ 32)
    (hcompactions : pool'.compactions = pool.compactions) : Healed pool pool' where
  toRebuilt := h
  ascending := pairwise_freeBelow _ hsmall
  mem_iff _ := mem_freePages_iff hsmall
  walk := by
    have hle := h.threads.length_le
    rw [h.links.size_eq] at hle
    exact h.threads.pages_eq hle
  head_iff := by
    rw [h.threads.head, List.head?_eq_none_iff, List.eq_nil_iff_forall_not_mem]
    simp only [mem_freePages_iff hsmall]
  inverse p q hp hq :=
    next_iff_prev h.threads.ring ((mem_freePages_iff hsmall).mpr hp)
      ((mem_freePages_iff hsmall).mpr hq)
  rows _ _ hrow := h.links.exists_row hrow
  used i row hrow hstatus := by
    refine h.links.row_eq hsmall hrow fun hi => ?_
    have hlt := (Array.getElem?_eq_some_iff.mp hrow).1
    have hfree := (mem_freePages_iff hsmall).mp hi
    rw [isFree_iff_of_row (by rwa [toNat_toUInt32 (by omega)])] at hfree
    simp [Descriptor.isFree, hstatus] at hfree
  size := h.links.size_eq
  compactions := hcompactions

/-- **A rebuild heals any pool,** whatever its links and the head of its list were, and a second one
leaves it as it is.  It reads of a row whether it is free, and a link only after it has set it, so
that it comes to the same whatever was there before. -/
theorem exists_healed (hsmall : pool.table.size < Page.nil.toNat) :
    ∃ pool', rebuild.Yields pool (.ok ()) pool' ∧ Healed pool pool' ∧
      rebuild.Yields pool' (.ok ()) pool' := by
  have hle := le_of_small hsmall
  obtain ⟨pool₁, hyields, hbuilt, hkeep⟩ := exists_rebuild hle
  obtain ⟨pool₂, hyields', hbuilt', hkeep'⟩ := exists_rebuild (hbuilt.links.size_eq ▸ hle)
  rw [hbuilt.eq_of_rebuilt hbuilt' hle hkeep'] at hyields'
  exact ⟨pool₁, hyields, hbuilt.healed hle hkeep, hyields'⟩

/-- Four pages, of which the one in use is the head of the list.  The links of the free ones lead to
it, to no row, and nowhere. -/
def scrambled : Pool where
  table := #[⟨0x1000, .free, .empty, ⟨1, 7⟩, 5⟩, ⟨0x2000, .used, .empty, ⟨0, 2⟩, 1⟩,
    ⟨0x3000, .free, .empty, ⟨2, 1⟩, .nil⟩, ⟨0x4000, .free, .empty, .none, 0⟩]
  free := { head := some 1 }
  freePages := 9

theorem exists_healed_scrambled :
    scrambled.table.size < Page.nil.toNat ∧ scrambled.table.freePages = [0, 2, 3] ∧
      ∃ pool', rebuild.Yields scrambled (.ok ()) pool' ∧ Healed scrambled pool' ∧
        rebuild.Yields pool' (.ok ()) pool' :=
  ⟨by decide, by decide +kernel, exists_healed (by decide)⟩

end Pool

end PageFrames
