/-
# Pages on no ring

A page in use is on the ring of its allocation, or it has been in use since before there were any
requests, and then its row has no compound link.  The row of a free page has none either, so
nothing that is on no ring leads anywhere (`Pool.Sealed`).  Requests and releases keep it so: of the
pages in use, they touch the rows of those only that are given back, and these are whole rings.

This is what stands in for the check where releases are not checked.  From a page that is on no
ring, a release passes that page and comes to `Page.nil`, which has no row, so that it ends with a
fault (`Pool.Sealed.exists_release_error`).
-/
import PageFrames.Proofs.Pool.Effects
import PageFrames.Proofs.Pool.Gathering

namespace PageFrames.Pool

open Table

variable {pool pool' : Pool} {table : Table} {start : Addr} {fixed : Page → Prop}
  {xs xs' ys : List Page} {page p : Page} {tag : Tag}

/-! ## 1. What is sealed -/

/-- The pool is well kept, and every page in use is on a ring or has no compound link.  The pages
`fixed` are in use, and on no ring. -/
structure Sealed (start : Addr) (fixed : Page → Prop) (pool : Pool) (xs : List Page) : Prop
    extends WellKept start pool xs where
  ringed : ∀ p, pool.table.IsUsed p → (∃ ys, pool.table.Allocation (p :: ys)) ∨
    pool.table.column Descriptor.compound p = some .nil
  fixed : ∀ p, fixed p → pool.table.IsUsed p ∧
    pool.table.column Descriptor.compound p = some .nil

theorem WellKept.compound_of_isFree (h : pool.WellKept start xs) (hp : pool.table.IsFree p) :
    pool.table.column Descriptor.compound p = some .nil := by
  obtain ⟨row, hrow, hstatus⟩ := column_eq_some_iff.mp hp
  obtain ⟨-, hcompound⟩ := (h.tidy p row hrow).1 hstatus
  exact column_eq_some_iff.mpr ⟨row, hrow, hcompound⟩

/-- **A page on no ring** has no row, or its row has no compound link. -/
theorem Sealed.compound_of_not_exists (h : pool.Sealed start fixed xs)
    (hnot : ¬ ∃ ys, pool.table.Allocation (p :: ys)) (hlt : p.toNat < pool.table.size) :
    pool.table.column Descriptor.compound p = some .nil := by
  rcases isFree_or_isUsed hlt with hfree | hused
  · exact h.compound_of_isFree hfree
  · exact (h.ringed p hused).resolve_left hnot

/-- Pages that are free, or fixed, or not there are on no ring. -/
theorem Sealed.not_exists_allocation (h : pool.Sealed start fixed xs)
    (hp : pool.table.IsFree p ∨ fixed p ∨ pool.table.size ≤ p.toNat) :
    ¬ ∃ ys, pool.table.Allocation (p :: ys) := by
  rintro ⟨ys, hown⟩
  have hused := hown.used p (by simp)
  rcases hp with hfree | hfixed | hout
  · exact hfree.not_isUsed hused
  · exact hown.column_ne_nil h.small.le (by simp) (h.fixed p hfixed).2
  · exact absurd hused.lt_size (not_lt.mpr hout)

/-! ## 2. What keeps it so -/

/-- **Pages that are taken** are taken as a ring, and no other page in use is touched. -/
theorem Sealed.took (h : pool.Sealed start fixed xs) (htook : Took tag ys pool pool')
    (hkept : pool'.WellKept start xs') : pool'.Sealed start fixed xs' := by
  refine ⟨hkept, ?_, ?_⟩
  · intro p hp
    by_cases hmem : p ∈ ys
    · exact .inl (htook.own.exists_cons hmem)
    · have hused := htook.isUsed_of_notMem hp hmem
      rcases h.ringed p hused with ⟨zs, hown⟩ | hnil
      · exact .inl ⟨zs, hown.congr fun q hq => htook.used q (hown.used q hq)⟩
      · exact .inr ((column_congr_row (htook.used p hused)).trans hnil)
  · intro p hp
    obtain ⟨hused, hnil⟩ := h.fixed p hp
    have hrow := htook.used p hused
    exact ⟨(column_congr_row hrow).trans hused, (column_congr_row hrow).trans hnil⟩

/-- **Pages that are given back** are a ring, and no page of another one is touched, because rings
with a page in common are the same. -/
theorem Sealed.gaveBack (h : pool.Sealed start fixed xs) (hback : GaveBack ys pool pool')
    (hown : pool.table.Allocation ys) (hkept : pool'.WellKept start xs') :
    pool'.Sealed start fixed xs' := by
  refine ⟨hkept, ?_, ?_⟩
  · intro p hp
    obtain ⟨hused, hnot⟩ := hback.isUsed_and_notMem hp
    rcases h.ringed p hused with ⟨zs, hring⟩ | hnil
    · -- a page in common would make the two rings the same
      have hapart : ∀ q ∈ p :: zs, q ∉ ys := fun q hq hy =>
        hnot ((hring.perm_of_mem hown hq hy).mem_iff.mp (by simp))
      exact .inl ⟨zs, hring.congr fun q hq => hback.used q (hring.used q hq) (hapart q hq)⟩
    · exact .inr ((column_congr_row (hback.used p hused hnot)).trans hnil)
  · intro p hp
    obtain ⟨hused, hnil⟩ := h.fixed p hp
    have hrow := hback.used p hused fun hmem => hown.column_ne_nil h.small.le hmem hnil
    exact ⟨(column_congr_row hrow).trans hused, (column_congr_row hrow).trans hnil⟩

/-- **A request keeps a pool sealed,** whatever it comes to. -/
theorem Sealed.allocates {count : Word} {run compaction : Bool}
    {r : Except Fault (Except Refusal Page)} (h : pool.Sealed start fixed xs)
    (h' : Allocates count run compaction tag pool xs r pool') :
    ∃ xs', pool'.Sealed start fixed xs' := by
  obtain ⟨-, xs', hkept⟩ := h.toWellKept.allocates h'
  obtain ⟨ys, htook⟩ := h.exists_took h'
  exact ⟨xs', h.took htook hkept⟩

/-- **A release of an allocation** keeps a pool sealed. -/
theorem Sealed.givenBack (h : pool.Sealed start fixed xs) (hown : pool.table.Allocation ys)
    (h' : GivenBack ys xs pool pool') : pool'.Sealed start fixed (xs ++ ys) :=
  h.gaveBack (h.toBalanced.gaveBack hown.used h') hown (h.toWellKept.givenBack hown.used h')

/-! ## 3. Releases that are not checked -/

/-- **Gathering from a page without a compound link fails** at the next step at the latest, since
there is a page without a row then. -/
theorem exists_gather_error (bound : Nat) (hsmall : table.size < Page.nil.toNat)
    (h : page.toNat < table.size → table.column Descriptor.compound page = some .nil) :
    ∃ length index table', (gather page (bound + 2) page .empty).Yields table
      (.error (.indexOutOfBounds length index)) table' := by
  rcases Nat.lt_or_ge page.toNat table.size with hlt | hge
  · obtain ⟨chain, table', hpass, -, hsize, -⟩ :=
      exists_pass (FreeList.pushable_empty table) (h hlt)
    have hne : Page.nil ≠ page := by
      rintro rfl
      omega
    exact ⟨_, _, table', yields_gather_of_ne hpass hne
      (yields_gather_of_le page bound chain (hsize.symm ▸ hsmall.le))⟩
  · exact ⟨_, _, table, yields_gather_of_le page (bound + 1) .empty hge⟩

/-- **A page on no ring is never given back,** with a check or without.  The check rejects it, and
without the check the release runs out of rows, so that it comes to an end in either case. -/
theorem Sealed.exists_release_error (h : pool.Sealed start fixed xs)
    (hnot : ¬ ∃ ys, pool.table.Allocation (page :: ys)) (checked : Bool) :
    ∃ fault pool', fault ≠ .endlessWalk ∧
      (release page checked).Yields pool (.error fault) pool' := by
  cases checked with
  | true =>
    obtain ⟨fault, hends, hyields⟩ := Pool.exists_release_error hnot
    exact ⟨fault, pool, hends, hyields⟩
  | false =>
    obtain ⟨length, index, table', hgather⟩ :=
      exists_gather_error pool.table.size h.small (h.compound_of_not_exists hnot)
    exact ⟨.indexOutOfBounds length index, _, nofun,
      .bind (Action.yields_peek _ _) (.bind_error (yields_onTable hgather))⟩

end PageFrames.Pool
