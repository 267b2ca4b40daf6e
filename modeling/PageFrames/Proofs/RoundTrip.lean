/-
# Taking pages and giving them back

A request that is granted and then given back leaves no trace in the table.  The pages are taken
from the front of a line and come back behind what was left of it, so the free list is the same
ring as before, read from another page on.  A ring does not know from which page it is read: its
links are the same (`Table.Relinked.eq_of_ring`), and a row is its link and what it is without it.

If the list was rebuilt for the request, the table that comes back is the one right after the
rebuild.  What is left to differ is the head of the list and the counts of requests and rebuilds
(`Allocator.RoundTrip`).
-/
import PageFrames.Proofs.Custody
import PageFrames.Proofs.Pool.Rebuilding
import PageFrames.Proofs.Pool.Serving

namespace PageFrames

open Table

/-! ## 1. Pools that are the same up to links -/

namespace Pool

variable {pool pool₁ pool' : Pool} {xs ys : List Page} {tag : Tag} {start : Addr}

/-- Pools in good order differ in links of free pages only, if nothing was taken in between. -/
theorem WellKept.relinked (h : pool.WellKept start xs) (h' : pool'.WellKept start ys)
    (htook : Took tag [] pool pool') :
    Relinked pool.table.freePages pool.table pool'.table where
  bare := by
    refine map_eq_of_column htook.size (le_of_small h.small) fun p => ?_
    refine h.column_bare_eq h' htook.size ?_ (htook.used p)
    simpa using htook.isFree_iff p
  off := by
    intro p hp
    rw [mem_freePages_iff (le_of_small h.small)] at hp
    rcases Nat.lt_or_ge p.toNat pool.table.size with hlt | hge
    · exact htook.used p ((isFree_or_isUsed hlt).resolve_left hp)
    · rw [Array.getElem?_eq_none hge, Array.getElem?_eq_none (htook.size ▸ hge)]

/-- **Where the free list is the same ring, the table is the same,** if nothing but links on the
list can be different. -/
theorem Balanced.table_eq (h : pool.Balanced xs) (h' : pool'.Balanced ys) (hturn : ys ~r xs)
    (hlinks : Relinked xs pool.table pool'.table) : pool'.table = pool.table :=
  hlinks.eq_of_ring h.threads.ring (h'.threads.ring.isRotated hturn) (le_of_small h.small)

/-- What is taken from the front of the line and put behind what is left of it turns the line. -/
theorem Line.isRotated_drop_append {n : Nat} {run compaction : Bool} {ascending line : List Page}
    {rebuilt : Bool} (h : Line n run compaction xs ascending line rebuilt) (k : Nat) :
    line.drop k ++ line.take k ~r if rebuilt then ascending else xs := by
  refine List.IsRotated.trans ?_ h.isRotated
  refine List.isRotated_append.trans ?_
  rw [List.take_append_drop]

end Pool

/-! ## 2. There and back -/

namespace Allocator

variable {allocator granted : Allocator} {xs : List Page} {count : Word} {options : Options}
  {page : Page}

/-- What is left of a request that was granted and given back: `granted` is the allocator in between
and `after` the one afterwards, `rebuilt` tells whether the list was rebuilt for the request, and
the list had the pages in the order `xs` before. -/
structure RoundTrip (before : Allocator) (xs : List Page) (rebuilt : Bool)
    (granted after : Allocator) : Prop where
  compacted : granted.pool.compactions.toNat = before.pool.compactions.toNat + rebuilt.toNat
  /-- Without a rebuild every row is what it was. -/
  restored : rebuilt = false → after.pool.table = before.pool.table
  /-- With a rebuild every row is what it was right after it. -/
  ascending : rebuilt = true → ∃ built, Pool.rebuild.Yields before.pool (.ok ()) built ∧
    built.Balanced before.pool.table.freePages ∧ after.pool.table = built.table
  /-- The free list is the one before, or the ascending one, read from another page on. -/
  turned : ∃ ys, after.pool.Balanced ys ∧
    ys ~r if rebuilt then before.pool.table.freePages else xs
  freePages : after.pool.freePages = before.pool.freePages
  allocations : after.pool.allocations.toNat = before.pool.allocations.toNat + 1
  compactions : after.pool.compactions = granted.pool.compactions
  /-- Nothing but the pool is concerned. -/
  others : after = before.withPool after.pool

/-- **A request that is granted can be given back,** and nothing is left of it.  The free list is
the ring that it was, or that the rebuild made of it, read from another page on, and the ring
determines the links. -/
theorem Seated.exists_roundTrip (h : allocator.Seated)
    (hkept : allocator.pool.WellKept allocator.region.start xs)
    (hyields : (request count options).Yields allocator (.ok (.ok page)) granted) :
    ∃ rebuilt after, (free page).Yields granted (.ok ()) after ∧
      RoundTrip allocator xs rebuilt granted after := by
  have hbal := hkept.toBalanced
  obtain ⟨r, pool₁, hyields', hout⟩ := h.exists_request hbal count options
  obtain ⟨rfl, rfl⟩ := hyields.unique hyields'
  obtain ⟨line, rebuilt, hline, hserved⟩ := hbal.exists_line_of_granted hout
  obtain ⟨zs, hlen, -, -⟩ := hbal.took_of_granted hout
  obtain ⟨ys, htake⟩ := hserved.exists_take_eq (by omega)
  have htook := hserved.toTook
  have hleft := hserved.left
  rw [htake] at htook
  have hseated := h.withPool htook.size
  obtain ⟨released, pool₂, hback⟩ := hseated.exists_returned hleft htook.own
  have hgiven := hback.toGivenBack
  have hnil := htook.gaveBack (hleft.gaveBack htook.own.used hgiven)
  have hturn := hline.isRotated_drop_append count.toNat
  rw [htake] at hturn
  have hkept₁ := hkept.keep hleft (hbal.allocates hout).1
  have hlinks := hkept.relinked (hkept₁.givenBack htook.own.used hgiven) hnil
  refine ⟨rebuilt, _, hback.free, hserved.compactions, ?_, ?_, ⟨_, hback.balanced, hturn⟩, ?_, ?_,
    hgiven.compactions, rfl⟩
  · rintro rfl
    exact hbal.table_eq hback.balanced hturn (hlinks.mono fun p hp => hbal.perm.mem_iff.mpr hp)
  · rintro rfl
    obtain ⟨built, hrebuild, hbuilt, -⟩ := Pool.exists_rebuild (Pool.le_of_small hbal.small)
    have hbal' := hbal.rebuilt hbuilt
    exact ⟨built, hrebuild, hbal', hbal'.table_eq hback.balanced hturn
      (hbuilt.links.symm.trans hlinks)⟩
  · rw [← UInt64.toNat_inj]
    exact hnil.counted
  · rw [← hserved.allocations]
    exact congrArg UInt64.toNat hgiven.allocations

end Allocator

/-! ## 3. At any time -/

namespace Ledger

variable {setup granted : Allocator} {count : Word} {options : Options} {page : Page}

/-- **Whatever is granted can be given back at once, and nothing is left of it,** at any time.  The
rows of the pages show what they showed before, and the free list is the same ring from another head
on, so there is no link in the whole table that is not as it was, or as the rebuild for the request
left it. -/
theorem exists_roundTrip_run (hsetup : setup.SetUp) {requests : List Request}
    (hallows : ({ allocator := setup } : Ledger).AllowsAll requests)
    (hyields : (Allocator.request count options).Yields
      (({ allocator := setup } : Ledger).run requests).allocator (.ok (.ok page)) granted) :
    ∃ xs rebuilt after,
      (({ allocator := setup } : Ledger).run requests).allocator.pool.Balanced xs ∧
      (Allocator.free page).Yields granted (.ok ()) after ∧
      (({ allocator := setup } : Ledger).run requests).allocator.RoundTrip xs rebuilt granted
        after := by
  have hheld := (held_of_setUp hsetup).run hallows
  obtain ⟨xs, hkept⟩ := hheld.wellKept
  obtain ⟨rebuilt, after, hfree, hback⟩ := hheld.seated.exists_roundTrip hkept hyields
  exact ⟨xs, rebuilt, after, hkept.toBalanced, hfree, hback⟩

/-- Takes two pages one by one and gives them back in the other order. -/
def crossed : List Request := [.attempt 1 {}, .attempt 1 {}, .free 2, .free 1]

open Allocator in
/-- The two pages are now in descending order on the list, which is rebuilt for them. -/
theorem exists_roundTrip_run_crossed :
    threePages.SetUp ∧ ({ allocator := threePages } : Ledger).AllowsAll crossed ∧
      ∃ granted xs after,
        (Allocator.request 2 .contiguous).Yields
          (({ allocator := threePages } : Ledger).run crossed).allocator (.ok (.ok 1)) granted ∧
        granted.pool.compactions = 1 ∧
        (({ allocator := threePages } : Ledger).run crossed).allocator.pool.Balanced xs ∧
        (Allocator.free 1).Yields granted (.ok ()) after ∧
        (({ allocator := threePages } : Ledger).run crossed).allocator.RoundTrip xs true granted
          after := by
  have hallows : ({ allocator := threePages } : Ledger).AllowsAll crossed := by decide +kernel
  have hresult : ((Allocator.request 2 .contiguous).run
      (({ allocator := threePages } : Ledger).run crossed).allocator).result = .ok (.ok 1) := by
    decide +kernel
  have hbefore :
      (({ allocator := threePages } : Ledger).run crossed).allocator.pool.compactions = 0 := by
    decide +kernel
  have hcount : ((Allocator.request 2 .contiguous).run
      (({ allocator := threePages } : Ledger).run crossed).allocator).state.pool.compactions =
        1 := by
    decide +kernel
  obtain ⟨xs, rebuilt, after, hbal, hfree, hback⟩ :=
    exists_roundTrip_run setUp_threePages hallows ⟨hresult, rfl⟩
  -- the count of rebuilds tells that there was one
  have hcompacted := hback.compacted
  rw [hcount, hbefore] at hcompacted
  obtain rfl : rebuilt = true := by
    cases rebuilt with
    | false => exact absurd hcompacted (by decide)
    | true => rfl
  exact ⟨setUp_threePages, hallows, _, xs, after, ⟨hresult, rfl⟩, hcount, hbal, hfree, hback⟩

end Ledger

end PageFrames
