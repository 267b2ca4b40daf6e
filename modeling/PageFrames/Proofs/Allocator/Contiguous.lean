/-
# Requests for a run of pages

A request that needs a run, and may have the free list rebuilt to find one, is granted if and only
if the table has enough free pages in a row (`Allocator.Seated.exists_runAnswer`).  The free list
is searched in the order it happens to be in, but this order has no say in the matter: a run that
the first search misses is found by the second, when the list is in ascending order.

Every other answer is determined as well, and the pages that are granted are the run.
-/
import PageFrames.Proofs.Allocator.Allocations

namespace PageFrames

open Table

/-- Free pages in a row are no more than there are free pages. -/
theorem Pool.Balanced.count_le_of_freeRun {pool : Pool} {xs : List Page} {start count : Nat}
    (h : pool.Balanced xs) (hrun : pool.table.FreeRun start count) :
    count ≤ pool.freePages.toNat := by
  obtain ⟨pre, post, heq⟩ := hrun.freePages_eq_append
  have hlen := congrArg List.length heq
  rw [← h.counted_freePages] at hlen
  simp only [List.length_append, List.length_map, List.length_range'] at hlen
  omega

namespace Allocator

/-- The answer to a request for a run of `count` pages, of an allocator before and after it. -/
structure RunAnswer (count : Word) (before after : Allocator) (answer : Except Refusal Page) :
    Prop where
  zeroPages : answer = .error .zeroPages ↔ count.toNat = 0
  outOfMemory : answer = .error (.outOfMemory count before.pool.freePages) ↔
    before.pool.freePages.toNat < count.toNat
  granted : (∃ page, answer = .ok page) ↔
    0 < count.toNat ∧ ∃ start, before.pool.table.FreeRun start count.toNat
  noContiguousRun : answer = .error (.noContiguousRun count before.pool.freePages) ↔
    0 < count.toNat ∧ count.toNat ≤ before.pool.freePages.toNat ∧
      ¬ ∃ start, before.pool.table.FreeRun start count.toNat
  /-- The pages granted were free. -/
  free : ∀ page, answer = .ok page → before.pool.table.FreeRun page.toNat count.toNat
  /-- The pages granted are the allocation, in their order. -/
  chain : ∀ page, answer = .ok page →
    after.chain page = ((List.range count.toNat).map fun k => (page.toNat + k).toUInt32, true)
  /-- The pages granted lie one after the other in memory. -/
  addresses : ∀ page, answer = .ok page → ∃ a, after.addressOf page = .ok a ∧
    ∀ k < count.toNat, ∃ b, after.addressOf (page.toNat + k).toUInt32 = .ok b ∧
      b.toNat = a.toNat + k * 4096

variable {allocator : Allocator} {pool' : Pool} {xs : List Page} {options : Options}
  {count : Word} {page : Page}

/-- The pages of a run that was taken are those from the first one on. -/
theorem eq_range_of_run {ys : List Page} {n : Nat} (hlen : ys.length = n)
    (hrun : ∀ (k : Nat) (p : Page), ys[k]? = some p → p.toNat = page.toNat + k) :
    ys = (List.range n).map fun k => (page.toNat + k).toUInt32 := by
  refine List.ext_getElem? ?_
  intro k
  rcases Nat.lt_or_ge k n with hk | hk
  · obtain ⟨p, hget⟩ : ∃ p, ys[k]? = some p := ⟨_, List.getElem?_eq_getElem (hlen ▸ hk)⟩
    have hnat := hrun k _ hget
    rw [hget, List.getElem?_map, List.getElem?_range hk, Option.map_some, Option.some.injEq, ← hnat]
    simp [Nat.toUInt32]
  · rw [List.getElem?_eq_none (by omega), List.getElem?_eq_none (by simpa using hk)]

/-- A request for a run that is granted is answered with a run. -/
theorem Seated.runAnswer_of_granted (h : allocator.Seated) (hbal : allocator.pool.Balanced xs)
    (hneeds : allocator.needsRun options = true)
    (hout : allocator.Comes xs count options (.ok (.ok page)) pool') :
    RunAnswer count allocator (allocator.withPool pool') (.ok page) := by
  obtain ⟨ys, hlen, htook, hrun⟩ := hbal.took_of_granted hout
  have hseated := h.withPool htook.size
  have hpages : page :: ys = (List.range count.toNat).map fun k => (page.toNat + k).toUInt32 :=
    eq_range_of_run hlen (hrun hneeds)
  have hmem : ∀ k < count.toNat, (page.toNat + k).toUInt32 ∈ page :: ys := by
    intro k hk
    rw [hpages]
    exact List.mem_map.mpr ⟨k, List.mem_range.mpr hk, rfl⟩
  have hnat : ∀ k < count.toNat, (page.toNat + k).toUInt32.toNat = page.toNat + k := by
    intro k hk
    -- the last page of the run is the greatest, and it is a handle too
    obtain ⟨last, hget⟩ : ∃ last, (page :: ys)[count.toNat - 1]? = some last :=
      ⟨_, List.getElem?_eq_getElem (by rw [List.length_cons]; omega)⟩
    have hlast := hrun hneeds _ _ hget
    have hlt := last.toNat_lt
    exact toNat_toUInt32 (by omega)
  have hfree : allocator.pool.table.FreeRun page.toNat count.toNat := by
    refine ⟨?_, fun k hk => htook.free _ (hmem k hk)⟩
    have hlast := (htook.free _ (hmem (count.toNat - 1) (by omega))).lt_size
    rw [hnat _ (by omega)] at hlast
    omega
  have hcount := hbal.count_le_of_freeRun hfree
  obtain ⟨a, ha, hsum⟩ := hseated.exists_addressOf (htook.own.used page (by simp)).lt_size
  refine ⟨?_, ?_, ?_, ?_, ?_, ?_, ?_⟩
  · simp only [reduceCtorEq, false_iff]
    omega
  · simp only [reduceCtorEq, false_iff]
    omega
  · have hpos : 0 < count.toNat := by omega
    simp only [Except.ok.injEq, exists_eq', true_iff]
    exact ⟨hpos, page.toNat, hfree⟩
  · simp only [reduceCtorEq, false_iff]
    rintro ⟨-, -, hnone⟩
    exact hnone ⟨page.toNat, hfree⟩
  · rintro _ ⟨⟩
    exact hfree
  · rintro _ ⟨⟩
    rw [← hpages]
    exact hseated.chain_eq htook.own
  · rintro _ ⟨⟩
    refine ⟨a, ha, ?_⟩
    intro k hk
    obtain ⟨b, hb, hbsum⟩ := hseated.exists_addressOf (htook.own.used _ (hmem k hk)).lt_size
    rw [hnat k hk] at hbsum
    exact ⟨b, hb, by omega⟩

/-- A refusal grants nothing, so it is right if its reason is. -/
theorem runAnswer_of_refusal {after : Allocator} {reason : Refusal}
    (hzero : reason = .zeroPages ↔ count.toNat = 0)
    (hmemory : reason = .outOfMemory count allocator.pool.freePages ↔
      allocator.pool.freePages.toNat < count.toNat)
    (habsent : ¬ (0 < count.toNat ∧ ∃ start, allocator.pool.table.FreeRun start count.toNat))
    (hrun : reason = .noContiguousRun count allocator.pool.freePages ↔
      0 < count.toNat ∧ count.toNat ≤ allocator.pool.freePages.toNat) :
    RunAnswer count allocator after (.error reason) := by
  have hnot : ∀ page, (.error reason : Except Refusal Page) ≠ .ok page := by
    intro page he
    cases he
  refine ⟨?_, ?_, ?_, ?_, ?_, ?_, ?_⟩
  · rw [Except.error.injEq, hzero]
  · rw [Except.error.injEq, hmemory]
  · constructor
    · rintro ⟨page, he⟩
      exact absurd he (hnot page)
    · intro hsome
      exact absurd hsome habsent
  · rw [Except.error.injEq, hrun]
    constructor
    · rintro ⟨hpos, hle⟩
      exact ⟨hpos, hle, fun hsome => habsent ⟨hpos, hsome⟩⟩
    · rintro ⟨hpos, hle, -⟩
      exact ⟨hpos, hle⟩
  · intro page he
    exact absurd he (hnot page)
  · intro page he
    exact absurd he (hnot page)
  · intro page he
    exact absurd he (hnot page)

/-- A request for a run that is refused, where the list may be rebuilt, is refused for the right
reason. -/
theorem runAnswer_of_refused {after : Allocator} {reason : Refusal}
    (hbal : allocator.pool.Balanced xs) (hmay : allocator.mayCompact options = true)
    (hout : allocator.Comes xs count options (.ok (.error reason)) pool') :
    RunAnswer count allocator after (.error reason) := by
  have hcounted := hbal.counted
  cases hout with
  | zeroPages hzero =>
    have hnat : count.toNat = 0 := congrArg UInt64.toNat hzero
    refine runAnswer_of_refusal ?_ ?_ ?_ ?_
    · simpa using hnat
    · simp [hnat]
    · simp [hnat]
    · simp [hnat]
  | outOfMemory hmany =>
    rw [← hcounted] at hmany
    refine runAnswer_of_refusal ?_ ?_ ?_ ?_
    · simp only [reduceCtorEq, false_iff]
      omega
    · simpa using hmany
    · rintro ⟨-, start, hrun⟩
      have hle := hbal.count_le_of_freeRun hrun
      omega
    · simp only [reduceCtorEq, false_iff]
      omega
  | hidden _ _ _ _ hnot =>
    rw [hmay] at hnot
    cases hnot
  | absent _ hmany hfew _ _ _ _ hnone =>
    rw [← hcounted] at hfew
    refine runAnswer_of_refusal ?_ ?_ ?_ ?_
    · simp only [reduceCtorEq, false_iff]
      omega
    · simpa using hfew
    · rintro ⟨hpos, hsome⟩
      -- a run of the table is one of the list of its free pages in ascending order
      rw [← exists_runAt_freePages_iff hpos (Pool.le_of_small hbal.small)] at hsome
      obtain ⟨i, hi⟩ := hsome
      exact hnone i hi
    · simp only [true_iff]
      omega

/-- **A request for a run is granted exactly where the table has one.**  The order of the free list
can hide a run from the first search.  If it finds none, the list is rebuilt, and on a list in
ascending order free pages in a row of the table come in a row.  So whether the request is granted
does not depend on the order in which pages were given back. -/
theorem Seated.exists_runAnswer (h : allocator.Seated) (hbal : allocator.pool.Balanced xs)
    (hallocations : allocator.pool.allocations.toNat < 2 ^ 64 - 1)
    (hcompactions : allocator.pool.compactions.toNat < 2 ^ 64 - 1)
    (hneeds : allocator.needsRun options = true) (hmay : allocator.mayCompact options = true)
    (count : Word) :
    ∃ answer after, (request count options).Yields allocator (.ok answer) after ∧
      RunAnswer count allocator after answer := by
  obtain ⟨r, pool', hyields, hout⟩ := h.exists_request hbal count options
  cases r with
  | error fault =>
    cases hout with
    | uncounted hfull => omega
    | unrecorded hfull => omega
  | ok answer =>
    refine ⟨answer, allocator.withPool pool', hyields, ?_⟩
    cases answer with
    | ok page => exact h.runAnswer_of_granted hbal hneeds hout
    | error reason => exact runAnswer_of_refused hbal hmay hout

/-- A virtual region of three free pages, with the free list in descending order. -/
def descending : Allocator where
  region := ⟨0x10000, 0x3000⟩
  kind := .virtual
  metadata := ⟨0x1000, 0x1000⟩
  config := {}
  pool :=
    { table := #[⟨0x10000, .free, .empty, ⟨1, 2⟩, .nil⟩, ⟨0x11000, .free, .empty, ⟨2, 0⟩, .nil⟩,
        ⟨0x12000, .free, .empty, ⟨0, 1⟩, .nil⟩]
      free := { head := some 2 }
      freePages := 3 }

/-- The list shows no run of two pages, and the request is granted all the same. -/
theorem exists_runAnswer_descending :
    ∃ answer after, (request 2 {}).Yields descending (.ok answer) after ∧
      RunAnswer 2 descending after answer :=
  Seated.exists_runAnswer (by decide) (by decide +kernel : descending.pool.Balanced [2, 1, 0])
    (by decide) (by decide) (by decide) (by decide) 2

example : ((request 2 {}).run descending).result = .ok (.ok 0) := by decide +kernel

end Allocator

end PageFrames
