/-
# Requests that are answered

A request for pages is granted or refused.  The alternative is a fault, and of the faults that
could be raised on the way all but one are out of the question in a pool in balance: no row is
asked for that is not there, no count goes below zero, and the free list does not run out.  What
is left is a counter that is at its end.

Both counters can be kept track of.  Each request counts at most one rebuild and at most one
granted request, and one that is counted as granted takes a page, so not every request can be
(`Pool.Tally`).  After fewer than 2^64 - 1 requests, both counters have room for one more.

One request more can be too many.  Where the pages that are free are enough but not in a row, every
request for a run has the free list rebuilt in vain (`Pool.Gapped`).  After 2^64 - 1 of these the
next one is not answered, since its rebuild cannot be counted.
-/
import PageFrames.Proofs.Runs

namespace PageFrames

/-! ## 1. Counters -/

/-- What the counters of a pool can be after `n` requests and releases.  If all of them were counted
as granted, each has taken a page for good. -/
structure Pool.Tally (n : Nat) (pool : Pool) : Prop where
  compactions : pool.compactions.toNat ≤ n
  allocations : pool.allocations.toNat ≤ n
  spent : pool.allocations.toNat = n → pool.freePages.toNat + n ≤ pool.table.size

namespace Pool.Tally

variable {pool pool' : Pool} {n : Nat}

/-- A release, or anything else that grants nothing, can be counted in with the rest. -/
theorem of_allocations_eq (h : pool.Tally n) (hallocations : pool'.allocations = pool.allocations)
    (hcompactions : pool'.compactions.toNat ≤ pool.compactions.toNat + 1) :
    pool'.Tally (n + 1) where
  compactions := hcompactions.trans (Nat.succ_le_succ h.compactions)
  allocations := by
    rw [hallocations]
    exact h.allocations.trans (Nat.le_succ n)
  spent := by
    intro hall
    have hle := h.allocations
    rw [hallocations] at hall
    omega

/-- A request for pages counts as one more. -/
theorem allocates {count : Word} {run compaction : Bool} {tag : Tag} {xs : List Page}
    {r : Except Fault (Except Refusal Page)} (h : pool.Tally n) (hbal : pool.Balanced xs)
    (h' : Allocates count run compaction tag pool xs r pool') : pool'.Tally (n + 1) := by
  rcases h'.allocations_eq_or_lt with hsame | ⟨hmore, hfewer⟩
  · exact h.of_allocations_eq hsame h'.compactions_le
  · have hallocations := h.allocations
    refine ⟨h'.compactions_le.trans (Nat.succ_le_succ h.compactions), by omega, ?_⟩
    intro hall
    have hspent := h.spent (by omega)
    have hsize := (hbal.allocates h').2.1
    omega

/-- In fewer than 2^64 requests the count of granted requests does not come to its end: the pages
would have run out before. -/
theorem allocations_lt {xs : List Page} (h : pool.Tally n) (hbal : pool.Balanced xs)
    (hn : n < 2 ^ 64) : pool.allocations.toNat + 1 < 2 ^ 64 := by
  have hallocations := h.allocations
  have hsmall := le_of_small hbal.small
  by_cases hall : pool.allocations.toNat = n
  · have hspent := h.spent hall
    omega
  · omega

end Pool.Tally

/-! ## 2. Answers -/

namespace Allocator

variable {allocator : Allocator} {requests : List Request} {n : Nat}

/-- **Every request for pages is answered,** whatever is asked for. -/
structure Answers (allocator : Allocator) : Prop where
  request : ∀ count options, ∃ answer after,
    (request count options).Yields allocator (.ok answer) after
  /-- A region that is granted has the size of as many pages as are needed. -/
  reserve : ∀ size, ∃ granted after, (reserve size).Yields allocator (.ok granted) after ∧
    ∀ region ∈ granted, region.size.toNat = (pagesFor size).toNat * 4096

/-- **An allocator in order answers** as long as its counters have room.  In its pool there are as
many pages on the free list as are counted, and each of them has a row. -/
theorem InOrder.answers (h : allocator.InOrder)
    (hallocations : allocator.pool.allocations.toNat + 1 < 2 ^ 64)
    (hcompactions : allocator.pool.compactions.toNat + 1 < 2 ^ 64) : allocator.Answers := by
  obtain ⟨xs, hkept⟩ := h.wellKept
  constructor
  · intro count options
    obtain ⟨r, pool', hyields, hout⟩ := h.seated.exists_request hkept.toBalanced count options
    obtain ⟨answer, rfl⟩ := hout.exists_answer hallocations hcompactions
    exact ⟨answer, _, hyields⟩
  · intro size
    obtain ⟨r, granted, pool', hyields, hout, hreserves⟩ :=
      h.seated.exists_reserve hkept.toBalanced size
    obtain ⟨answer, rfl⟩ := hout.exists_answer hallocations hcompactions
    cases hreserves with
    | refused => exact ⟨none, _, hyields, by simp⟩
    | granted _ _ hsize => exact ⟨_, _, hyields, by simpa using hsize⟩

/-- Every request is counted as one more, whatever it ends with. -/
theorem InOrder.tally_after (h : allocator.InOrder) (htally : allocator.pool.Tally n)
    (request : Request) :
    (request.after allocator).InOrder ∧ (request.after allocator).pool.Tally (n + 1) := by
  obtain ⟨xs, hkept⟩ := h.wellKept
  obtain ⟨r, pool', hyields, hends⟩ := h.seated.exists_ends hkept.toBalanced h.checked request
  obtain ⟨hsize, hkept'⟩ := wellKept_of_ends hkept hends
  rw [show request.after allocator = allocator.withPool pool' from hyields.2]
  refine ⟨h.withPool hsize hkept', ?_⟩
  cases hends with
  | asked _ hout => exact htally.allocates hkept.toBalanced hout
  | freed _ hback =>
    have hsame : pool'.compactions.toNat = allocator.pool.compactions.toNat :=
      congrArg UInt64.toNat hback.compactions
    exact htally.of_allocations_eq hback.allocations (hsame.le.trans (Nat.le_succ _))
  | rejected => exact htally.of_allocations_eq rfl (Nat.le_succ _)

/-- **A run is counted step by step.**  Each request adds one rebuild and one granted request at
most. -/
theorem InOrder.tally_afterAll (h : allocator.InOrder) (htally : allocator.pool.Tally n)
    (requests : List Request) :
    (Request.afterAll allocator requests).InOrder ∧
      (Request.afterAll allocator requests).pool.Tally (n + requests.length) := by
  induction requests generalizing allocator n with
  | nil => exact ⟨h, htally⟩
  | cons request requests ih =>
    obtain ⟨horder, hcounted⟩ := h.tally_after htally request
    rw [List.length_cons, Nat.add_comm requests.length, ← Nat.add_assoc]
    exact ih horder hcounted

/-- An allocator that was set up has counted nothing. -/
theorem SetUp.tally (h : allocator.SetUp) : allocator.pool.Tally 0 := by
  obtain ⟨table, hstarted⟩ := h.exists_started
  refine ⟨(congrArg UInt64.toNat hstarted.compactions).le,
    (congrArg UInt64.toNat hstarted.allocations).le, ?_⟩
  intro _
  rw [hstarted.counted]
  exact hstarted.wellKept.length_le

/-- **No request for pages ends with a fault** if releases are checked.  Whatever was asked for and
given back before, in fewer than 2^64 - 1 requests and releases, and whatever became of these, the
next request is answered.  The pool is in balance throughout, so that no row is missing and no count
goes below zero, and after so few requests neither of the counters is at its end. -/
theorem SetUp.answers_afterAll (h : allocator.SetUp)
    (hchecked : allocator.config.checkedFree = true) (hlength : requests.length < 2 ^ 64 - 1) :
    (Request.afterAll allocator requests).Answers := by
  obtain ⟨hseated, -, hkept⟩ := h.wellKept
  have horder : allocator.InOrder := ⟨hseated, ⟨_, hkept⟩, hchecked⟩
  obtain ⟨horder', htally⟩ := horder.tally_afterAll h.tally requests
  obtain ⟨xs, hkept'⟩ := horder'.wellKept
  have hcompactions := htally.compactions
  exact horder'.answers (htally.allocations_lt hkept'.toBalanced (by omega)) (by omega)

/-- Three pages, of which two are taken, before pages are given back that are reserved and owned. -/
theorem answers_afterAll_threePages :
    threePages.SetUp ∧ threePages.config.checkedFree = true ∧
      (Request.afterAll threePages [.attempt 2 {}, .free 0, .free 2]).Answers :=
  ⟨setUp_threePages, rfl, setUp_threePages.answers_afterAll rfl (by decide)⟩

end Allocator

/-! ## 3. Rebuilds in vain -/

open Table

/-- At least `count` pages are free, more than one, but there is no run of them.  The free list has
them in ascending order, as it is left by a rebuild. -/
structure Pool.Gapped (count : Nat) (pool : Pool) : Prop where
  balanced : pool.Balanced pool.table.freePages
  many : 1 < count
  enough : count ≤ pool.table.freePages.length
  noRun : ∀ i, ¬ RunAt count pool.table.freePages i

namespace Pool.Gapped

variable {pool pool' : Pool} {n : Nat} {count : Word} {tag : Tag}
  {r : Except Fault (Except Refusal Page)}

theorem rebuilt (h : pool.Gapped n) (h' : Rebuilt pool pool') : pool'.Gapped n := by
  have hsame := h'.table_freePages
  exact ⟨hsame.symm ▸ h.balanced.rebuilt h', h.many, hsame.symm ▸ h.enough, hsame.symm ▸ h.noRun⟩

/-- There are no pages to line up. -/
theorem not_lined {pool₁ : Pool} {queue : List Page} (h : pool.Gapped n) :
    ¬ Lined n true true pool pool.table.freePages pool₁ queue := by
  intro hlined
  cases hlined with
  | asIs hsingle => exact absurd (hsingle.resolve_left (by simp)) (not_le.mpr h.many)
  | turned _ _ hleast => exact h.noRun _ hleast.1
  | rebuilt _ _ _ _ _ _ hleast => exact h.noRun _ hleast.1

/-- **A request for a run has the list rebuilt in vain,** and if this cannot be counted any more, it
ends with a fault. -/
theorem allocates (h : pool.Gapped count.toNat)
    (h' : Allocates count true true tag pool pool.table.freePages r pool') :
    Rebuilt pool pool' ∧
      (pool.compactions.toNat + 1 < 2 ^ 64 →
        pool'.compactions.toNat = pool.compactions.toNat + 1) ∧
      (2 ^ 64 ≤ pool.compactions.toNat + 1 → r = .error .addOverflow) := by
  have hmany := h.many
  cases h' with
  | zeroPages hzero =>
    rw [hzero] at hmany
    exact absurd hmany (by decide)
  | outOfMemory hfew => exact absurd h.enough (not_le.mpr hfew)
  | hidden _ _ _ _ hnot => cases hnot
  | absent _ _ _ _ _ hbuilt hcounted =>
    refine ⟨hbuilt, fun _ => hcounted, fun hfull => ?_⟩
    have hlt := pool'.compactions.toNat_lt
    omega
  | uncounted hfull hbuilt => exact ⟨hbuilt, fun hroom => by omega, fun _ => rfl⟩
  | granted _ hlined => exact absurd hlined h.not_lined
  | unrecorded _ hlined => exact absurd hlined h.not_lined

end Pool.Gapped

namespace Allocator

variable {allocator : Allocator} {count : Word} {options : Options} {n : Nat}

/-- Under the options, a request of `count` pages is one for a run that the pool does not have, and
the list may be rebuilt to find it. -/
structure Gapped (count : Word) (options : Options) (allocator : Allocator) : Prop where
  seated : allocator.Seated
  needsRun : allocator.needsRun options = true
  mayCompact : allocator.mayCompact options = true
  pool : allocator.pool.Gapped count.toNat

/-- What the request comes to in the pool. -/
theorem Gapped.comes {r : Except Fault (Except Refusal Page)} {pool' : Pool}
    (h : allocator.Gapped count options)
    (hout : allocator.Comes allocator.pool.table.freePages count options r pool') :
    Pool.Allocates count true true options.tag allocator.pool allocator.pool.table.freePages r
      pool' := by
  rw [Comes, h.needsRun, h.mayCompact] at hout
  exact hout

/-- **The request counts one more rebuild** and changes nothing else that matters to the next. -/
theorem Gapped.after (h : allocator.Gapped count options)
    (hroom : allocator.pool.compactions.toNat + 1 < 2 ^ 64) :
    ((Request.attempt count options).after allocator).Gapped count options ∧
      ((Request.attempt count options).after allocator).pool.compactions.toNat =
        allocator.pool.compactions.toNat + 1 := by
  have hasked : (Request.attempt count options).asked = some (count, options) := rfl
  obtain ⟨r, r', pool', hyields, hout, -⟩ :=
    Request.exists_perform h.seated h.pool.balanced hasked
  obtain ⟨hbuilt, hcounted, -⟩ := h.pool.allocates (h.comes hout)
  rw [show (Request.attempt count options).after allocator = allocator.withPool pool' from
    hyields.2]
  exact ⟨⟨h.seated.withPool hbuilt.links.size_eq, h.needsRun, h.mayCompact,
    h.pool.rebuilt hbuilt⟩, hcounted hroom⟩

/-- **A run of the request** counts as many rebuilds, as long as the counter has room for them. -/
theorem Gapped.afterAll (h : allocator.Gapped count options)
    (hroom : allocator.pool.compactions.toNat + n < 2 ^ 64) :
    (Request.afterAll allocator (List.replicate n (.attempt count options))).Gapped count
        options ∧
      (Request.afterAll allocator
        (List.replicate n (.attempt count options))).pool.compactions.toNat =
          allocator.pool.compactions.toNat + n := by
  induction n generalizing allocator with
  | zero => exact ⟨h, rfl⟩
  | succ n ih =>
    obtain ⟨hafter, hcounted⟩ := h.after (by omega)
    obtain ⟨hafterAll, hall⟩ := ih hafter (by omega)
    exact ⟨hafterAll, hall.trans (by omega)⟩

/-- **When the counter is at its end** the request ends with a fault. -/
theorem Gapped.exists_request_error (h : allocator.Gapped count options)
    (hfull : 2 ^ 64 ≤ allocator.pool.compactions.toNat + 1) :
    ∃ after, (request count options).Yields allocator (.error .addOverflow) after := by
  obtain ⟨r, pool', hyields, hout⟩ := h.seated.exists_request h.pool.balanced count options
  obtain ⟨-, -, hfault⟩ := h.pool.allocates (h.comes hout)
  exact ⟨_, hfault hfull ▸ hyields⟩

/-- Three pages after a setup in which the one in the middle was marked as in use. -/
def sundered : Allocator where
  region := ⟨0x1000, 0x3000⟩
  kind := .physical
  metadata := ⟨0x8000, 0x1000⟩
  config := {}
  pool :=
    { table := #[⟨0x1000, .free, .empty, ⟨2, 2⟩, .nil⟩, ⟨0x2000, .used, .empty, .none, .nil⟩,
        ⟨0x3000, .free, .empty, ⟨0, 0⟩, .nil⟩]
      free := { head := some 0 }
      freePages := 2 }

theorem gapped_sundered : sundered.Gapped 2 .contiguous where
  seated := by decide
  needsRun := rfl
  mayCompact := rfl
  pool := ⟨by decide +kernel, by decide, by decide, runPage_eq_none (by decide) (by decide)⟩

/-- If each of 2^64 - 1 requests asked for the two free pages in a row, the next one like them is
not answered. -/
theorem not_answers_afterAll_sundered :
    sundered.SetUp ∧ sundered.config.checkedFree = true ∧
      (List.replicate (2 ^ 64 - 1) (Request.attempt 2 .contiguous)).length < 2 ^ 64 ∧
      (∃ after, (request 2 .contiguous).Yields
        (Request.afterAll sundered (List.replicate (2 ^ 64 - 1) (.attempt 2 .contiguous)))
        (.error .addOverflow) after) ∧
      ¬ (Request.afterAll sundered
        (List.replicate (2 ^ 64 - 1) (.attempt 2 .contiguous))).Answers := by
  have hsetUp : sundered.SetUp :=
    ⟨Unit, ⟨0x1000, 0x3000⟩, .physical, {}, fun _ => pure (some ⟨0x8000, 0x1000⟩),
      [pure (.used ⟨0x2000, 0x1000⟩)], DirectMap.identity.access, (), [1], by decide +kernel⟩
  have hzero : sundered.pool.compactions.toNat = 0 := rfl
  obtain ⟨hgapped, hcounted⟩ := gapped_sundered.afterAll (show _ + (2 ^ 64 - 1) < 2 ^ 64 by omega)
  obtain ⟨after, hfault⟩ := hgapped.exists_request_error (by omega)
  refine ⟨hsetUp, rfl, ?_, ⟨after, hfault⟩, ?_⟩
  · rw [List.length_replicate]
    omega
  · intro hanswers
    obtain ⟨answer, after', hanswer⟩ := hanswers.request 2 .contiguous
    cases (hfault.unique hanswer).1

end Allocator

end PageFrames
