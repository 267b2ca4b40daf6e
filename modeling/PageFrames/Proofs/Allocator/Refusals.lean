/-
# Requests that are refused

A request that is refused takes nothing.  Each page shows what it showed before, but for its link,
and the counts of free pages and of granted requests are the same.  The links are touched in one
case only: a run was asked for, the free list showed none, and the list was rebuilt before it was
known that the table has none either.  Then the list is left in ascending order, and the rebuild is
counted (`Allocator.Spared`).

To demand pages is to request them and to take a refusal for a fault.  The fault comes after
everything else, so it leaves what the refusal leaves (`Allocator.Seated.exists_demandAnswer`).
-/
import PageFrames.Proofs.Allocator.Requests

namespace PageFrames

open Table

/-! ## 1. What is left by a refusal -/

/-- The reason tells how many pages were asked for and how many were free; of a request for no page
there is nothing to tell. -/
def Refusal.Tells (requested available : Word) : Refusal → Prop
  | outOfMemory count free | noContiguousRun count free => count = requested ∧ free = available
  | zeroPages => requested = 0

/-- The free list has exactly the free pages, in ascending order. -/
def Pool.Ascending (pool : Pool) : Prop :=
  ∃ xs, pool.free.Threads pool.table xs ∧ xs.Pairwise (· < ·) ∧ ∀ p, p ∈ xs ↔ pool.table.IsFree p

/-- A list that has been rebuilt is in ascending order. -/
theorem Pool.Balanced.ascending_rebuilt {pool pool' : Pool} {xs : List Page}
    (h : pool.Balanced xs) (h' : Pool.Rebuilt pool pool') : pool'.Ascending :=
  ⟨pool.table.freePages, h'.threads, pairwise_freeBelow _ (Pool.le_of_small h.small),
    (h.rebuilt h').mem_iff⟩

namespace Allocator

variable {allocator : Allocator} {pool' : Pool} {xs : List Page} {options : Options}
  {count : Word} {compaction : Bool} {reason : Refusal}

/-- A run of pages has been looked for in vain, even after the free list was rebuilt. -/
def LookedTwice (count : Word) (compaction : Bool) (reason : Refusal) (before : Allocator) : Prop :=
  compaction = true ∧ reason = .noContiguousRun count before.pool.freePages

/-- **What a request for `count` pages leaves** that is refused for the reason, where `compaction`
says whether the free list might be rebuilt. -/
structure Spared (count : Word) (compaction : Bool) (reason : Refusal) (before after : Allocator) :
    Prop where
  tells : reason.Tells count before.pool.freePages
  /-- Nothing but the pool can have changed. -/
  fixed : after = before.withPool after.pool
  /-- All that a row shows but its link is as before. -/
  rows : after.pool.table.map Descriptor.bare = before.pool.table.map Descriptor.bare
  freePages : after.pool.freePages = before.pool.freePages
  allocations : after.pool.allocations = before.pool.allocations
  unchanged : ¬ LookedTwice count compaction reason before → after = before
  rebuilt : LookedTwice count compaction reason before → after.pool.Ascending ∧
    (∀ p, before.pool.table.IsUsed p →
      after.pool.table[p.toNat]? = before.pool.table[p.toNat]?) ∧
    after.pool.compactions.toNat = before.pool.compactions.toNat + 1

/-- A refusal without a search for a run leaves everything as it is, and so does one after a search
that must not rebuild the list. -/
theorem spared_self (htells : reason.Tells count allocator.pool.freePages)
    (honce : ¬ LookedTwice count compaction reason allocator) :
    Spared count compaction reason allocator allocator where
  tells := htells
  fixed := rfl
  rows := rfl
  freePages := rfl
  allocations := rfl
  unchanged _ := rfl
  rebuilt htwice := absurd htwice honce

/-- **A request that is refused** spares what there is.  Where the list was rebuilt in vain, it is
in ascending order now, and no row of a page in use has been touched. -/
theorem spared_of_refused (hbal : allocator.pool.Balanced xs)
    (hout : allocator.Comes xs count options (.ok (.error reason)) pool') :
    Spared count (allocator.mayCompact options) reason allocator (allocator.withPool pool') := by
  cases hout with
  | zeroPages hzero => exact spared_self hzero (by simp [LookedTwice])
  | outOfMemory => exact spared_self ⟨rfl, rfl⟩ (by simp [LookedTwice])
  | hidden _ _ _ _ hnot => exact spared_self ⟨rfl, rfl⟩ (by simp [LookedTwice, hnot])
  | absent _ _ _ _ hmay hbuilt hcompactions =>
    refine ⟨⟨rfl, rfl⟩, rfl, hbuilt.links.bare, hbuilt.freePages, hbuilt.allocations, ?_, ?_⟩
    · intro honce
      exact absurd ⟨hmay, rfl⟩ honce
    · intro _
      refine ⟨hbal.ascending_rebuilt hbuilt, ?_, hcompactions⟩
      intro p hp
      exact hbuilt.links.off p fun hmem => (hbal.isFree_of_mem_freePages p hmem).not_isUsed hp

/-! ## 2. Demands -/

/-- What becomes of a demand for `count` pages, which ends with `result`, where the request for them
is answered with `answer`. -/
structure DemandAnswer (count : Word) (options : Options) (before after : Allocator)
    (answer : Except Refusal Page) (result : Except Fault Page) : Prop where
  fails_iff : (∃ fault, result = .error fault) ↔ ∃ reason, answer = .error reason
  granted_iff : ∀ page, result = .ok page ↔ answer = .ok page
  denied : ∀ reason, answer = .error reason → ∃ text, before.region.text = .ok text ∧
    result = .error (.denied reason before.kind text)
  spared : ∀ reason, answer = .error reason →
    Spared count (before.mayCompact options) reason before after
  /-- The bookkeeping is in order again. -/
  list : ∃ xs, after.pool.Balanced xs

/-- A virtual region of four pages of which every second one is in use, with the free list in
descending order. -/
def chequered : Allocator where
  region := ⟨0x10000, 0x4000⟩
  kind := .virtual
  metadata := ⟨0x1000, 0x1000⟩
  config := {}
  pool :=
    { table := #[⟨0x10000, .free, .empty, ⟨2, 2⟩, .nil⟩, ⟨0x11000, .used, .empty, .none, 1⟩,
        ⟨0x12000, .free, .empty, ⟨0, 0⟩, .nil⟩, ⟨0x13000, .used, .empty, .none, 3⟩]
      free := { head := some 2 }
      freePages := 2
      allocations := 2 }

-- the list is rebuilt in vain: it begins with the lower page now
example : ((request 2 {}).run chequered).result = .ok (.error (.noContiguousRun 2 2)) ∧
    ((request 2 {}).run chequered).state.pool.free.head = some 0 := by decide +kernel

end Allocator

end PageFrames
