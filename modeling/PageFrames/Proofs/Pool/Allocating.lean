/-
# What a request comes to

All that a request for pages can come to in a pool in balance is listed by `Pool.Allocates`, with
the conditions under which each case arises and the pool that it leaves;
`Pool.Balanced.exists_allocates` says that there is no other.  A request is refused, or granted,
or runs into a counter that is at its end.

The pages that are granted are the first ones of the free list as it is lined up for the request
(`Pool.Lined`): as it is, or turned to the first run that it shows, or rebuilt and turned to the
lowest run of the table.
-/
import PageFrames.Proofs.Pool.Runs
import PageFrames.Proofs.Pool.Taking

namespace PageFrames.Pool

open Table

variable {pool pool₁ pool₂ : Pool} {xs queue : List Page} {tag : Tag}

/-! ## 1. Lining up -/

/-- The free list of the second pool has the pages in the order in which a request for `count`
pages, in a run or not, takes them from the first pool, whose free list has them in the order
`xs`. -/
inductive Lined (count : Nat) (run compaction : Bool) (pool : Pool) (xs : List Page) :
    Pool → List Page → Prop
  | asIs : run = false ∨ count ≤ 1 → Lined count run compaction pool xs pool xs
  | turned {i : Nat} {free : FreeList} : run = true → 1 < count → LeastRun count xs i →
      free.Threads pool.table (xs.drop i ++ xs.take i) →
      Lined count run compaction pool xs { pool with free } (xs.drop i ++ xs.take i)
  | rebuilt {i : Nat} {free : FreeList} {pool₁ : Pool} : run = true → 1 < count →
      (∀ j, ¬ RunAt count xs j) → compaction = true → Rebuilt pool pool₁ →
      pool₁.compactions.toNat = pool.compactions.toNat + 1 →
      LeastRun count pool.table.freePages i →
      free.Threads pool₁.table (pool.table.freePages.drop i ++ pool.table.freePages.take i) →
      Lined count run compaction pool xs { pool₁ with free }
        (pool.table.freePages.drop i ++ pool.table.freePages.take i)

/-- A list can be turned to any place of its sequence. -/
theorem Balanced.exists_turn (h : pool.Balanced xs) {i : Nat} {page : Page}
    (hi : xs[i]? = some page) :
    ∃ free, pool.free.turnTo page = .ok free ∧
      free.Threads pool.table (xs.drop i ++ xs.take i) := by
  obtain ⟨hlt, hget⟩ := List.getElem?_eq_some_iff.mp hi
  have hdrop : xs.drop i = page :: xs.drop (i + 1) := by
    rw [List.drop_eq_getElem_cons hlt, hget]
  have hsplit : pool.free.Threads pool.table (xs.take i ++ page :: xs.drop (i + 1)) := by
    rw [← hdrop, List.take_append_drop]
    exact h.threads
  obtain ⟨free, hturn, hthreads⟩ := hsplit.turnTo
  exact ⟨free, hturn, hdrop ▸ hthreads⟩

/-- A list that has been turned has the same pages. -/
theorem Balanced.turned (h : pool.Balanced xs) {i : Nat} {free : FreeList}
    (hthreads : free.Threads pool.table (xs.drop i ++ xs.take i)) :
    ({ pool with free } : Pool).Balanced (xs.drop i ++ xs.take i) where
  small := h.small
  threads := hthreads
  mem_iff := by
    intro p
    have hperm : (xs.drop i ++ xs.take i).Perm xs :=
      List.perm_append_comm.trans (List.Perm.of_eq (List.take_append_drop i xs))
    exact hperm.mem_iff.trans (h.mem_iff p)
  counted := by
    rw [List.length_append, Nat.add_comm, ← List.length_append, List.take_append_drop]
    exact h.counted

/-- **Lining up keeps a pool in balance,** since it has the same pages in another order. -/
theorem Balanced.lined {count : Nat} {run compaction : Bool} (h : pool.Balanced xs)
    (h' : Lined count run compaction pool xs pool₁ queue) : pool₁.Balanced queue := by
  cases h' with
  | asIs => exact h
  | turned _ _ _ hthreads => exact h.turned hthreads
  | rebuilt _ _ _ _ hbuilt _ _ hthreads => exact (h.rebuilt hbuilt).turned hthreads

/-- Lining up changes links of free pages only. -/
theorem Lined.links {count : Nat} {run compaction : Bool}
    (h : Lined count run compaction pool xs pool₁ queue) :
    Relinked pool.table.freePages pool.table pool₁.table := by
  cases h with
  | asIs => exact Relinked.refl _ _
  | turned => exact Relinked.refl _ _
  | rebuilt _ _ _ _ hbuilt => exact hbuilt.links

theorem Lined.allocations {count : Nat} {run compaction : Bool}
    (h : Lined count run compaction pool xs pool₁ queue) :
    pool₁.allocations = pool.allocations := by
  cases h with
  | asIs => rfl
  | turned => rfl
  | rebuilt _ _ _ _ hbuilt => exact hbuilt.allocations

theorem Lined.freePages {count : Nat} {run compaction : Bool}
    (h : Lined count run compaction pool xs pool₁ queue) : pool₁.freePages = pool.freePages := by
  cases h with
  | asIs => rfl
  | turned => rfl
  | rebuilt _ _ _ _ hbuilt => exact hbuilt.freePages

/-- **The pages that are first in line for a run are a run.** -/
theorem Lined.exists_page {count : Nat} {compaction : Bool}
    (h : Lined count true compaction pool xs pool₁ queue) {first : Page}
    (hfirst : queue[0]? = some first) {k : Nat} (hk : k < count) :
    ∃ p, queue[k]? = some p ∧ p.toNat = first.toNat + k := by
  have hturned : ∀ {seq : List Page} {i : Nat}, RunAt count seq i →
      (seq.drop i ++ seq.take i)[0]? = some first →
      ∃ p, (seq.drop i ++ seq.take i)[k]? = some p ∧ p.toNat = first.toNat + k := by
    intro seq i hi hget
    have hlen := hi.1
    rw [List.getElem?_append_left (by simp; omega), List.getElem?_drop] at hget ⊢
    exact hi.exists_page hget hk
  cases h with
  | asIs hsingle =>
    have hcount : count ≤ 1 := hsingle.resolve_left (by simp)
    obtain rfl : k = 0 := by omega
    exact ⟨first, hfirst, rfl⟩
  | turned _ _ hleast _ => exact hturned hleast.1 hfirst
  | rebuilt _ _ _ _ _ _ hleast _ => exact hturned hleast.1 hfirst

/-! ## 2. The outcomes of a request -/

/-- What a request for `count` pages comes to, with the pool that it leaves, in a pool in balance
whose free list has the pages in the order `xs`. -/
inductive Allocates (count : Word) (run compaction : Bool) (tag : Tag) (pool : Pool)
    (xs : List Page) : Except Fault (Except Refusal Page) → Pool → Prop
  | zeroPages : count = 0 →
      Allocates count run compaction tag pool xs (.ok (.error .zeroPages)) pool
  | outOfMemory : xs.length < count.toNat →
      Allocates count run compaction tag pool xs
        (.ok (.error (.outOfMemory count pool.freePages))) pool
  /-- The free list shows no run and must not be rebuilt. -/
  | hidden : run = true → 1 < count.toNat → count.toNat ≤ xs.length →
      (∀ j, ¬ RunAt count.toNat xs j) → compaction = false →
      Allocates count run compaction tag pool xs
        (.ok (.error (.noContiguousRun count pool.freePages))) pool
  /-- The table has no run. -/
  | absent {pool' : Pool} : run = true → 1 < count.toNat → count.toNat ≤ xs.length →
      (∀ j, ¬ RunAt count.toNat xs j) → compaction = true → Rebuilt pool pool' →
      pool'.compactions.toNat = pool.compactions.toNat + 1 →
      (∀ j, ¬ RunAt count.toNat pool.table.freePages j) →
      Allocates count run compaction tag pool xs
        (.ok (.error (.noContiguousRun count pool.freePages))) pool'
  /-- The free list is rebuilt, but this cannot be counted any more. -/
  | uncounted {pool' : Pool} : 2 ^ 64 ≤ pool.compactions.toNat + 1 → Rebuilt pool pool' →
      compaction = true → Allocates count run compaction tag pool xs (.error .addOverflow) pool'
  | granted {pool₁ pool₂ : Pool} {first : Page} {ys zs : List Page} {allocations : Word} :
      ys.length + 1 = count.toNat →
      Lined count.toNat run compaction pool xs pool₁ (first :: ys ++ zs) →
      Taken tag (first :: ys) zs pool₁ pool₂ → Ring pool₂.table.Chained (first :: ys) →
      allocations.toNat = pool.allocations.toNat + 1 →
      Allocates count run compaction tag pool xs (.ok (.ok first)) { pool₂ with allocations }
  /-- The pages are taken, but the request cannot be counted any more. -/
  | unrecorded {pool₁ pool₂ : Pool} {first : Page} {ys zs : List Page} :
      2 ^ 64 ≤ pool.allocations.toNat + 1 →
      Lined count.toNat run compaction pool xs pool₁ (first :: ys ++ zs) →
      Taken tag (first :: ys) zs pool₁ pool₂ → Ring pool₂.table.Chained (first :: ys) →
      Allocates count run compaction tag pool xs (.error .addOverflow) pool₂

/-- **Granting.**  Once the free list is lined up, the pages first in line are taken. -/
theorem Balanced.exists_grant {count : Word} {run compaction : Bool} (tag : Tag)
    (h : pool.Balanced xs) (hpos : 0 < count.toNat) (hle : count.toNat ≤ xs.length)
    (hlined : Lined count.toNat run compaction pool xs pool₁ queue) :
    ∃ r pool', (allocate.grant count tag).Yields pool₁ r pool' ∧
      Allocates count run compaction tag pool xs r pool' := by
  have hbal := h.lined hlined
  have hcounted : pool₁.freePages.toNat = xs.length := by rw [hlined.freePages, h.counted]
  have hqueue : count.toNat ≤ queue.length := by rw [← hbal.counted, hcounted]; exact hle
  obtain ⟨first, ys, hys⟩ : ∃ first ys, queue.take count.toNat = first :: ys :=
    List.exists_cons_of_length_pos (by rw [List.length_take]; omega)
  have hlen : ys.length + 1 = count.toNat := by
    have := congrArg List.length hys
    rw [List.length_take, List.length_cons] at this
    omega
  have hsplit : queue = first :: ys ++ queue.drop count.toNat := by
    rw [← hys, List.take_append_drop]
  rw [hsplit] at hlined hbal
  obtain ⟨pool₂, hring, htaken, hchained⟩ :=
    exists_takeRing tag hbal.threads (by omega)
  rw [hlen] at hring
  rcases Nat.lt_or_ge (pool.allocations.toNat + 1) (2 ^ 64) with hroom | hfull
  · obtain ⟨allocations, hadd, hnat⟩ := Word.exists_addExact (a := pool₂.allocations) (b := 1)
      (by rw [htaken.allocations, hlined.allocations]; exact hroom)
    refine ⟨_, _, .bind hring (.bind (yields_countAllocation hadd) (Action.yields_pure _ _)),
      .granted hlen hlined htaken hchained ?_⟩
    rw [hnat, htaken.allocations, hlined.allocations]
    rfl
  · have hadd : pool₂.allocations.addExact 1 = .error .addOverflow :=
      Word.addExact_of_le (by rw [htaken.allocations, hlined.allocations]; exact hfull)
    exact ⟨_, _, .bind hring (.bind_error (yields_countAllocation_error hadd)),
      .unrecorded hfull hlined htaken hchained⟩

/-- **All that a request can come to.**  In a pool in balance the search does not leave the table
and the free list does not run out while pages are taken.  What remains besides a refusal and a
grant is a counter at its end, and it is told apart by what has been done when it is noticed. -/
theorem Balanced.exists_allocates (h : pool.Balanced xs) (count : Word) (run compaction : Bool)
    (tag : Tag) :
    ∃ r pool', (allocate count run compaction tag).Yields pool r pool' ∧
      Allocates count run compaction tag pool xs r pool' := by
  refine (Action.yields_peek Pool.freePages pool).exists_bind ?_
  by_cases hzero : count = 0
  · rw [if_pos hzero]
    exact ⟨_, _, Action.yields_pure _ _, .zeroPages hzero⟩
  rw [if_neg hzero]
  have hpos : 0 < count.toNat := by
    refine Nat.pos_of_ne_zero fun h0 => hzero (UInt64.toNat_inj.mp ?_)
    exact h0
  by_cases hmem : pool.freePages < count
  · rw [if_pos hmem]
    rw [UInt64.lt_iff_toNat_lt, h.counted] at hmem
    exact ⟨_, _, Action.yields_pure _ _, .outOfMemory hmem⟩
  rw [if_neg hmem]
  rw [UInt64.lt_iff_toNat_lt, h.counted, Nat.not_lt] at hmem
  have hone : (1 < count) ↔ 1 < count.toNat := UInt64.lt_iff_toNat_lt
  by_cases hrun : run = true ∧ 1 < count.toNat
  · obtain ⟨rfl, hmany⟩ := hrun
    rw [if_pos (by simpa using hone.mpr hmany)]
    cases hpage : runPage count.toNat xs with
    | some page =>
      obtain ⟨i, hleast, hi⟩ := runPage_eq_some hpos hpage
      obtain ⟨free, hturn, hthreads⟩ := h.exists_turn hi
      have hlined : Lined count.toNat true compaction pool xs { pool with free } _ :=
        .turned rfl hmany hleast hthreads
      obtain ⟨r, pool', hyields, hout⟩ := h.exists_grant tag hpos hmem hlined
      exact ⟨r, pool', .bind (h.yields_seekRun_some hpage) (.bind (Action.yields_peek _ _)
        (.bind (Action.yields_liftM hturn _) (.bind (Action.yields_change _ _) hyields))), hout⟩
    | none =>
      have hnone := runPage_eq_none hpos hpage
      cases compaction with
      | false =>
        exact ⟨_, _, .bind (h.yields_seekRun_none hpage) (Action.yields_pure _ _),
          .hidden rfl hmany hmem hnone rfl⟩
      | true =>
        rcases Nat.lt_or_ge (pool.compactions.toNat + 1) (2 ^ 64) with hroom | hfull
        · obtain ⟨pool₁, hseek, hbuilt, hnat⟩ := h.exists_seekRun hpage hroom
          cases hpage' : runPage count.toNat pool.table.freePages with
          | none =>
            rw [hpage'] at hseek
            exact ⟨_, _, .bind hseek (Action.yields_pure _ _),
              .absent rfl hmany hmem hnone rfl hbuilt hnat (runPage_eq_none hpos hpage')⟩
          | some page =>
            rw [hpage'] at hseek
            obtain ⟨i, hleast, hi⟩ := runPage_eq_some hpos hpage'
            obtain ⟨free, hturn, hthreads⟩ := (h.rebuilt hbuilt).exists_turn hi
            obtain ⟨r, pool', hyields, hout⟩ := h.exists_grant tag hpos hmem
              (.rebuilt rfl hmany hnone rfl hbuilt hnat hleast hthreads)
            exact ⟨r, pool', .bind hseek (.bind (Action.yields_peek _ _)
              (.bind (Action.yields_liftM hturn _) (.bind (Action.yields_change _ _) hyields))),
              hout⟩
        · obtain ⟨pool', hseek, hbuilt⟩ := h.exists_seekRun_error hpage hfull
          exact ⟨_, _, .bind_error hseek, .uncounted hfull hbuilt rfl⟩
  · rw [if_neg (by
      rw [Bool.and_eq_true, decide_eq_true_eq, hone]
      exact hrun)]
    refine h.exists_grant tag hpos hmem (.asIs ?_)
    rw [← Bool.not_eq_true, ← Nat.not_lt]
    exact not_and_or.mp hrun

end PageFrames.Pool
