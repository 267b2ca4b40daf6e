/-
# Pools in balance

A pool is in balance if its free list is a ring over exactly the free rows, in whatever order, and
the count of free pages is their number.  This is the bookkeeping that every request relies on and
keeps up (`Pool.Balanced`).

Rebuilding the free list changes links only and leaves the free pages in ascending order
(`Pool.Rebuilt`), so a pool in balance is still in balance afterwards.
-/
import PageFrames.Proofs.Pool.FreePages
import PageFrames.Proofs.Words

namespace PageFrames.Pool

open Table

variable {α : Type} {pool pool' : Pool} {xs : List Page}

/-! ## 1. Actions on the parts -/

theorem yields_onTable {m : Action Table α} {r : Except Fault α} {table' : Table}
    (h : m.Yields pool.table r table') :
    (onTable m).Yields pool r { pool with table := table' } :=
  h.onPart

theorem yields_onFree {m : FreeList → Action Table (α × FreeList)} {a : α} {free' : FreeList}
    {table' : Table} (h : (m pool.free).Yields pool.table (.ok (a, free')) table') :
    (onFree m).Yields pool (.ok a) { pool with table := table', free := free' } :=
  .bind (Action.yields_peek _ _) (.bind (yields_onTable h)
    (.bind (Action.yields_change _ _) (Action.yields_pure _ _)))

theorem yields_countTaken {count freePages : Word}
    (h : pool.freePages.subExact count = .ok freePages) :
    (countTaken count).Yields pool (.ok ()) { pool with freePages } :=
  .bind (Action.yields_peek _ _)
    (.bind (Action.yields_liftM h _) (Action.yields_change _ _))

theorem yields_countReleased {count freePages : Word}
    (h : pool.freePages.addExact count = .ok freePages) :
    (countReleased count).Yields pool (.ok ()) { pool with freePages } :=
  .bind (Action.yields_peek _ _)
    (.bind (Action.yields_liftM h _) (Action.yields_change _ _))

theorem yields_countAllocation {allocations : Word}
    (h : pool.allocations.addExact 1 = .ok allocations) :
    countAllocation.Yields pool (.ok ()) { pool with allocations } :=
  .bind (Action.yields_peek _ _)
    (.bind (Action.yields_liftM h _) (Action.yields_change _ _))

theorem yields_countAllocation_error {fault : Fault}
    (h : pool.allocations.addExact 1 = .error fault) :
    countAllocation.Yields pool (.error fault) pool :=
  .bind (Action.yields_peek _ _) (.bind_error (Action.yields_liftM h _))

theorem yields_countCompaction {compactions : Word}
    (h : pool.compactions.addExact 1 = .ok compactions) :
    countCompaction.Yields pool (.ok ()) { pool with compactions } :=
  .bind (Action.yields_peek _ _)
    (.bind (Action.yields_liftM h _) (Action.yields_change _ _))

theorem yields_countCompaction_error {fault : Fault}
    (h : pool.compactions.addExact 1 = .error fault) :
    countCompaction.Yields pool (.error fault) pool :=
  .bind (Action.yields_peek _ _) (.bind_error (Action.yields_liftM h _))

/-! ## 2. Balance -/

/-- The free list threads exactly the free pages, in the order `xs`, and their number is counted.
There are fewer rows than handles. -/
structure Balanced (pool : Pool) (xs : List Page) : Prop where
  small : pool.table.size < Page.nil.toNat
  threads : pool.free.Threads pool.table xs
  mem_iff : ∀ p, p ∈ xs ↔ pool.table.IsFree p
  counted : pool.freePages.toNat = xs.length

theorem le_of_small {n : Nat} (h : n < Page.nil.toNat) : n ≤ 2 ^ 32 := by
  have : Page.nil.toNat = 4294967295 := rfl
  omega

theorem Balanced.isFree (h : pool.Balanced xs) {p : Page} (hp : p ∈ xs) : pool.table.IsFree p :=
  (h.mem_iff p).mp hp

/-- The free list has the free pages, if not in ascending order. -/
theorem Balanced.perm (h : pool.Balanced xs) : xs.Perm pool.table.freePages := by
  refine (List.perm_ext_iff_of_nodup h.threads.nodup (nodup_freePages (le_of_small h.small))).mpr ?_
  intro p
  rw [h.mem_iff, mem_freePages_iff (le_of_small h.small)]

theorem Balanced.counted_freePages (h : pool.Balanced xs) :
    pool.freePages.toNat = pool.table.freePages.length :=
  h.counted.trans h.perm.length_eq

/-- In a pool in balance the count is the number of free rows. -/
theorem Balanced.counted_freeCount (h : pool.Balanced xs) :
    pool.freePages.toNat = pool.table.freeCount :=
  h.counted_freePages.trans (length_freePages (le_of_small h.small))

theorem Balanced.length_le (h : pool.Balanced xs) : xs.length ≤ pool.table.size :=
  h.threads.length_le

/-- A list without a head is one without a free page. -/
theorem Balanced.head_eq_none_iff (h : pool.Balanced xs) :
    pool.free.head = none ↔ ∀ p, ¬ pool.table.IsFree p := by
  rw [h.threads.head, List.head?_eq_none_iff, List.eq_nil_iff_forall_not_mem]
  simp only [h.mem_iff]

/-- Which pages are free is looked up in the table, not tried out with every handle. -/
theorem balanced_iff : pool.Balanced xs ↔ pool.table.size < Page.nil.toNat ∧
    pool.free.Threads pool.table xs ∧ xs.all (fun p => pool.table.IsFree p) ∧
    pool.table.freePages.all (fun p => p ∈ xs) ∧ pool.freePages.toNat = xs.length := by
  simp only [List.all_eq_true, decide_eq_true_eq]
  constructor
  · intro h
    exact ⟨h.small, h.threads, fun _ hp => h.isFree hp, fun p hp =>
      (h.mem_iff p).mpr ((mem_freePages_iff (le_of_small h.small)).mp hp), h.counted⟩
  · rintro ⟨hsmall, hthreads, hfree, hlisted, hcounted⟩
    exact ⟨hsmall, hthreads, fun p => ⟨hfree p, fun hp =>
      hlisted p ((mem_freePages_iff (le_of_small hsmall)).mpr hp)⟩, hcounted⟩

instance (pool : Pool) (xs : List Page) : Decidable (pool.Balanced xs) :=
  decidable_of_iff _ balanced_iff.symm

/-! ## 3. Rebuilding -/

/-- The second pool is the first one with its free list rebuilt, but for the count of rebuilds. -/
structure Rebuilt (pool pool' : Pool) : Prop where
  threads : pool'.free.Threads pool'.table pool.table.freePages
  links : Relinked pool.table.freePages pool.table pool'.table
  freePages : pool'.freePages = pool.freePages
  allocations : pool'.allocations = pool.allocations

theorem Rebuilt.isFree_iff (h : Rebuilt pool pool') (p : Page) :
    pool'.table.IsFree p ↔ pool.table.IsFree p :=
  isFree_congr (h.links.column_eq _ (fun _ => rfl) p)

theorem Rebuilt.table_freePages (h : Rebuilt pool pool') :
    pool'.table.freePages = pool.table.freePages :=
  freePages_congr h.links.size_eq fun p => h.links.column_eq _ (fun _ => rfl) p

/-- **A pool in balance stays in balance when its free list is rebuilt.**  The rows say which pages
are free, and a rebuild does not touch that. -/
theorem Balanced.rebuilt (h : pool.Balanced xs) (h' : Rebuilt pool pool') :
    pool'.Balanced pool.table.freePages where
  small := h'.links.size_eq ▸ h.small
  threads := h'.threads
  mem_iff p := (mem_freePages_iff (le_of_small h.small)).trans (h'.isFree_iff p).symm
  counted := h'.freePages ▸ h.counted_freePages

theorem exists_rebuild (h : pool.table.size ≤ 2 ^ 32) :
    ∃ pool', rebuild.Yields pool (.ok ()) pool' ∧ Rebuilt pool pool' ∧
      pool'.compactions = pool.compactions := by
  obtain ⟨list, table', hyields, hthreads, hlinks⟩ := exists_thread (Nat.le_refl _) h
  exact ⟨{ pool with table := table', free := list },
    .bind (Action.yields_peek _ _) (.bind (yields_onTable hyields) (Action.yields_change _ _)),
    ⟨hthreads, hlinks, rfl, rfl⟩, rfl⟩

/-- **Rebuilding for a request finds the count confirmed.** -/
theorem Balanced.exists_compact (h : pool.Balanced xs)
    (hcount : pool.compactions.toNat + 1 < 2 ^ 64) :
    ∃ pool', compact.Yields pool (.ok ()) pool' ∧ Rebuilt pool pool' ∧
      pool'.compactions.toNat = pool.compactions.toNat + 1 := by
  obtain ⟨pool₁, hyields, hbuilt, hkeep⟩ := exists_rebuild (le_of_small h.small)
  obtain ⟨compactions, hadd, hnat⟩ := Word.exists_addExact (a := pool₁.compactions) (b := 1)
    (by rw [hkeep]; exact hcount)
  have hlength : pool₁.free.length pool₁.table = .ok pool₁.freePages.toNat := by
    rw [hbuilt.threads.length_eq, hbuilt.freePages, h.counted_freePages]
  refine ⟨{ pool₁ with compactions }, .bind hyields (.bind (yields_countCompaction hadd) ?_),
    ⟨hbuilt.threads, hbuilt.links, hbuilt.freePages, hbuilt.allocations⟩, ?_⟩
  · refine .bind (Action.yields_look hlength) (.bind (Action.yields_peek _ _) ?_)
    rw [if_neg (by simp)]
    exact Action.yields_emit _ _ _
  · rw [hnat, hkeep]
    rfl

/-- If rebuilds cannot be counted any more, the list is rebuilt before this shows. -/
theorem Balanced.exists_compact_error (h : pool.Balanced xs)
    (hcount : 2 ^ 64 ≤ pool.compactions.toNat + 1) :
    ∃ pool', compact.Yields pool (.error .addOverflow) pool' ∧ Rebuilt pool pool' := by
  obtain ⟨pool₁, hyields, hbuilt, hkeep⟩ := exists_rebuild (le_of_small h.small)
  have hadd : pool₁.compactions.addExact 1 = .error .addOverflow :=
    Word.addExact_of_le (by rw [hkeep]; exact hcount)
  exact ⟨pool₁, .bind hyields (.bind_error (yields_countCompaction_error hadd)), hbuilt⟩

end PageFrames.Pool
