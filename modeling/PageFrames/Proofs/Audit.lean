/-
# What an audit finds out

An audit compares three numbers and asks whether the pages of the free list are free.  It is asked
of pools in any condition, and what it answers can be relied on: the answer is yes if and only if
the links go once round the free rows, all of them and no others, and their number is counted
(`Pool.audit_eq_true_iff`).  The links backwards are not looked at.

Whether there is an answer is another matter.  The walk that counts is over when it has passed
one page more than there are rows.  The walk that asks whether the pages are free is over when it
comes back to the head or to a page in use, and it may come to neither: the links can lead from the
head through free pages into a ring that the head is not on (`Pool.Trapped`).  The count is then
above the number of rows already, but it is not looked at before both walks are over, and the
second one never is (`Pool.InTable.auditEnd`).  A pool comes into this condition by a release
that is not checked, of a page that is free (`Allocator.trapped_twoPages`).
-/
import Mathlib.Data.List.Perm.Subperm
import PageFrames.Proofs.FreeList.Returns
import PageFrames.Proofs.Runs

namespace PageFrames

open Table

/-! ## 1. Free rows by their numbers -/

namespace Table

variable {table : Table}

/-- The numbers of the free rows.  They need not be handles, in a table that has more rows. -/
def freeRows (table : Table) : List Nat := table.toList.findIdxs Descriptor.isFree

theorem nodup_freeRows (table : Table) : table.freeRows.Nodup := List.nodup_findIdxs

theorem length_freeRows (table : Table) : table.freeRows.length = table.freeCount := by
  rw [freeRows, List.length_findIdxs, Array.countP_toList, freeCount]

theorem mem_freeRows_iff {i : Nat} :
    i ∈ table.freeRows ↔ ∃ row, table[i]? = some row ∧ row.isFree = true := by
  rw [freeRows, List.mem_findIdxs_iff_exists_getElem_pos]
  simp [Array.getElem?_eq_some_iff]

theorem freeCount_eq_zero_iff : table.freeCount = 0 ↔ ∀ row ∈ table, row.isFree = false := by
  simp [freeCount, Array.countP_eq_zero]

/-- The rows of free pages are free rows. -/
theorem IsFree.mem_freeRows {page : Page} (h : table.IsFree page) :
    page.toNat ∈ table.freeRows := by
  obtain ⟨row, hrow, hstatus⟩ := column_eq_some_iff.mp h
  exact mem_freeRows_iff.mpr ⟨row, hrow, by simp [Descriptor.isFree, hstatus]⟩

/-- **As many free pages as there are free rows** are all of them. -/
theorem mem_freeRows_iff_of_length {xs : List Page} (hn : xs.Nodup)
    (hfree : ∀ p ∈ xs, table.IsFree p) (hlen : xs.length = table.freeCount) (i : Nat) :
    i ∈ table.freeRows ↔ ∃ p ∈ xs, p.toNat = i := by
  have hsub : xs.map UInt32.toNat ⊆ table.freeRows := by
    intro j hj
    obtain ⟨p, hp, rfl⟩ := List.mem_map.mp hj
    exact (hfree p hp).mem_freeRows
  have hmap : (xs.map UInt32.toNat).Nodup := hn.map fun _ _ => UInt32.toNat_inj.mp
  have hperm : (xs.map UInt32.toNat).Perm table.freeRows :=
    (List.subperm_of_subset hmap hsub).perm_of_length_le
      (by rw [length_freeRows, List.length_map, hlen])
  rw [← hperm.mem_iff, List.mem_map]

end Table

/-! ## 2. What an answer says -/

namespace Pool

variable {pool : Pool} {xs : List Page}

/-- The links go round the pages `xs`, which are the free ones, and their number is counted. -/
structure Covers (pool : Pool) (xs : List Page) : Prop where
  head : pool.free.head = xs.head?
  nodup : xs.Nodup
  ring : Ring (pool.table.Leads Descriptor.next) xs
  /-- The walk along the list from the head passes these pages. -/
  walk : ∀ bound, xs.length ≤ bound → pool.free.pages pool.table bound = .ok xs
  rows : ∀ i, (∃ row, pool.table[i]? = some row ∧ row.isFree = true) ↔ ∃ p ∈ xs, p.toNat = i
  none_iff : pool.free.head = none ↔ ∀ row ∈ pool.table, row.isFree = false
  counted : pool.freePages.toNat = pool.table.freeCount

/-- An audit finds all in order if the numbers agree and the pages of the list are free. -/
theorem audit_eq_true_iff_parts :
    pool.audit = .ok true ↔ pool.free.length pool.table = .ok pool.table.freeCount ∧
      pool.free.allFree pool.table = .ok true ∧ pool.freePages.toNat = pool.table.freeCount := by
  rw [audit]
  constructor
  · intro h
    obtain ⟨listed, hlisted, h⟩ := exists_of_bind_eq_ok h
    obtain ⟨allFree, hfree, h⟩ := exists_of_bind_eq_ok h
    simp only [pure, Except.pure, Except.ok.injEq, Bool.and_eq_true, beq_iff_eq] at h
    obtain ⟨⟨hcount, rfl⟩, rfl⟩ := h
    exact ⟨hcount ▸ hlisted, hfree, hcount.symm⟩
  · rintro ⟨hlisted, hfree, hcount⟩
    rw [hlisted, hfree, hcount]
    simp [bind, Except.bind, pure, Except.pure]

/-- A list without a head has no pages to walk along. -/
theorem covers_nil (hhead : pool.free.head = none) (hzero : pool.table.freeCount = 0)
    (hcount : pool.freePages.toNat = pool.table.freeCount) : pool.Covers [] where
  head := hhead
  nodup := List.nodup_nil
  ring := ring_nil
  walk _ _ := by rw [FreeList.pages, hhead]
  rows i := by
    rw [← mem_freeRows_iff, mem_freeRows_iff_of_length List.nodup_nil (by simp) (by simp [hzero])]
  none_iff := iff_of_true hhead (freeCount_eq_zero_iff.mp hzero)
  counted := hcount

/-- **A way of free pages back to the head,** as many as there are free rows, covers the pool. -/
theorem covers_cons {head : Page} (hhead : pool.free.head = some head)
    (hn : (head :: xs).Nodup) (hring : Ring (pool.table.Leads Descriptor.next) (head :: xs))
    (hfree : ∀ p ∈ head :: xs, pool.table.IsFree p)
    (hlen : (head :: xs).length = pool.table.freeCount)
    (hcount : pool.freePages.toNat = pool.table.freeCount) : pool.Covers (head :: xs) where
  head := hhead
  nodup := hn
  ring := hring
  walk bound hbound := by
    rw [FreeList.pages, hhead]
    exact walk_of_isChain hring (List.nodup_cons.mp hn).1 hbound
  rows i := by rw [← mem_freeRows_iff, mem_freeRows_iff_of_length hn hfree hlen]
  none_iff := by
    rw [hhead, ← freeCount_eq_zero_iff, ← hlen]
    simp
  counted := hcount

/-- The two walks from a head that find all in order go round the free pages. -/
theorem exists_covers_of_head {head : Page} (hhead : pool.free.head = some head)
    (hlength : pool.table.ringLength Descriptor.next head = .ok pool.table.freeCount)
    (hfree : pool.table.allFree head (pool.table.size + 1) head = .ok true)
    (hcount : pool.freePages.toNat = pool.table.freeCount) : ∃ xs, pool.Covers xs := by
  have hle : pool.table.freeCount ≤ pool.table.size := Array.countP_le_size
  obtain ⟨hpos, hin, hne, hret⟩ := (ringLength_eq_ok_iff_of_le hle).mp hlength
  obtain ⟨n, -, hall, hnot, hend⟩ := allFree_eq_true_iff.mp hfree
  obtain ⟨k, hk⟩ : ∃ k, pool.table.freeCount = k + 1 := Nat.exists_eq_succ_of_ne_zero hpos.ne'
  rw [hk] at hin hne hret
  -- both walks end at the first return, so they pass the same pages
  have hsame : n = k := by
    rcases Nat.lt_trichotomy n k with hlt | heq | hgt
    · exact absurd hend (hne (n + 1) (Nat.succ_pos n) (by omega))
    · exact heq
    · exact absurd hret (hnot k hgt)
  have hlist : head :: List.iterate (pool.table.follow Descriptor.next)
      (pool.table.follow Descriptor.next head) k =
        List.iterate (pool.table.follow Descriptor.next) head (k + 1) := rfl
  refine ⟨_, covers_cons hhead (hlist ▸ nodup_iterate hne hret) (ring_leads_iff.mpr ⟨?_, ?_, ?_⟩)
    ?_ ?_ hcount⟩
  · rw [List.length_iterate, hlist]
  · rw [List.length_iterate, hret]
  · intro p hp
    obtain ⟨i, hi, rfl⟩ := List.mem_iterate.mp (hlist ▸ hp)
    exact hin i hi
  · intro p hp
    obtain ⟨i, hi, rfl⟩ := List.mem_iterate.mp (hlist ▸ hp)
    exact hall i (by omega)
  · rw [hlist, List.length_iterate, hk]

/-- Pages that cover a pool are free, and are as many as there are free rows. -/
theorem Covers.isFree_and_length (h : pool.Covers xs) :
    (∀ p ∈ xs, pool.table.IsFree p) ∧ xs.length = pool.table.freeCount := by
  have hfree : ∀ p ∈ xs, pool.table.IsFree p := by
    intro p hp
    obtain ⟨row, hrow, hfree⟩ := (h.rows p.toNat).mpr ⟨p, hp, rfl⟩
    exact (isFree_iff_of_row hrow).mpr hfree
  refine ⟨hfree, ?_⟩
  have hmap : (xs.map UInt32.toNat).Nodup := h.nodup.map fun _ _ => UInt32.toNat_inj.mp
  have hperm : (xs.map UInt32.toNat).Perm pool.table.freeRows := by
    refine (List.perm_ext_iff_of_nodup hmap (nodup_freeRows _)).mpr fun i => ?_
    rw [List.mem_map, ← h.rows i, ← mem_freeRows_iff]
  rw [← length_freeRows, ← hperm.length_eq, List.length_map]

/-- **An audit finds all in order if and only if it is:** the links go once round the free pages
from the head, and their number is counted.  What is looked at is enough to know: a way back to the
head passes no page twice, so if it passes free pages only, as many as there are free rows, then it
passes all of them. -/
theorem audit_eq_true_iff : pool.audit = .ok true ↔ ∃ xs, pool.Covers xs := by
  rw [audit_eq_true_iff_parts, FreeList.length, FreeList.allFree]
  cases hhead : pool.free.head with
  | none =>
    constructor
    · rintro ⟨hzero, -, hcount⟩
      exact ⟨[], covers_nil hhead (Except.ok.inj hzero).symm hcount⟩
    · rintro ⟨xs, h⟩
      have hzero := freeCount_eq_zero_iff.mpr (h.none_iff.mp hhead)
      exact ⟨congrArg Except.ok hzero.symm, rfl, h.counted⟩
  | some head =>
    constructor
    · rintro ⟨hlength, hfree, hcount⟩
      exact exists_covers_of_head hhead hlength hfree hcount
    · rintro ⟨xs, h⟩
      obtain ⟨hfree, hlen⟩ := h.isFree_and_length
      have hhead' := h.head
      rcases xs with _ | ⟨x, xs⟩
      · simp [hhead] at hhead'
      obtain rfl : head = x := by simpa [hhead] using hhead'
      obtain ⟨hiter, hret, -⟩ := ring_leads_iff.mp h.ring
      have hin : ∀ i ≤ xs.length,
          (pool.table.follow Descriptor.next)^[i] head ∈ head :: xs := by
        intro i hi
        rw [hiter]
        exact List.mem_iterate.mpr ⟨i, by omega, rfl⟩
      refine ⟨by rw [← hlen]; exact ringLength_of_ring h.ring h.nodup,
        allFree_eq_true_iff.mpr ⟨xs.length, ?_, fun i hi => hfree _ (hin i hi), ?_, hret⟩,
        h.counted⟩
      · have := length_le_size h.nodup fun p hp => (hfree p hp).lt_size
        rw [List.length_cons] at this
        omega
      · -- the head is not among the pages behind it
        intro i hi heq
        have hmem : head ∈ xs := by
          rw [List.iterate, List.cons.injEq] at hiter
          rw [hiter.2]
          exact List.mem_iterate.mpr ⟨i, hi, heq.symm⟩
        exact (List.nodup_cons.mp h.nodup).1 hmem

/-! ## 3. Whether there is an answer -/

/-- The head and all links to the next page have rows. -/
structure InTable (pool : Pool) : Prop where
  head : ∀ head, pool.free.head = some head → head.toNat < pool.table.size
  next : ∀ row ∈ pool.table, row.next.toNat < pool.table.size

instance (pool : Pool) : Decidable pool.InTable :=
  decidable_of_iff (pool.free.head.all (·.toNat < pool.table.size) = true ∧
      ∀ row ∈ pool.table, row.next.toNat < pool.table.size) <| by
    rw [Option.all_eq_true]
    constructor
    · rintro ⟨head, next⟩
      exact ⟨fun p hp => of_decide_eq_true (head p hp), next⟩
    · rintro ⟨head, next⟩
      exact ⟨fun p hp => decide_eq_true (head p hp), next⟩

/-- The links lead from the head to free pages only, and never back to it. -/
def Trapped (pool : Pool) : Prop :=
  ∃ head, pool.free.head = some head ∧
    ∀ k, pool.table.IsFree ((pool.table.follow Descriptor.next)^[k] head) ∧
      (pool.table.follow Descriptor.next)^[k + 1] head ≠ head

theorem InTable.stays (h : pool.InTable) {head : Page} (hhead : pool.free.head = some head) :
    pool.table.Stays Descriptor.next head :=
  stays_of_forall_mem h.next (h.head head hhead)

/-- **A pool is trapped** if the walk through the pages of its list never ends. -/
theorem trapped_iff_endless : pool.Trapped ↔ ∃ head, pool.free.head = some head ∧
    ∀ bound, pool.table.allFree head bound head = .error .endlessWalk := by
  simp only [allFree_eq_endlessWalk_iff, Trapped]
  constructor
  · rintro ⟨head, hhead, hway⟩
    exact ⟨head, hhead, fun _ i _ => hway i⟩
  · rintro ⟨head, hhead, hway⟩
    exact ⟨head, hhead, fun k => hway (k + 1) k (Nat.lt_succ_self k)⟩

/-- The walk has an answer after as many pages as there are rows, unless the pool is trapped. -/
theorem InTable.exists_allFree (h : pool.InTable) (hnot : ¬ pool.Trapped) {head : Page}
    (hhead : pool.free.head = some head) {bound : Nat} (hbound : pool.table.size ≤ bound) :
    ∃ answer, pool.table.allFree head bound head = .ok answer := by
  refine (h.stays hhead).exists_allFree fun hendless => hnot ?_
  have hway := allFree_eq_endlessWalk_iff.mp hendless
  have hsize : pool.table.allFree head pool.table.size head = .error .endlessWalk :=
    allFree_eq_endlessWalk_iff.mpr fun i hi => hway i (by omega)
  exact trapped_iff_endless.mpr ⟨head, hhead, (h.stays hhead).endless_of_size hsize⟩

/-- The pages of a list are counted with one page more than there are rows at most. -/
theorem InTable.exists_length (h : pool.InTable) :
    ∃ n ≤ pool.table.size + 1, pool.free.length pool.table = .ok n := by
  cases hhead : pool.free.head with
  | none => exact ⟨0, Nat.zero_le _, by rw [FreeList.length, hhead]⟩
  | some head =>
    obtain ⟨n, hn, hlength⟩ := (h.stays hhead).exists_ringLength
    exact ⟨n, hn, by rw [FreeList.length, hhead]; exact hlength⟩

/-- The pool is trapped if the count says that there is no way back to the head, and all the pages
that are counted are free. -/
theorem InTable.trapped_iff (h : pool.InTable) : pool.Trapped ↔
    ∃ head, pool.free.head = some head ∧
      pool.free.length pool.table = .ok (pool.table.size + 1) ∧
      ∀ k < pool.table.size, pool.table.IsFree ((pool.table.follow Descriptor.next)^[k] head) := by
  constructor
  · rintro ⟨head, hhead, hway⟩
    refine ⟨head, hhead, ?_, fun k _ => (hway k).1⟩
    rw [FreeList.length, hhead]
    refine (ringLength_eq_size_succ_iff (h.stays hhead)).mpr ?_
    rintro (_ | k) hk
    · omega
    · exact (hway k).2
  · rintro ⟨head, hhead, hlength, hfree⟩
    rw [FreeList.length, hhead] at hlength
    have hne := (ringLength_eq_size_succ_iff (h.stays hhead)).mp hlength
    refine trapped_iff_endless.mpr ⟨head, hhead, (h.stays hhead).endless_of_size ?_⟩
    exact allFree_eq_endlessWalk_iff.mpr fun i hi => ⟨hfree i hi, hne (i + 1) (Nat.succ_pos i)⟩

/-- What an audit comes to, where no link leads out of the table. -/
structure AuditEnd (pool : Pool) : Prop where
  /-- The walk that counts is over after one page more than there are rows. -/
  counted : ∃ n ≤ pool.table.size + 1, pool.free.length pool.table = .ok n
  /-- The other one is over after as many pages as there are rows, if the pool is not trapped. -/
  answered : ¬ pool.Trapped → (∃ answer, pool.audit = .ok answer) ∧
    ∀ head, pool.free.head = some head → ∀ bound, pool.table.size ≤ bound →
      ∃ answer, pool.table.allFree head bound head = .ok answer
  /-- If the pool is trapped, it is not over after any number of pages. -/
  endless : pool.Trapped → pool.audit = .error .endlessWalk ∧
    ∀ head, pool.free.head = some head → ∀ bound,
      pool.table.allFree head bound head = .error .endlessWalk
  trapped_iff : pool.Trapped ↔ ∃ head, pool.free.head = some head ∧
    pool.free.length pool.table = .ok (pool.table.size + 1) ∧
      ∀ k < pool.table.size, pool.table.IsFree ((pool.table.follow Descriptor.next)^[k] head)

/-- An audit ends as the second of its walks does. -/
theorem InTable.audit_eq (h : pool.InTable) : ∃ f : Bool → Bool,
    pool.audit = (pool.free.allFree pool.table).map f := by
  obtain ⟨n, -, hlength⟩ := h.exists_length
  rw [audit, hlength]
  exact ⟨fun b => pool.table.freeCount == pool.freePages.toNat && n == pool.freePages.toNat && b,
    rfl⟩

theorem Trapped.audit_eq (h : pool.Trapped) (hin : pool.InTable) :
    pool.audit = .error .endlessWalk := by
  obtain ⟨head, hhead, hendless⟩ := trapped_iff_endless.mp h
  obtain ⟨f, haudit⟩ := hin.audit_eq
  rw [haudit, FreeList.allFree, hhead]
  simp [hendless, Except.map]

/-- **An audit has an answer, or the pool is trapped.**  The walk that counts has a bound of its
own.  The other one has none; but among pages that all have rows it repeats itself once it has
passed more of them than there are rows, and what it has not come to by then it never will. -/
theorem InTable.auditEnd (h : pool.InTable) : pool.AuditEnd where
  counted := h.exists_length
  answered := by
    intro hnot
    refine ⟨?_, fun head hhead bound => h.exists_allFree hnot hhead⟩
    obtain ⟨f, haudit⟩ := h.audit_eq
    rw [haudit, FreeList.allFree]
    cases hhead : pool.free.head with
    | none => exact ⟨f true, rfl⟩
    | some head =>
      obtain ⟨answer, hanswer⟩ := h.exists_allFree hnot hhead (Nat.le_succ _)
      exact ⟨f answer, by simp [hanswer, Except.map]⟩
  endless := by
    intro htrapped
    refine ⟨htrapped.audit_eq h, fun head hhead => ?_⟩
    obtain ⟨head', hhead', hendless⟩ := trapped_iff_endless.mp htrapped
    obtain rfl := Option.some.inj (hhead.symm.trans hhead')
    exact hendless
  trapped_iff := h.trapped_iff

end Pool

/-! ## 4. A trap -/

namespace Allocator

/-- The allocator of two free pages after a setup that leaves releases unchecked. -/
def twoPages : Allocator where
  region := ⟨0x1000, 0x2000⟩
  kind := .physical
  metadata := ⟨0x8000, 0x1000⟩
  config := { checkedFree := false }
  pool :=
    { table := #[⟨0x1000, .free, .empty, ⟨1, 1⟩, .nil⟩, ⟨0x2000, .free, .empty, ⟨0, 0⟩, .nil⟩]
      free := { head := some 0 }
      freePages := 2 }

theorem setUp_twoPages : twoPages.SetUp :=
  ⟨Unit, ⟨0x1000, 0x2000⟩, .physical, { checkedFree := false },
    fun _ => pure (some ⟨0x8000, 0x1000⟩), [], DirectMap.identity.access, (), [],
    by decide +kernel⟩

end Allocator

/-- After the release of a page that is free, a link leads from the head into a ring of that page
alone. -/
theorem Pool.auditEnd_twoPages :
    (Request.afterAll Allocator.twoPages [.free 1]).pool.InTable ∧
      (Request.afterAll Allocator.twoPages [.free 1]).pool.AuditEnd :=
  have h : (Request.afterAll Allocator.twoPages [.free 1]).pool.InTable := by decide +kernel
  ⟨h, h.auditEnd⟩

/-- **A release that is not checked can keep an audit from ending.**  Its page is free and becomes a
list of its own, with a link to itself, before the release fails for want of a next page.  The links
of the free list lead from the head into that ring. -/
theorem Allocator.trapped_twoPages :
    twoPages.SetUp ∧ twoPages.config.checkedFree = false ∧
      (Request.afterAll twoPages [.free 1]).pool.InTable ∧
      (Request.afterAll twoPages [.free 1]).pool.audit = .error .endlessWalk ∧
      ∃ head, (Request.afterAll twoPages [.free 1]).pool.free.head = some head ∧
        ∀ bound, (Request.afterAll twoPages [.free 1]).pool.table.allFree head bound head =
          .error .endlessWalk := by
  have hin : (Request.afterAll twoPages [.free 1]).pool.InTable := by decide +kernel
  have htrapped : (Request.afterAll twoPages [.free 1]).pool.Trapped := by
    refine hin.trapped_iff.mpr ⟨0, by decide +kernel, by decide +kernel, ?_⟩
    decide +kernel
  exact ⟨setUp_twoPages, rfl, hin, htrapped.audit_eq hin, Pool.trapped_iff_endless.mp htrapped⟩

end PageFrames
