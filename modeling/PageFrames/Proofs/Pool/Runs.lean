/-
# Runs of pages

A run is a block of a sequence in which each page has the number after the one before it.  The
search for a run follows the free list, but what it finds depends on the sequence of the list
alone (`Pool.Balanced.firstRun_eq`): it is the first run of that length in the order of the list
(`LeastRun`), and it is found if there is one at all (`runPage_eq_some`, `runPage_eq_none`).

In the ascending list of the free pages there is a run wherever the table has free pages in a row
(`Table.exists_runAt_freePages_iff`).
-/
import PageFrames.Pool.Search
import PageFrames.Proofs.Pool.Balance

namespace PageFrames

variable {count i : Nat} {xs : List Page}

/-! ## 1. Runs of a sequence -/

/-- The `count` pages from place `i` on have consecutive numbers. -/
def RunAt (count : Nat) (xs : List Page) (i : Nat) : Prop :=
  i + count ≤ xs.length ∧ ∀ j a b, i ≤ j → j + 1 < i + count → xs[j]? = some a →
    xs[j + 1]? = some b → a.toNat + 1 = b.toNat

/-- The first run in the order of the sequence. -/
def LeastRun (count : Nat) (xs : List Page) (i : Nat) : Prop :=
  RunAt count xs i ∧ ∀ j, RunAt count xs j → i ≤ j

/-- The pages of a run are numbered from its first page on. -/
theorem RunAt.exists_page (h : RunAt count xs i) {start : Page} (hs : xs[i]? = some start)
    {k : Nat} (hk : k < count) : ∃ p, xs[i + k]? = some p ∧ p.toNat = start.toNat + k := by
  induction k with
  | zero => exact ⟨start, hs, rfl⟩
  | succ k ih =>
    obtain ⟨p, hp, hnat⟩ := ih (by omega)
    have hlen : i + (k + 1) < xs.length := by have := h.1; omega
    refine ⟨xs[i + (k + 1)], List.getElem?_eq_getElem hlen, ?_⟩
    have := h.2 (i + k) p xs[i + (k + 1)] (by omega) (by omega) hp (List.getElem?_eq_getElem hlen)
    omega

/-! ## 2. The search in a sequence -/

/-- Extends the run that began with `start`, has `length` pages and ends with `last`, along the
pages that come next. -/
def extendAlong (count : Nat) (start last : Page) (length : Nat) : List Page → Option Page
  | [] => if count ≤ length then some start else none
  | next :: rest =>
    if count ≤ length then
      some start
    else if last.toNat + 1 = next.toNat then
      extendAlong count start next (length + 1) rest
    else
      extendAlong count next next 1 rest

/-- The first page of the first run. -/
def runPage (count : Nat) : List Page → Option Page
  | [] => none
  | x :: xs => extendAlong count x x 1 xs

/-- Where the search stands: the run it is in began at place `i` with `start`, has `length` pages
and ends with `last`, `rest` comes next, and no run begins before place `i`. -/
structure Searching (count : Nat) (xs : List Page) (i : Nat) (start last : Page) (length : Nat)
    (rest : List Page) : Prop where
  pos : 0 < length
  short : length ≤ count
  rest_eq : xs.drop (i + length) = rest
  start_eq : xs[i]? = some start
  last_eq : xs[i + length - 1]? = some last
  run : RunAt length xs i
  least : ∀ j, RunAt count xs j → i ≤ j

variable {start last next : Page} {length : Nat} {rest : List Page}

theorem Searching.next_eq (h : Searching count xs i start last length (next :: rest)) :
    xs[i + length]? = some next := by
  have := congrArg (fun l => l[0]?) h.rest_eq
  simpa using this

theorem Searching.rest_eq' (h : Searching count xs i start last length (next :: rest)) :
    xs.drop (i + (length + 1)) = rest := by
  have := congrArg List.tail h.rest_eq
  simpa [Nat.add_assoc] using this

/-- The next page continues the run. -/
theorem Searching.extend (h : Searching count xs i start last length (next :: rest))
    (hlen : length < count) (hnext : last.toNat + 1 = next.toNat) :
    Searching count xs i start next (length + 1) rest where
  pos := Nat.succ_pos length
  short := hlen
  rest_eq := h.rest_eq'
  start_eq := h.start_eq
  last_eq := h.next_eq
  run := by
    obtain ⟨hbound, -⟩ := List.getElem?_eq_some_iff.mp h.next_eq
    refine ⟨by omega, ?_⟩
    intro j a b hij hj ha hb
    rcases Nat.lt_or_ge (j + 1) (i + length) with hlt | hge
    · exact h.run.2 j a b hij hlt ha hb
    · have hj' : j + 1 = i + length := by omega
      have hlast := h.last_eq
      rw [show i + length - 1 = j by omega, ha, Option.some.injEq] at hlast
      rw [hj', h.next_eq, Option.some.injEq] at hb
      rw [hlast, ← hb]
      exact hnext
  least := h.least

/-- The next page does not continue the run: no run contains both, so none begins before it. -/
theorem Searching.restart (h : Searching count xs i start last length (next :: rest))
    (hlen : length < count) (hnext : last.toNat + 1 ≠ next.toNat) :
    Searching count xs (i + length) next next 1 rest where
  pos := Nat.one_pos
  short := by omega
  rest_eq := by rw [Nat.add_assoc]; exact h.rest_eq'
  start_eq := h.next_eq
  last_eq := h.next_eq
  run := by
    obtain ⟨hbound, -⟩ := List.getElem?_eq_some_iff.mp h.next_eq
    exact ⟨by omega, fun j a b hij hj => by omega⟩
  least := by
    intro j hj
    have hpos := h.pos
    have hij := h.least j hj
    by_contra hlt
    refine hnext (hj.2 (i + length - 1) last next (by omega) (by omega) h.last_eq ?_)
    rw [Nat.sub_add_cancel (by omega)]
    exact h.next_eq

/-- **The search.**  It ends with the first page of the first run, or there is no run. -/
theorem Searching.answer (h : Searching count xs i start last length rest) :
    (∃ j page, extendAlong count start last length rest = some page ∧ LeastRun count xs j ∧
      xs[j]? = some page) ∨
    (extendAlong count start last length rest = none ∧ ∀ j, ¬ RunAt count xs j) := by
  induction rest generalizing i start last length with
  | nil =>
    rw [extendAlong]
    split <;> rename_i hc
    · obtain rfl : length = count := Nat.le_antisymm h.short hc
      exact .inl ⟨i, start, rfl, ⟨h.run, h.least⟩, h.start_eq⟩
    · refine .inr ⟨rfl, ?_⟩
      intro j hj
      have hij := h.least j hj
      have hend := List.drop_eq_nil_iff.mp h.rest_eq
      have := hj.1
      omega
  | cons next rest ih =>
    rw [extendAlong]
    split <;> rename_i hc
    · obtain rfl : length = count := Nat.le_antisymm h.short hc
      exact .inl ⟨i, start, rfl, ⟨h.run, h.least⟩, h.start_eq⟩
    · split <;> rename_i hnext
      · exact ih (h.extend (by omega) hnext)
      · exact ih (h.restart (by omega) hnext)

theorem searching_cons (x : Page) (xs : List Page) (hcount : 0 < count) :
    Searching count (x :: xs) 0 x x 1 xs where
  pos := Nat.one_pos
  short := hcount
  rest_eq := rfl
  start_eq := rfl
  last_eq := rfl
  run := ⟨by simp, fun j a b hij hj => by omega⟩
  least j _ := Nat.zero_le j

/-- **What the search answers is the first page of the first run.** -/
theorem runPage_eq_some (hcount : 0 < count) {page : Page} (h : runPage count xs = some page) :
    ∃ i, LeastRun count xs i ∧ xs[i]? = some page := by
  rcases xs with _ | ⟨x, xs⟩
  · simp [runPage] at h
  · obtain ⟨j, p, hp, hleast, hj⟩ | ⟨hnone, -⟩ := (searching_cons x xs hcount).answer
    · obtain rfl : p = page := Option.some.inj (hp.symm.trans h)
      exact ⟨j, hleast, hj⟩
    · rw [runPage, hnone] at h
      cases h

/-- **If the search answers nothing there is no run.** -/
theorem runPage_eq_none (hcount : 0 < count) (h : runPage count xs = none) :
    ∀ i, ¬ RunAt count xs i := by
  rcases xs with _ | ⟨x, xs⟩
  · intro i hi
    have := hi.1
    simp at this
    omega
  · obtain ⟨j, p, hp, -, -⟩ | ⟨-, hnone⟩ := (searching_cons x xs hcount).answer
    · rw [runPage, hp] at h
      cases h
    · exact hnone

/-! ## 3. The search along a free list -/

namespace Pool

open Table

/-- The search along the links is the search in the sequence. -/
theorem extendRun_eq {table : Table} (hsmall : table.size ≤ Page.nil.toNat)
    (h : (last :: rest).IsChain (table.Leads Descriptor.next)) :
    extendRun table count start last length rest.length =
      .ok (extendAlong count start last length rest) := by
  induction rest generalizing start last length with
  | nil => rfl
  | cons next rest ih =>
    rw [List.isChain_cons_cons] at h
    obtain ⟨row, hrow, hnext⟩ := h.1.exists_row
    have hsucc : last.succExact = .ok (last + 1) := by
      rw [Page.succExact, if_neg]
      rintro rfl
      exact absurd h.1.lt_size (Nat.not_lt.mpr hsmall)
    have hiff : next = last + 1 ↔ last.toNat + 1 = next.toNat := by
      rw [← Page.succExact_eq_ok_iff, hsucc, Except.ok.injEq, eq_comm]
    rw [List.length_cons, extendRun, extendAlong]
    by_cases hc : count ≤ length
    · rw [if_pos hc, if_pos hc]
    · rw [if_neg hc, if_neg hc, hrow, hsucc]
      simp only [bind, Except.bind, hnext, hiff]
      split
      · exact ih h.2
      · exact ih h.2

variable {pool pool' : Pool}

/-- **In a pool in balance the search depends on the sequence of the free list alone.**  It looks at
as many pages as the list has, so it never goes on from the tail to the head. -/
theorem Balanced.firstRun_eq (h : pool.Balanced xs) (count : Word) :
    pool.firstRun count = .ok (runPage count.toNat xs) := by
  rw [firstRun, h.threads.head]
  rcases xs with _ | ⟨x, xs⟩
  · rfl
  · have hlen : pool.freePages.toNat - 1 = xs.length := by
      rw [h.counted, List.length_cons]
      rfl
    dsimp only [List.head?_cons]
    rw [hlen]
    exact extendRun_eq h.small.le (ring_next h.threads.ring).isChain

/-- If the free list shows a run, the list stays as it is. -/
theorem Balanced.yields_seekRun_some (h : pool.Balanced xs) {count : Word} {compaction : Bool}
    {page : Page} (hrun : runPage count.toNat xs = some page) :
    (seekRun count compaction).Yields pool (.ok (some page)) pool :=
  .bind (Action.yields_look ((h.firstRun_eq count).trans (congrArg _ hrun)))
    (Action.yields_pure _ _)

/-- If it shows none and must not be rebuilt, there is no answer. -/
theorem Balanced.yields_seekRun_none (h : pool.Balanced xs) {count : Word}
    (hrun : runPage count.toNat xs = none) :
    (seekRun count false).Yields pool (.ok none) pool :=
  .bind (Action.yields_look ((h.firstRun_eq count).trans (congrArg _ hrun)))
    (Action.yields_pure _ _)

/-- If it shows none and may be rebuilt, the answer is the lowest run of the table. -/
theorem Balanced.exists_seekRun (h : pool.Balanced xs) {count : Word}
    (hrun : runPage count.toNat xs = none) (hcount : pool.compactions.toNat + 1 < 2 ^ 64) :
    ∃ pool', (seekRun count true).Yields pool (.ok (runPage count.toNat pool.table.freePages))
        pool' ∧ Rebuilt pool pool' ∧ pool'.compactions.toNat = pool.compactions.toNat + 1 := by
  obtain ⟨pool', hyields, hbuilt, hnat⟩ := h.exists_compact hcount
  refine ⟨pool', .bind (Action.yields_look ((h.firstRun_eq count).trans (congrArg _ hrun))) ?_,
    hbuilt, hnat⟩
  exact .bind (Action.yields_emit _ _ _) (.bind hyields
    (Action.yields_look ((h.rebuilt hbuilt).firstRun_eq count)))

theorem Balanced.exists_seekRun_error (h : pool.Balanced xs) {count : Word}
    (hrun : runPage count.toNat xs = none) (hcount : 2 ^ 64 ≤ pool.compactions.toNat + 1) :
    ∃ pool', (seekRun count true).Yields pool (.error .addOverflow) pool' ∧
      Rebuilt pool pool' := by
  obtain ⟨pool', hyields, hbuilt⟩ := h.exists_compact_error hcount
  refine ⟨pool', .bind (Action.yields_look ((h.firstRun_eq count).trans (congrArg _ hrun))) ?_,
    hbuilt⟩
  exact .bind (Action.yields_emit _ _ _) (.bind_error hyields)

end Pool

/-! ## 4. Runs of the free pages -/

namespace Table

variable {table : Table}

/-- There are `count` pages from `start` on, all of them free. -/
def FreeRun (table : Table) (start count : Nat) : Prop :=
  start + count ≤ table.size ∧ ∀ k < count, table.IsFree (start + k).toUInt32

/-- Free pages in a row are a block of the ascending list. -/
theorem FreeRun.freePages_eq_append {start : Nat} (h : table.FreeRun start count) :
    ∃ pre post, table.freePages =
      pre ++ (List.range' start count).map Nat.toUInt32 ++ post := by
  obtain ⟨hstop, hfree⟩ := h
  obtain ⟨rest, hrest⟩ := Nat.exists_eq_add_of_le hstop
  have hrange : List.range table.size =
      List.range start ++ List.range' start count ++ List.range' (start + count) rest := by
    rw [hrest, List.range_add, List.range_add]
    simp [List.range'_eq_map_range, Nat.add_assoc]
  have hall : ((List.range' start count).map Nat.toUInt32).filter table.IsFree =
      (List.range' start count).map Nat.toUInt32 := by
    refine List.filter_eq_self.mpr ?_
    intro p hp
    obtain ⟨i, hi, rfl⟩ := List.mem_map.mp hp
    obtain ⟨k, hk, rfl⟩ := List.mem_range'.mp hi
    simpa using hfree k hk
  rw [freePages, freeBelow, hrange, List.map_append, List.map_append, List.filter_append,
    List.filter_append, hall]
  exact ⟨_, _, rfl⟩

/-- **The ascending list shows a run exactly where the table has free pages in a row.** Nothing lies
between two free pages whose numbers differ by one, so in ascending order they are neighbours. For a
list in another order only the first direction holds, and a request may have to rebuild. -/
theorem exists_runAt_freePages_iff (hcount : 0 < count) (hsize : table.size ≤ 2 ^ 32) :
    (∃ i, RunAt count table.freePages i) ↔ ∃ start, table.FreeRun start count := by
  constructor
  · rintro ⟨i, hi⟩
    have hlen : i < table.freePages.length := by have := hi.1; omega
    have hpages : ∀ k < count, ∃ p, p.toNat = table.freePages[i].toNat + k ∧ table.IsFree p := by
      intro k hk
      obtain ⟨p, hp, hnat⟩ := hi.exists_page (List.getElem?_eq_getElem hlen) hk
      exact ⟨p, hnat, (mem_freePages_iff hsize).mp (List.mem_of_getElem? hp)⟩
    refine ⟨table.freePages[i].toNat, ?_, ?_⟩
    · obtain ⟨p, hnat, hfree⟩ := hpages (count - 1) (by omega)
      have := hfree.lt_size
      omega
    · intro k hk
      obtain ⟨p, hnat, hfree⟩ := hpages k hk
      rw [← hnat]
      simpa [Nat.toUInt32] using hfree
  · rintro ⟨start, hrun⟩
    have hstart := hrun.1
    obtain ⟨pre, post, heq⟩ := hrun.freePages_eq_append
    refine ⟨pre.length, ?_, ?_⟩
    · simp [heq]
    · intro j a b hij hj ha hb
      obtain ⟨k, rfl⟩ := Nat.exists_eq_add_of_le hij
      have hget : ∀ k < count, table.freePages[pre.length + k]? = some (start + k).toUInt32 := by
        intro k hk
        rw [heq, List.append_assoc, List.getElem?_append_right (by omega),
          List.getElem?_append_left (by simp; omega)]
        simp [hk]
      rw [hget k (by omega), Option.some.injEq] at ha
      rw [Nat.add_assoc, hget (k + 1) (by omega), Option.some.injEq] at hb
      rw [← ha, ← hb, toNat_toUInt32 (by omega), toNat_toUInt32 (by omega)]
      omega

end Table

end PageFrames
