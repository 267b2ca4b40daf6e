/-
# Walks that need not come back

Nothing keeps the handles of a table in rings.  From a page one comes, link by link, to a page
without a row, or back to the page one started from, or to another page for the second time, and
from there on round and round.  What a walk of a table comes to is therefore said here by the
pages that the links lead to, for links in any condition.

* The walk that counts looks at one page more than there are rows at most.  Where it answers with
  the number of rows or less, that is the number of steps until the first return
  (`Table.ringLength_eq_ok_iff_of_le`); where it answers with more, there is no return
  (`Table.ringLength_eq_size_succ_iff`).  Free lists and allocations are counted in this way
  (`Pool.exact_counts`).
* The walk that asks whether all pages are free has no such bound of its own.  It ends at the first
  return or at the first page in use, and where there is neither it does not end at all, for any
  bound (`Table.allFree_eq_endlessWalk_iff`).
-/
import PageFrames.Pool.Release
import PageFrames.Proofs.Pool.FreePages

namespace PageFrames

/-! ## 1. Repetitions -/

/-- What comes after a repetition has come before it. -/
theorem exists_lt_iterate_eq {α : Type} {f : α → α} {x : α} {i j : Nat} (hij : i < j)
    (h : f^[j] x = f^[i] x) (m : Nat) :
    ∃ k < j, (k = m ∨ i ≤ k) ∧ f^[k] x = f^[m] x := by
  induction m using Nat.strong_induction_on with
  | _ m ih =>
    rcases Nat.lt_or_ge m j with hlt | hge
    · exact ⟨m, hlt, .inl rfl, rfl⟩
    · -- one round less leads to the same element
      obtain ⟨k, hk, hor, heq⟩ := ih (m - (j - i)) (by omega)
      refine ⟨k, hk, .inr (by omega), heq.trans ?_⟩
      calc
        f^[m - (j - i)] x = f^[m - j] (f^[i] x) := by
          rw [← Function.iterate_add_apply, show m - j + i = m - (j - i) by omega]
        _ = f^[m - j] (f^[j] x) := by rw [h]
        _ = f^[m] x := by rw [← Function.iterate_add_apply, Nat.sub_add_cancel hge]

/-- Iterates that are different from all earlier ones are different. -/
theorem nodup_iterate_of_ne {α : Type} {f : α → α} {x : α} {n : Nat}
    (h : ∀ i j, i < j → j < n → f^[j] x ≠ f^[i] x) : (List.iterate f x n).Nodup := by
  rw [← List.range_map_iterate]
  refine List.Nodup.map_on ?_ List.nodup_range
  intro i hi j hj hij
  rw [List.mem_range] at hi hj
  rcases Nat.lt_trichotomy i j with hlt | heq | hgt
  · exact absurd hij.symm (h i j hlt hj)
  · exact heq
  · exact absurd hij (h j i hgt hi)

namespace Table

variable {succ : Descriptor → Page} {table : Table} {page start stop : Page}

/-- The links lead from the page to pages with rows only. -/
def Stays (succ : Descriptor → Page) (table : Table) (page : Page) : Prop :=
  ∀ k, ((table.follow succ)^[k] page).toNat < table.size

/-- A page with a row leads on to the page that the row names. -/
theorem exists_row_of_lt (succ : Descriptor → Page) (h : page.toNat < table.size) :
    ∃ row, table.row page = .ok row ∧ succ row = table.follow succ page :=
  (leads_iff_follow.mpr ⟨h, rfl⟩).exists_row

/-- Where all links are to pages with rows, they never lead to another. -/
theorem stays_of_forall_mem (h : ∀ row ∈ table, (succ row).toNat < table.size)
    (hpage : page.toNat < table.size) : table.Stays succ page := by
  intro k
  induction k with
  | zero => exact hpage
  | succ k ih =>
    obtain ⟨row, hrow, hsucc⟩ := exists_row_of_lt succ ih
    rw [Function.iterate_succ_apply', ← hsucc]
    exact h row (Array.mem_of_getElem? (row_eq_ok_iff.mp hrow))

/-- **Among more pages than there are rows, one comes twice.**  Each of them has a row, and there
are not as many. -/
theorem exists_repetition
    (h : ∀ k ≤ table.size, ((table.follow succ)^[k] page).toNat < table.size) :
    ∃ i j, i < j ∧ j ≤ table.size ∧
      (table.follow succ)^[j] page = (table.follow succ)^[i] page := by
  by_contra hcon
  simp only [not_exists, not_and] at hcon
  have hnodup : (List.iterate (table.follow succ) page (table.size + 1)).Nodup :=
    nodup_iterate_of_ne fun i j hij hj => hcon i j hij (by omega)
  have hlen := length_le_size hnodup fun p hp => by
    obtain ⟨k, hk, rfl⟩ := List.mem_iterate.mp hp
    exact h k (by omega)
  rw [List.length_iterate] at hlen
  omega

/-- A page that has not come again after as many steps as there are rows never comes again. -/
theorem iterate_ne_of_le
    (hin : ∀ k ≤ table.size, ((table.follow succ)^[k] start).toNat < table.size)
    (h : ∀ k, 0 < k → k ≤ table.size → (table.follow succ)^[k] start ≠ start) {k : Nat}
    (hk : 0 < k) : (table.follow succ)^[k] start ≠ start := by
  obtain ⟨i, j, hij, hj, hsame⟩ := exists_repetition hin
  rcases Nat.eq_zero_or_pos i with rfl | hi
  · exact absurd hsame (h j hij hj)
  · obtain ⟨m, hm, hor, heq⟩ := exists_lt_iterate_eq hij hsame k
    rw [← heq]
    exact h m (by omega) (by omega)

/-- **A ring of links** is the way from its first page until that comes again, among pages with
rows. -/
theorem ring_leads_iff {xs : List Page} :
    Ring (table.Leads succ) (page :: xs) ↔
      page :: xs = List.iterate (table.follow succ) page (xs.length + 1) ∧
        (table.follow succ)^[xs.length + 1] page = page ∧
        ∀ p ∈ page :: xs, p.toNat < table.size := by
  constructor
  · intro h
    obtain ⟨hiter, hret⟩ := ring_iterate_iff.mp (h.imp fun _ _ => Leads.follow_eq)
    exact ⟨hiter, hret, fun p hp => lt_size_of_ring h hp⟩
  · rintro ⟨hiter, hret, hin⟩
    refine (ring_iterate_iff.mpr ⟨hiter, hret⟩).imp_of_mem ?_
    intro a ha b _ hab
    exact leads_iff_follow.mpr ⟨hin a ha, hab⟩

/-! ## 2. Counting -/

/-- **The count of a walk** is the number of steps until `start` comes, or else the bound. -/
theorem countTo_eq_ok_iff {bound n : Nat} :
    countTo succ table start bound page = .ok n ↔
      n ≤ bound ∧
        (∀ i < n, ((table.follow succ)^[i] page).toNat < table.size ∧
          (table.follow succ)^[i] page ≠ start) ∧
        (n = bound ∨ (table.follow succ)^[n] page = start) := by
  induction bound generalizing page n with
  | zero =>
    rw [countTo, Except.ok.injEq]
    constructor
    · rintro rfl
      exact ⟨Nat.le_refl 0, fun i hi => absurd hi (Nat.not_lt_zero i), .inl rfl⟩
    · rintro ⟨hn, -⟩
      omega
  | succ bound ih =>
    rw [countTo]
    by_cases hpage : page = start
    · rw [if_pos hpage, Except.ok.injEq]
      constructor
      · rintro rfl
        exact ⟨Nat.zero_le _, fun i hi => absurd hi (Nat.not_lt_zero i), .inr hpage⟩
      · rintro ⟨-, hway, -⟩
        by_contra hne
        exact (hway 0 (by omega)).2 hpage
    rw [if_neg hpage]
    rcases Nat.lt_or_ge page.toNat table.size with hlt | hge
    · obtain ⟨row, hrow, hsucc⟩ := exists_row_of_lt succ hlt
      rw [hrow]
      simp only [bind, Except.bind, hsucc]
      constructor
      · intro h
        cases hrest : countTo succ table start bound (table.follow succ page) with
        | error fault => simp [hrest] at h
        | ok m =>
          obtain ⟨hm, hway, hend⟩ := ih.mp hrest
          obtain rfl : m + 1 = n := by simpa [hrest, pure, Except.pure] using h
          refine ⟨by omega, ?_, by simpa using hend⟩
          rintro (_ | i) hi
          · exact ⟨hlt, hpage⟩
          · exact hway i (by omega)
      · rintro ⟨hn, hway, hend⟩
        obtain ⟨m, rfl⟩ : ∃ m, n = m + 1 := Nat.exists_eq_succ_of_ne_zero <| by
          rintro rfl
          rcases hend with hend | hend
          · omega
          · exact hpage hend
        have hrest := ih.mpr ⟨Nat.le_of_succ_le_succ hn, fun i hi => hway (i + 1) (by omega),
          hend.imp_left Nat.succ.inj⟩
        simp [hrest, pure, Except.pure]
    · rw [row_of_le hge]
      constructor
      · intro h
        cases h
      · rintro ⟨hn, hway, hend⟩
        rcases Nat.eq_zero_or_pos n with rfl | hpos
        · rcases hend with hend | hend
          · omega
          · exact absurd hend hpage
        · exact absurd (hway 0 hpos).1 (not_lt.mpr hge)

/-- **The count round a ring** is the number of steps until `start` comes again, or else one more
than the number of rows. -/
theorem ringLength_eq_ok_iff {n : Nat} :
    ringLength succ table start = .ok n ↔
      0 < n ∧ n ≤ table.size + 1 ∧
        (∀ i < n, ((table.follow succ)^[i] start).toNat < table.size) ∧
        (∀ i, 0 < i → i < n → (table.follow succ)^[i] start ≠ start) ∧
        (n = table.size + 1 ∨ (table.follow succ)^[n] start = start) := by
  rw [ringLength]
  rcases Nat.lt_or_ge start.toNat table.size with hlt | hge
  · obtain ⟨row, hrow, hsucc⟩ := exists_row_of_lt succ hlt
    rw [hrow]
    simp only [bind, Except.bind, hsucc]
    constructor
    · intro h
      cases hcount : countTo succ table start table.size (table.follow succ start) with
      | error fault => simp [hcount] at h
      | ok m =>
        obtain ⟨hm, hway, hend⟩ := countTo_eq_ok_iff.mp hcount
        obtain rfl : m + 1 = n := by simpa [hcount, pure, Except.pure] using h
        refine ⟨Nat.succ_pos m, by omega, ?_, ?_, by simpa using hend⟩
        · rintro (_ | i) hi
          · exact hlt
          · exact (hway i (by omega)).1
        · rintro (_ | i) hpos hi
          · omega
          · exact (hway i (by omega)).2
    · rintro ⟨hpos, hn, hin, hne, hend⟩
      obtain ⟨m, rfl⟩ : ∃ m, n = m + 1 := Nat.exists_eq_succ_of_ne_zero hpos.ne'
      have hcount := countTo_eq_ok_iff.mpr ⟨Nat.le_of_succ_le_succ hn,
        fun i hi => ⟨hin (i + 1) (by omega), hne (i + 1) (Nat.succ_pos i) (by omega)⟩,
        hend.imp_left Nat.succ.inj⟩
      simp [hcount, pure, Except.pure]
  · rw [row_of_le hge]
    constructor
    · intro h
      cases h
    · rintro ⟨hpos, -, hin, -⟩
      exact absurd (hin 0 hpos) (not_lt.mpr hge)

/-- **A count that is not above the number of rows** is that of the steps until the first return. -/
theorem ringLength_eq_ok_iff_of_le {n : Nat} (h : n ≤ table.size) :
    ringLength succ table start = .ok n ↔
      0 < n ∧ (∀ i < n, ((table.follow succ)^[i] start).toNat < table.size) ∧
        (∀ i, 0 < i → i < n → (table.follow succ)^[i] start ≠ start) ∧
        (table.follow succ)^[n] start = start := by
  rw [ringLength_eq_ok_iff, and_iff_right (show n ≤ table.size + 1 by omega),
    or_iff_right (show n ≠ table.size + 1 by omega)]

/-- **A count that is above the number of rows** says that there is no return. -/
theorem ringLength_eq_size_succ_iff (hstays : table.Stays succ start) :
    ringLength succ table start = .ok (table.size + 1) ↔
      ∀ k, 0 < k → (table.follow succ)^[k] start ≠ start := by
  rw [ringLength_eq_ok_iff]
  constructor
  · rintro ⟨-, -, -, hne, -⟩ k hk
    exact iterate_ne_of_le (fun k _ => hstays k) (fun k hpos hle => hne k hpos (by omega)) hk
  · intro hne
    exact ⟨Nat.succ_pos _, Nat.le_refl _, fun i _ => hstays i, fun i hpos _ => hne i hpos, .inl rfl⟩

/-- The links lead from the page back to it after `n` steps, and not before. -/
structure ReturnsAfter (succ : Descriptor → Page) (table : Table) (start : Page) (n : Nat) :
    Prop where
  pos : 0 < n
  back : (table.follow succ)^[n] start = start
  first : ∀ i, 0 < i → i < n → (table.follow succ)^[i] start ≠ start

/-- **The first return** is after as many steps as there are rows at most. -/
theorem Stays.le_size_of_returns (h : table.Stays succ start) {n : Nat}
    (hret : table.ReturnsAfter succ start n) : n ≤ table.size := by
  have hlen := length_le_size (nodup_iterate hret.first hret.back) fun p hp => by
    obtain ⟨k, -, rfl⟩ := List.mem_iterate.mp hp
    exact h k
  rwa [List.length_iterate] at hlen

/-- **A count is that of the steps until the first return,** wherever it is not above the number of
rows. -/
theorem Stays.ringLength_eq_iff (h : table.Stays succ start) {n : Nat} :
    (ringLength succ table start = .ok n ∧ n ≤ table.size) ↔ table.ReturnsAfter succ start n := by
  constructor
  · rintro ⟨hcount, hle⟩
    obtain ⟨hpos, -, hfirst, hback⟩ := (ringLength_eq_ok_iff_of_le hle).mp hcount
    exact ⟨hpos, hback, hfirst⟩
  · intro hret
    have hle := h.le_size_of_returns hret
    exact ⟨(ringLength_eq_ok_iff_of_le hle).mpr ⟨hret.pos, fun i _ => h i, hret.first, hret.back⟩,
      hle⟩

/-- **On links that stay inside the table the count is told.** -/
theorem Stays.exists_ringLength (h : table.Stays succ start) :
    ∃ n ≤ table.size + 1, ringLength succ table start = .ok n := by
  classical
  by_cases hex : ∃ k, 0 < k ∧ (table.follow succ)^[k] start = start
  · obtain ⟨hpos, hback⟩ := Nat.find_spec hex
    have hret : table.ReturnsAfter succ start (Nat.find hex) :=
      ⟨hpos, hback, fun i hi hlt heq => Nat.find_min hex hlt ⟨hi, heq⟩⟩
    obtain ⟨hcount, hle⟩ := h.ringLength_eq_iff.mpr hret
    exact ⟨_, by omega, hcount⟩
  · refine ⟨_, Nat.le_refl _, (ringLength_eq_size_succ_iff h).mpr fun k hk heq => ?_⟩
    exact hex ⟨k, hk, heq⟩

/-- What it takes for a count of the pages on the way from `start` to be exact. -/
structure Counts (succ : Descriptor → Page) (table : Table) (start : Page)
    (result : Except Fault Nat) : Prop where
  told : ∃ n ≤ table.size + 1, result = .ok n
  /-- A number that is not above that of the rows is the number of steps until the first return. -/
  returns_iff : ∀ n, (result = .ok n ∧ n ≤ table.size) ↔ table.ReturnsAfter succ start n
  /-- One more than the number of rows says that there is no return. -/
  never_iff : result = .ok (table.size + 1) ↔
    ∀ k, 0 < k → (table.follow succ)^[k] start ≠ start
  /-- Every ring through `start` is counted, that of all pages as well. -/
  ring : ∀ xs, Ring (table.Leads succ) (start :: xs) → (start :: xs).Nodup →
    result = .ok (start :: xs).length

/-- **On links that stay inside the table the count is exact,** whichever links are followed. -/
theorem Stays.counts (h : table.Stays succ start) :
    table.Counts succ start (ringLength succ table start) where
  told := h.exists_ringLength
  returns_iff _ := h.ringLength_eq_iff
  never_iff := ringLength_eq_size_succ_iff h
  ring _ hring hnodup := ringLength_of_ring hring hnodup

/-! ## 3. Asking whether all pages are free -/

/-- The walk ends at a page in use. -/
theorem allFree_of_isUsed {bound : Nat} (h : table.IsUsed page) :
    allFree table stop (bound + 1) page = .ok false := by
  obtain ⟨row, hrow, -⟩ := exists_row_of_lt Descriptor.next h.lt_size
  have hused := (isUsed_iff_of_row (row_eq_ok_iff.mp hrow)).mp h
  rw [allFree, hrow]
  simp [bind, Except.bind, hused, pure, Except.pure]

/-- The walk goes on from a free page, unless the page to stop at comes next. -/
theorem allFree_of_isFree {bound : Nat} (h : table.IsFree page) :
    allFree table stop (bound + 1) page =
      if table.follow Descriptor.next page = stop then .ok true
      else allFree table stop bound (table.follow Descriptor.next page) := by
  obtain ⟨row, hrow, hnext⟩ := exists_row_of_lt Descriptor.next h.lt_size
  have hfree := (isFree_iff_of_row (row_eq_ok_iff.mp hrow)).mp h
  rw [allFree, hrow]
  simp [bind, Except.bind, hfree, hnext, pure, Except.pure]

theorem allFree_of_le {bound : Nat} (h : table.size ≤ page.toNat) :
    allFree table stop (bound + 1) page =
      .error (.indexOutOfBounds table.size page.toNat) := by
  rw [allFree, row_of_le h]
  rfl

/-- **The walk has not ended after `bound` pages** if all of them are free and none leads to the
page to stop at. -/
theorem allFree_eq_endlessWalk_iff {bound : Nat} :
    allFree table stop bound page = .error .endlessWalk ↔
      ∀ i < bound, table.IsFree ((table.follow Descriptor.next)^[i] page) ∧
        (table.follow Descriptor.next)^[i + 1] page ≠ stop := by
  induction bound generalizing page with
  | zero => simp [allFree]
  | succ bound ih =>
    rcases Nat.lt_or_ge page.toNat table.size with hlt | hge
    · rcases isFree_or_isUsed hlt with hfree | hused
      · rw [allFree_of_isFree hfree]
        by_cases hstop : table.follow Descriptor.next page = stop
        · rw [if_pos hstop]
          constructor
          · intro h
            cases h
          · intro h
            exact absurd hstop (h 0 (Nat.succ_pos bound)).2
        · rw [if_neg hstop, ih]
          constructor
          · rintro h (_ | i) hi
            · exact ⟨hfree, hstop⟩
            · exact h i (by omega)
          · intro h i hi
            exact h (i + 1) (by omega)
      · rw [allFree_of_isUsed hused]
        constructor
        · intro h
          cases h
        · intro h
          exact absurd hused (h 0 (Nat.succ_pos bound)).1.not_isUsed
    · rw [allFree_of_le hge]
      constructor
      · intro h
        cases h
      · intro h
        exact absurd (h 0 (Nat.succ_pos bound)).1.lt_size (not_lt.mpr hge)

/-- **The walk finds all pages free** if they are up to the first one that leads to the page to
stop at, and there is such a page within the bound. -/
theorem allFree_eq_true_iff {bound : Nat} :
    allFree table stop bound page = .ok true ↔
      ∃ n < bound, (∀ i ≤ n, table.IsFree ((table.follow Descriptor.next)^[i] page)) ∧
        (∀ i < n, (table.follow Descriptor.next)^[i + 1] page ≠ stop) ∧
        (table.follow Descriptor.next)^[n + 1] page = stop := by
  induction bound generalizing page with
  | zero => simp [allFree]
  | succ bound ih =>
    by_cases hfree : table.IsFree page
    · rw [allFree_of_isFree hfree]
      by_cases hstop : table.follow Descriptor.next page = stop
      · rw [if_pos hstop]
        refine iff_of_true rfl ⟨0, Nat.succ_pos bound, ?_, ?_, hstop⟩
        · intro i hi
          obtain rfl : i = 0 := by omega
          exact hfree
        · intro i hi
          exact absurd hi (Nat.not_lt_zero i)
      · rw [if_neg hstop, ih]
        constructor
        · rintro ⟨n, hn, hall, hne, hend⟩
          refine ⟨n + 1, by omega, ?_, ?_, hend⟩
          · rintro (_ | i) hi
            · exact hfree
            · exact hall i (by omega)
          · rintro (_ | i) hi
            · exact hstop
            · exact hne i (by omega)
        · rintro ⟨_ | n, hn, hall, hne, hend⟩
          · exact absurd hend hstop
          · exact ⟨n, by omega, fun i hi => hall (i + 1) (by omega),
              fun i hi => hne (i + 1) (by omega), hend⟩
    · refine iff_of_false ?_ fun ⟨n, _, hall, _⟩ => hfree (hall 0 (Nat.zero_le n))
      rcases Nat.lt_or_ge page.toNat table.size with hlt | hge
      · rw [allFree_of_isUsed ((isFree_or_isUsed hlt).resolve_left hfree)]
        simp
      · rw [allFree_of_le hge]
        simp

/-- **On links that stay inside the table** the walk is answered if it ends. -/
theorem Stays.exists_allFree {bound : Nat} (h : table.Stays Descriptor.next page)
    (hends : allFree table stop bound page ≠ .error .endlessWalk) :
    ∃ answer, allFree table stop bound page = .ok answer := by
  induction bound generalizing page with
  | zero => exact absurd rfl hends
  | succ bound ih =>
    rcases isFree_or_isUsed (h 0) with hfree | hused
    · rw [Function.iterate_zero_apply] at hfree
      rw [allFree_of_isFree hfree] at hends ⊢
      split at hends <;> rename_i hstop
      · exact ⟨true, if_pos hstop⟩
      · rw [if_neg hstop]
        exact ih (fun k => h (k + 1)) hends
    · exact ⟨false, allFree_of_isUsed hused⟩

/-- **A walk back to its first page that has not ended after as many pages as there are rows never
ends.** -/
theorem Stays.endless_of_size (h : table.Stays Descriptor.next start)
    (hsize : allFree table start table.size start = .error .endlessWalk) (bound : Nat) :
    allFree table start bound start = .error .endlessWalk := by
  have hway := allFree_eq_endlessWalk_iff.mp hsize
  have hne : ∀ k, 0 < k → (table.follow Descriptor.next)^[k] start ≠ start := by
    refine fun k => iterate_ne_of_le (fun k _ => h k) ?_
    rintro (_ | k) hpos hle
    · omega
    · exact (hway k (by omega)).2
  obtain ⟨i, j, hij, hj, hsame⟩ := exists_repetition fun k _ => h k
  refine allFree_eq_endlessWalk_iff.mpr fun k _ => ⟨?_, hne (k + 1) (Nat.succ_pos k)⟩
  obtain ⟨m, hm, -, heq⟩ := exists_lt_iterate_eq hij hsame k
  rw [← heq]
  exact (hway m (by omega)).1

end Table

/-! ## 4. The two counts -/

namespace Pool

/-- **Both counts are exact,** that of the pages of a free list and that of the pages of an
allocation, wherever the links that they follow stay inside the table.  The pages before the first
return are different ones, so there are not more of them than rows, and a count that goes on for one
page more has not missed it. -/
theorem exact_counts (pool : Pool) (start : Page) :
    (pool.table.Stays Descriptor.next start → pool.table.Counts Descriptor.next start
      (FreeList.length { head := some start } pool.table)) ∧
    (pool.table.Stays Descriptor.compound start → pool.table.Counts Descriptor.compound start
      (pool.compoundLength start)) :=
  ⟨Table.Stays.counts, Table.Stays.counts⟩

/-- Three pages.  The free list leads from the first one into a ring of the second alone, and the
compound links lead round all of them. -/
def lasso : Pool where
  table := #[⟨0x1000, .free, .empty, ⟨0, 1⟩, 1⟩, ⟨0x2000, .free, .empty, ⟨1, 1⟩, 2⟩,
    ⟨0x3000, .free, .empty, .none, 0⟩]
  free := { head := some 0 }

theorem exact_counts_lasso :
    lasso.table.Stays Descriptor.next 0 ∧
      lasso.table.Counts Descriptor.next 0 (FreeList.length { head := some 0 } lasso.table) ∧
      FreeList.length { head := some 0 } lasso.table = .ok 4 ∧
    lasso.table.Stays Descriptor.compound 0 ∧
      lasso.table.Counts Descriptor.compound 0 (lasso.compoundLength 0) ∧
      lasso.compoundLength 0 = .ok 3 := by
  -- the link of the third page has no row, but the way does not come there
  have hway : ∀ k, (lasso.table.follow Descriptor.next)^[k] 0 = 0 ∨
      (lasso.table.follow Descriptor.next)^[k] 0 = 1 := by
    intro k
    induction k with
    | zero => exact .inl rfl
    | succ k ih =>
      rw [Function.iterate_succ_apply']
      rcases ih with ih | ih <;> rw [ih] <;> exact .inr (by decide)
  have hnext : lasso.table.Stays Descriptor.next 0 := by
    intro k
    rcases hway k with h | h <;> rw [h] <;> decide
  have hcompound : lasso.table.Stays Descriptor.compound 0 :=
    Table.stays_of_forall_mem (by decide) (by decide)
  exact ⟨hnext, (exact_counts lasso 0).1 hnext, by decide, hcompound,
    (exact_counts lasso 0).2 hcompound, by decide⟩

end Pool

end PageFrames
