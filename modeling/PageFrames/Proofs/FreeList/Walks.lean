/-
# Walks round a ring

A handle in the row of a page leads on to another page: the link to the next page of its list,
the compound link to the next page of its allocation.  Which of them is followed is a parameter
here, as it is of the walk that counts (`Table.ringLength`).

Along a ring without repetition every walk does what it is for: it counts the pages of the ring
(`Table.ringLength_of_ring`), and it lists them in their order (`FreeList.Threads.pages_eq`).
The bounds of the walks do not get in the way, since a sequence of pages without repetition is
never longer than the table (`Table.length_le_size`).
-/
import PageFrames.FreeList.Walk
import PageFrames.Proofs.FreeList.Threads

namespace PageFrames

namespace Table

variable {succ : Descriptor → Page} {table table' : Table} {a b page start stop : Page}
  {xs : List Page}

/-! ## 1. Following a handle -/

/-- The row of `a` names `b`. -/
def Leads (succ : Descriptor → Page) (table : Table) (a b : Page) : Prop :=
  table.column succ a = some b

/-- The page that the row of a page names.  A page without a row leads nowhere else. -/
def follow (succ : Descriptor → Page) (table : Table) (page : Page) : Page :=
  (table.column succ page).getD page

theorem leads_iff_follow :
    table.Leads succ a b ↔ a.toNat < table.size ∧ table.follow succ a = b := by
  rw [Leads, follow, ← column_isSome_iff (f := succ)]
  cases table.column succ a <;> simp

theorem Leads.lt_size (h : table.Leads succ a b) : a.toNat < table.size := lt_of_column_eq_some h

theorem Leads.follow_eq (h : table.Leads succ a b) : table.follow succ a = b :=
  (leads_iff_follow.mp h).2

theorem Leads.exists_row (h : table.Leads succ a b) :
    ∃ row, table.row a = .ok row ∧ succ row = b := by
  obtain ⟨row, hrow, hsucc⟩ := column_eq_some_iff.mp h
  exact ⟨row, row_eq_ok_iff.mpr hrow, hsucc⟩

/-- Links in both directions lead forward. -/
theorem ring_next (h : Ring table.Linked xs) : Ring (table.Leads Descriptor.next) xs :=
  h.imp fun _ _ => And.left

theorem lt_size_of_ring (h : Ring (table.Leads succ) xs) (hp : page ∈ xs) :
    page.toNat < table.size := by
  obtain ⟨next, -, hnext⟩ := h.exists_next hp
  exact hnext.lt_size

/-- There are no more pages without repetition than there are rows. -/
theorem length_le_size (hn : xs.Nodup) (h : ∀ p ∈ xs, p.toNat < table.size) :
    xs.length ≤ table.size := by
  have hsub : xs.map UInt32.toNat ⊆ List.range table.size := by
    intro i hi
    obtain ⟨p, hp, rfl⟩ := List.mem_map.mp hi
    exact List.mem_range.mpr (h p hp)
  have hmap : (xs.map UInt32.toNat).Nodup := hn.map fun _ _ => UInt32.toNat_inj.mp
  simpa using (List.subperm_of_subset hmap hsub).length_le

/-! ## 2. Counting -/

/-- A count along a path to `start` is the length of the path. -/
theorem countTo_of_isChain {bound : Nat} (h : (xs ++ [start]).IsChain (table.Leads succ))
    (hstart : start ∉ xs) (hbound : xs.length ≤ bound) (hpage : (xs ++ [start]).head? = some page) :
    countTo succ table start bound page = .ok xs.length := by
  induction xs generalizing bound page with
  | nil =>
    obtain rfl : start = page := by simpa using hpage
    cases bound <;> simp [countTo]
  | cons x xs ih =>
    obtain rfl : x = page := by simpa using hpage
    obtain ⟨bound, rfl⟩ : ∃ n, bound = n + 1 := Nat.exists_eq_add_of_le' (by simp at hbound; omega)
    obtain ⟨hne, hstart'⟩ : start ≠ x ∧ start ∉ xs := by simpa using hstart
    rw [List.cons_append, List.isChain_cons] at h
    obtain ⟨next, hnext⟩ : ∃ next, (xs ++ [start]).head? = some next := by
      cases xs <;> simp
    obtain ⟨row, hrow, hsucc⟩ := (h.1 next hnext).exists_row
    have hrest := ih h.2 hstart' (by simpa using hbound) hnext
    rw [← hsucc] at hrest
    rw [countTo, if_neg hne.symm, hrow]
    simp [bind, Except.bind, hrest, pure, Except.pure]

/-- **The count round a ring is its length.** -/
theorem ringLength_of_ring (h : Ring (table.Leads succ) (start :: xs))
    (hn : (start :: xs).Nodup) : ringLength succ table start = .ok (xs.length + 1) := by
  have hlen : (start :: xs).length ≤ table.size :=
    length_le_size hn fun p hp => lt_size_of_ring h hp
  obtain ⟨next, hnext⟩ : ∃ next, (xs ++ [start]).head? = some next := by cases xs <;> simp
  have hchain : (start :: (xs ++ [start])).IsChain (table.Leads succ) := h
  rw [List.isChain_cons] at hchain
  obtain ⟨row, hrow, hsucc⟩ := (hchain.1 next hnext).exists_row
  have hbound : xs.length ≤ table.size := by simp at hlen; omega
  have hcount := countTo_of_isChain hchain.2 (List.nodup_cons.mp hn).1 hbound hnext
  rw [← hsucc] at hcount
  rw [ringLength, hrow]
  simp [bind, Except.bind, hcount, pure, Except.pure]

/-- A count from a row that names a page without a row ends there. -/
theorem ringLength_of_le {row : Descriptor} (hrow : table[start.toNat]? = some row)
    (h : table.size ≤ (succ row).toNat) :
    ringLength succ table start = .error (.indexOutOfBounds table.size (succ row).toNat) := by
  have hlt := (Array.getElem?_eq_some_iff.mp hrow).1
  have hne : succ row ≠ start := by
    intro hself
    rw [hself] at h
    omega
  have hcount : ∀ bound, countTo succ table start (bound + 1) (succ row) =
      .error (.indexOutOfBounds table.size (succ row).toNat) := by
    intro bound
    rw [countTo, if_neg hne, row_of_le h]
    rfl
  -- there is a row at least, so the bound lets one more page be looked at
  have hsize := hcount (table.size - 1)
  rw [Nat.sub_add_cancel (by omega)] at hsize
  rw [ringLength, row_eq_ok_iff.mpr hrow]
  simp [bind, Except.bind, hsize]

/-! ## 3. Listing -/

/-- A walk along a path to `stop` lists the path. -/
theorem walk_of_isChain {bound : Nat}
    (h : (page :: xs ++ [stop]).IsChain (table.Leads Descriptor.next)) (hstop : stop ∉ xs)
    (hbound : xs.length < bound) : walk table stop bound page = .ok (page :: xs) := by
  induction xs generalizing bound page with
  | nil =>
    obtain ⟨bound, rfl⟩ : ∃ n, bound = n + 1 := Nat.exists_eq_add_of_le' hbound
    obtain ⟨row, hrow, hnext⟩ := (List.isChain_pair.mp h).exists_row
    rw [walk, hrow]
    simp [bind, Except.bind, hnext, pure, Except.pure]
  | cons x xs ih =>
    obtain ⟨bound, rfl⟩ : ∃ n, bound = n + 1 := Nat.exists_eq_add_of_le' (by omega)
    obtain ⟨hne, hstop'⟩ : stop ≠ x ∧ stop ∉ xs := by simpa using hstop
    have h' := List.isChain_cons_cons.mp h
    obtain ⟨row, hrow, hnext⟩ := h'.1.exists_row
    have hrest := ih h'.2 hstop' (by simpa using hbound)
    rw [walk, hrow]
    simp [bind, Except.bind, hnext, hne.symm, hrest, pure, Except.pure]

end Table

namespace FreeList.Threads

open Table

variable {list : FreeList} {table : Table} {xs : List Page}

/-- A sequence is never longer than the table. -/
theorem length_le (h : list.Threads table xs) : xs.length ≤ table.size :=
  length_le_size h.nodup fun _ hp => h.lt_size hp

/-- **The walk along a list lists its sequence.** -/
theorem pages_eq (h : list.Threads table xs) {bound : Nat} (hbound : xs.length ≤ bound) :
    list.pages table bound = .ok xs := by
  rcases xs with _ | ⟨x, xs⟩
  · rw [pages, h.head]
    rfl
  · rw [pages, h.head]
    exact walk_of_isChain (ring_next h.ring) (List.nodup_cons.mp h.nodup).1 hbound

/-- **The length of a list is the length of its sequence.** -/
theorem length_eq (h : list.Threads table xs) : list.length table = .ok xs.length := by
  rcases xs with _ | ⟨x, xs⟩
  · rw [length, h.head]
    rfl
  · rw [length, h.head]
    exact ringLength_of_ring (ring_next h.ring) h.nodup

end FreeList.Threads

end PageFrames
