/-
# The free pages of a table

The pages whose rows say that they are free, in ascending order (`Table.freePages`).  This is the
sequence that a rebuilt free list has, whatever the links were before (`Pool.exists_thread`), and
its length is the number of free rows.
-/
import PageFrames.Pool.Basic
import PageFrames.Proofs.FreeList.Walks

namespace PageFrames

namespace Table

variable {table table' : Table} {page : Page} {count : Nat}

/-! ## 1. Free pages -/

/-- The row of the page says that it is free. -/
def IsFree (table : Table) (page : Page) : Prop :=
  table.column Descriptor.status page = some .free

/-- The row of the page says that it is in use. -/
def IsUsed (table : Table) (page : Page) : Prop :=
  table.column Descriptor.status page = some .used

instance (table : Table) : DecidablePred table.IsFree :=
  fun _ => inferInstanceAs (Decidable (_ = _))

instance (table : Table) : DecidablePred table.IsUsed :=
  fun _ => inferInstanceAs (Decidable (_ = _))

theorem IsFree.lt_size (h : table.IsFree page) : page.toNat < table.size := lt_of_column_eq_some h

theorem IsUsed.lt_size (h : table.IsUsed page) : page.toNat < table.size := lt_of_column_eq_some h

theorem IsFree.not_isUsed (h : table.IsFree page) : ¬ table.IsUsed page := by
  rw [IsUsed, show table.column Descriptor.status page = some .free from h]
  simp

/-- A page with a row is free or in use. -/
theorem isFree_or_isUsed (h : page.toNat < table.size) : table.IsFree page ∨ table.IsUsed page := by
  have hrow : table[page.toNat]? = some table[page.toNat] := Array.getElem?_eq_getElem h
  rw [IsFree, IsUsed, column, hrow]
  cases hs : table[page.toNat].status <;> simp [hs]

theorem isFree_iff_of_row {row : Descriptor} (h : table[page.toNat]? = some row) :
    table.IsFree page ↔ row.isFree = true := by
  simp [IsFree, column, h, Descriptor.isFree]

theorem isUsed_iff_of_row {row : Descriptor} (h : table[page.toNat]? = some row) :
    table.IsUsed page ↔ row.isFree = false := by
  rw [IsUsed, column, h, Descriptor.isFree]
  cases hs : row.status <;> simp [hs]

/-! ## 2. The free pages in ascending order -/

/-- The free pages among the first `count` rows, in ascending order. -/
def freeBelow (table : Table) (count : Nat) : List Page :=
  ((List.range count).map Nat.toUInt32).filter table.IsFree

/-- The free pages, in ascending order. -/
def freePages (table : Table) : List Page := table.freeBelow table.size

theorem freeBelow_succ (table : Table) (count : Nat) :
    table.freeBelow (count + 1) =
      table.freeBelow count ++ if table.IsFree count.toUInt32 then [count.toUInt32] else [] := by
  rw [freeBelow, List.range_succ, List.map_append, List.filter_append, ← freeBelow]
  congr 1
  simp [List.filter_cons]

theorem toNat_toUInt32 (h : count < 2 ^ 32) : count.toUInt32.toNat = count := by
  rw [Nat.toUInt32, UInt32.toNat_ofNat']
  exact Nat.mod_eq_of_lt h

theorem mem_freeBelow_iff (h : count ≤ 2 ^ 32) :
    page ∈ table.freeBelow count ↔ page.toNat < count ∧ table.IsFree page := by
  rw [freeBelow, List.mem_filter, List.mem_map]
  constructor
  · rintro ⟨⟨i, hi, rfl⟩, hfree⟩
    rw [List.mem_range] at hi
    exact ⟨by rwa [toNat_toUInt32 (by omega)], by simpa using hfree⟩
  · rintro ⟨hlt, hfree⟩
    exact ⟨⟨page.toNat, List.mem_range.mpr hlt, UInt32.toNat_inj.mp (toNat_toUInt32 (by omega))⟩,
      by simpa using hfree⟩

theorem mem_freePages_iff (h : table.size ≤ 2 ^ 32) : page ∈ table.freePages ↔ table.IsFree page :=
  (mem_freeBelow_iff h).trans ⟨And.right, fun hfree => ⟨hfree.lt_size, hfree⟩⟩

/-- Free pages are listed in ascending order, so none is listed twice. -/
theorem pairwise_freeBelow (table : Table) (h : count ≤ 2 ^ 32) :
    (table.freeBelow count).Pairwise (· < ·) := by
  refine List.Pairwise.filter _ (List.pairwise_map.mpr ?_)
  refine List.pairwise_lt_range.imp_of_mem ?_
  intro a b ha hb hab
  rw [List.mem_range] at ha hb
  rw [UInt32.lt_iff_toNat_lt, toNat_toUInt32 (by omega), toNat_toUInt32 (by omega)]
  exact hab

theorem nodup_freePages (h : table.size ≤ 2 ^ 32) : table.freePages.Nodup :=
  List.Pairwise.imp (fun hlt => UInt32.ne_of_lt hlt) (pairwise_freeBelow table h)

theorem isFree_congr
    (h : table'.column Descriptor.status page = table.column Descriptor.status page) :
    table'.IsFree page ↔ table.IsFree page := by
  rw [IsFree, h, IsFree]

theorem freePages_congr (hsize : table'.size = table.size)
    (h : ∀ p, table'.column Descriptor.status p = table.column Descriptor.status p) :
    table'.freePages = table.freePages := by
  rw [freePages, freePages, freeBelow, freeBelow, hsize]
  exact List.filter_congr fun p _ => by simp [isFree_congr (h p)]

/-- The number of pages in use. -/
def usedCount (table : Table) : Nat := table.countP fun row => !row.isFree

/-- Every page is free or in use. -/
theorem freeCount_add_usedCount (table : Table) :
    table.freeCount + table.usedCount = table.size := by
  have hsplit : table.size =
      table.countP Descriptor.isFree + table.countP (fun row => ¬ row.isFree) :=
    Array.size_eq_countP_add_countP
  simpa [freeCount, usedCount] using hsplit.symm

theorem length_freeBelow (h : count ≤ table.size) (hsize : table.size ≤ 2 ^ 32) :
    (table.freeBelow count).length = (table.toList.take count).countP Descriptor.isFree := by
  induction count with
  | zero => simp [freeBelow]
  | succ count ih =>
    have hlt : count < table.toList.length := by simpa using Nat.lt_of_succ_le h
    have hrow : table[count.toUInt32.toNat]? = some table[count] := by
      rw [toNat_toUInt32 (by omega)]
      exact Array.getElem?_eq_getElem h
    rw [freeBelow_succ, List.take_succ_eq_append_getElem hlt, List.countP_append,
      List.length_append, ih (by omega), Array.getElem_toList]
    simp only [isFree_iff_of_row hrow]
    split <;> simp_all

/-- **The number of free pages** is the number of rows that say so. -/
theorem length_freePages (h : table.size ≤ 2 ^ 32) :
    table.freePages.length = table.freeCount := by
  rw [freePages, length_freeBelow (Nat.le_refl _) h, freeCount, ← Array.countP_toList,
    List.take_of_length_le (by simp)]

end Table

/-! ## 3. Threading a new list -/

open Table in
/-- **A new list is threaded through the free pages,** whatever their links were before. Pages are
pushed in ascending order onto a list that starts empty, so no link is read that has not been
written: this is why rebuilding repairs a table whose links are stale. -/
theorem Pool.exists_thread {table : Table} {count : Nat} (h : count ≤ table.size)
    (hsize : table.size ≤ 2 ^ 32) :
    ∃ list table', (thread count).Yields table (.ok list) table' ∧
      list.Threads table' (table.freeBelow count) ∧
      Relinked (table.freeBelow count) table table' := by
  induction count with
  | zero =>
    exact ⟨.empty, table, Action.yields_pure _ _, FreeList.threads_empty table, Relinked.refl _ _⟩
  | succ count ih =>
    obtain ⟨list, table₁, hyields, hthreads, hlinks⟩ := ih (by omega)
    have hnat : count.toUInt32.toNat = count := toNat_toUInt32 (by omega)
    have hlt : count.toUInt32.toNat < table₁.size := by
      rw [hlinks.size_eq, hnat]
      omega
    have hrow : table₁[count.toUInt32.toNat]? = some table₁[count.toUInt32.toNat] :=
      Array.getElem?_eq_getElem hlt
    have hfree : table.IsFree count.toUInt32 ↔ table₁[count.toUInt32.toNat].isFree = true :=
      (isFree_congr (hlinks.column_eq _ (fun _ => rfl) _)).symm.trans (isFree_iff_of_row hrow)
    rw [freeBelow_succ, thread]
    by_cases hf : table.IsFree count.toUInt32
    · rw [if_pos hf]
      have hnew : count.toUInt32 ∉ table.freeBelow count := by
        rw [mem_freeBelow_iff (by omega), hnat]
        omega
      obtain ⟨list', table', hpush, hthreads', hlinks'⟩ := hthreads.push hnew hlt
      refine ⟨list', table', .bind hyields (.bind (yields_read hrow) ?_), hthreads',
        (hlinks.mono fun p hp => List.mem_append_left _ hp).trans hlinks'⟩
      rw [if_pos (hfree.mp hf)]
      exact hpush
    · rw [if_neg hf, List.append_nil]
      refine ⟨list, table₁, .bind hyields (.bind (yields_read hrow) ?_), hthreads, hlinks⟩
      rw [if_neg (fun h => hf (hfree.mpr h))]
      exact Action.yields_pure _ _

end PageFrames
