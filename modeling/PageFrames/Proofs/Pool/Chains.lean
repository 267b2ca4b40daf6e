/-
# The rings of allocations

The pages of an allocation are in use and are a ring of their compound links
(`Table.Allocation`).  A ring grows by one page at a time, which comes between the last page and
the first (`Table.ring_extend`).

The links alone determine the allocation of a page: it is the way from the page on until it comes
again (`Table.Allocation.eq_iterate`), and there is one if and only if that way stays among the
pages in use and comes back (`Table.exists_allocation_iff`).
-/
import PageFrames.Proofs.Pool.FreePages

namespace PageFrames.Table

variable {α : Type} {table table' : Table} {page a p : Page} {xs : List Page}

/-- The row of `a` names `b` as the next page of its allocation. -/
abbrev Chained (table : Table) (a b : Page) : Prop := table.Leads Descriptor.compound a b

/-- The table with another compound link in the row of a page. -/
def withCompound (page compound : Page) (table : Table) : Table :=
  table.modify page.toNat ({ · with compound })

@[simp] theorem size_withCompound : (withCompound page a table).size = table.size := by
  simp [withCompound]

theorem getElem?_withCompound_of_ne (h : p ≠ page) :
    (withCompound page a table)[p.toNat]? = table[p.toNat]? :=
  getElem?_modify_of_ne h

/-- A column that has nothing to do with compound links stays as it is. -/
theorem column_withCompound (f : Descriptor → α) (hf : ∀ row, f row.unchained = f row) :
    column f (withCompound page a table) p = column f table p :=
  column_modify_of_keeps (g := fun row => { row with compound := a })
    (fun row => (hf { row with compound := a }).symm.trans (hf row)) table page p

theorem yields_setCompound (h : page.toNat < table.size) :
    (setCompound page a).Yields table (.ok ()) (withCompound page a table) := yields_update _ h

theorem chained_withCompound (h : page.toNat < table.size) :
    (withCompound page a table).Chained page a := by
  show column Descriptor.compound (withCompound page a table) page = some a
  rw [withCompound, column_modify, if_pos rfl]
  exact column_const h a

theorem Leads.congr {succ : Descriptor → Page} {b : Page} (h : table.Leads succ a b)
    (ha : table'[a.toNat]? = table[a.toNat]?) : table'.Leads succ a b :=
  (column_congr_row ha).trans h

/-- A ring of handles is not concerned by what happens to pages that are not on it. -/
theorem ring_congr {succ : Descriptor → Page} (h : Ring (table.Leads succ) xs)
    (hrows : ∀ p ∈ xs, table'.column succ p = table.column succ p) :
    Ring (table'.Leads succ) xs := by
  refine h.imp_of_mem ?_
  intro a ha b _ hab
  exact (hrows a ha).trans hab

theorem ring_singleton (h : page.toNat < table.size) :
    Ring (withCompound page page table).Chained [page] :=
  ring_cons_iff.mpr (List.isChain_pair.mpr (chained_withCompound h))

/-- **A ring grows between its last page and its first.** -/
theorem ring_extend {first last : Page} (h : Ring table.Chained xs) (hn : xs.Nodup)
    (hp : page ∉ xs) (hf : xs.head? = some first) (hl : xs.getLast? = some last)
    (hsize : page.toNat < table.size) :
    Ring (withCompound page first (withCompound last page table)).Chained (xs ++ [page]) := by
  have hlmem : last ∈ xs := List.mem_of_getLast? hl
  have hne : ∀ p ∈ xs, p ≠ page := fun p hp' e => hp (e ▸ hp')
  have hold : xs.IsChain (withCompound page first (withCompound last page table)).Chained := by
    refine isChain_of_inner hn h.isChain ?_
    intro a ha b _ hal _ hab
    have hal' : a ≠ last := fun e => hal (e ▸ hl)
    exact hab.congr ((getElem?_withCompound_of_ne (hne a ha)).trans
      (getElem?_withCompound_of_ne hal'))
  refine ring_append hold (.singleton page) ?_ ?_ (List.ne_nil_of_mem hlmem) (by simp)
  · intro l hl' f hf'
    obtain rfl : last = l := Option.some.inj (hl.symm.trans hl')
    obtain rfl : page = f := by simpa using hf'
    exact (chained_withCompound (lt_size_of_ring h hlmem)).congr
      (getElem?_withCompound_of_ne (hne last hlmem))
  · intro l hl' f hf'
    obtain rfl : page = l := by simpa using hl'
    obtain rfl : first = f := Option.some.inj (hf.symm.trans hf')
    exact chained_withCompound (by simpa using hsize)

/-! ## 3. Allocations -/

/-- The pages are in use and are linked into a ring, in this order. -/
structure Allocation (table : Table) (xs : List Page) : Prop where
  nodup : xs.Nodup
  ring : Ring table.Chained xs
  used : ∀ p ∈ xs, table.IsUsed p

theorem allocation_nil (table : Table) : table.Allocation [] :=
  ⟨List.nodup_nil, ring_nil, fun _ hp => absurd hp (by simp)⟩

/-- An allocation can be read from any of its pages on. -/
theorem Allocation.rotate {ys : List Page} (h : table.Allocation (xs ++ ys)) :
    table.Allocation (ys ++ xs) where
  nodup := List.perm_append_comm.nodup_iff.mp h.nodup
  ring := h.ring.rotate
  used p hp := h.used p (List.perm_append_comm.mem_iff.mp hp)

/-- An allocation can be read from the page at any place on. -/
theorem Allocation.exists_rotate {j : Nat} (h : table.Allocation xs) (hj : xs[j]? = some p) :
    ∃ ys, xs.rotate j = p :: ys ∧ table.Allocation (p :: ys) := by
  obtain ⟨hlt, rfl⟩ := List.getElem?_eq_some_iff.mp hj
  have hdrop : xs.drop j = xs[j] :: xs.drop (j + 1) := List.drop_eq_getElem_cons hlt
  refine ⟨xs.drop (j + 1) ++ xs.take j, ?_, ?_⟩
  · rw [List.rotate_eq_drop_append_take hlt.le, hdrop, List.cons_append]
  · rw [← List.cons_append, ← hdrop]
    refine Allocation.rotate ?_
    rw [List.take_append_drop]
    exact h

/-- Each page of an allocation is the first one, if one begins with it. -/
theorem Allocation.exists_cons (h : table.Allocation xs) (hp : p ∈ xs) :
    ∃ ys, table.Allocation (p :: ys) := by
  obtain ⟨before, behind, rfl⟩ := List.append_of_mem hp
  exact ⟨behind ++ before, h.rotate⟩

/-- A page of an allocation has a page after it. -/
theorem Allocation.column_ne_nil (h : table.Allocation xs) (hsmall : table.size ≤ Page.nil.toNat)
    (hp : p ∈ xs) : table.column Descriptor.compound p ≠ some .nil := by
  obtain ⟨next, hmem, hnext⟩ := h.ring.exists_next hp
  have hlt := (h.used next hmem).lt_size
  rw [show table.column Descriptor.compound p = some next from hnext, ne_eq, Option.some.injEq]
  rintro rfl
  omega

/-- An allocation is not concerned by what happens to other pages. -/
theorem Allocation.congr (h : table.Allocation xs)
    (hrows : ∀ p ∈ xs, table'[p.toNat]? = table[p.toNat]?) : table'.Allocation xs where
  nodup := h.nodup
  ring := ring_congr h.ring fun p hp => column_congr_row (hrows p hp)
  used p hp := (column_congr_row (hrows p hp)).trans (h.used p hp)

theorem Allocation.ring_follow (h : table.Allocation xs) :
    Ring (fun a b => table.follow Descriptor.compound a = b) xs :=
  h.ring.imp fun _ _ hab => hab.follow_eq

/-- **The pages of an allocation are those that its links lead to,** until they come back. -/
theorem Allocation.eq_iterate (h : table.Allocation (page :: xs)) :
    page :: xs = List.iterate (table.follow Descriptor.compound) page (xs.length + 1) ∧
      (table.follow Descriptor.compound)^[xs.length + 1] page = page :=
  ring_iterate_iff.mp h.ring_follow

theorem Allocation.length_le_of_head {ys : List Page} (h : table.Allocation (page :: xs))
    (h' : table.Allocation (page :: ys)) : ys.length ≤ xs.length := by
  by_contra hlt
  obtain ⟨-, hback⟩ := h.eq_iterate
  obtain ⟨hiter, -⟩ := h'.eq_iterate
  -- the shorter way round would bring the page into the middle of the longer one
  have hmem : page ∈ ys := by
    rw [List.iterate, List.cons.injEq] at hiter
    rw [hiter.2]
    exact List.mem_iterate.mpr ⟨xs.length, by omega, hback.symm⟩
  exact (List.nodup_cons.mp h'.nodup).1 hmem

/-- **A page belongs to one allocation only.**  Its ring is the way of the links from it, wherever
one begins to read it. -/
theorem Allocation.perm_of_mem {ys : List Page} (h : table.Allocation xs)
    (h' : table.Allocation ys) (hx : p ∈ xs) (hy : p ∈ ys) : xs.Perm ys := by
  obtain ⟨before, behind, rfl⟩ := List.append_of_mem hx
  obtain ⟨before', behind', rfl⟩ := List.append_of_mem hy
  -- read from the page on, the two are the same list
  have hturned : table.Allocation (p :: (behind ++ before)) := h.rotate
  have hturned' : table.Allocation (p :: (behind' ++ before')) := h'.rotate
  have hlen : (behind ++ before).length = (behind' ++ before').length :=
    Nat.le_antisymm (hturned'.length_le_of_head hturned) (hturned.length_le_of_head hturned')
  have hsame : p :: (behind ++ before) = p :: (behind' ++ before') := by
    rw [hturned.eq_iterate.1, hlen, ← hturned'.eq_iterate.1]
  have hturn : ∀ before behind : List Page,
      (before ++ p :: behind).Perm (p :: (behind ++ before)) := fun _ _ => List.perm_append_comm
  calc
    (before ++ p :: behind).Perm (p :: (behind ++ before)) := hturn before behind
    _ = p :: (behind' ++ before') := hsame
    List.Perm _ (before' ++ p :: behind') := (hturn before' behind').symm

/-- **A way through pages in use that comes back** goes round an allocation. Its pages are those up
to the first return, which are distinct because the next page depends on nothing but the page. -/
theorem exists_allocation {k : Nat} (hk : 0 < k)
    (hback : (table.follow Descriptor.compound)^[k] page = page)
    (hused : ∀ i < k, table.IsUsed ((table.follow Descriptor.compound)^[i] page)) :
    ∃ ys, table.Allocation (page :: ys) := by
  classical
  have hex : ∃ k, 0 < k ∧ (table.follow Descriptor.compound)^[k] page = page := ⟨k, hk, hback⟩
  obtain ⟨hpos, hret⟩ := Nat.find_spec hex
  have hle : Nat.find hex ≤ k := Nat.find_min' hex ⟨hk, hback⟩
  have hfirst : ∀ j, 0 < j → j < Nat.find hex →
      (table.follow Descriptor.compound)^[j] page ≠ page :=
    fun j hj hlt h => Nat.find_min hex hlt ⟨hj, h⟩
  obtain ⟨n, hn⟩ : ∃ n, Nat.find hex = n + 1 := Nat.exists_eq_add_of_le' hpos
  rw [hn] at hret hle hfirst
  have hnodup := nodup_iterate hfirst hret
  refine ⟨List.iterate (table.follow Descriptor.compound)
    (table.follow Descriptor.compound page) n, ?_⟩
  have hused' : ∀ p ∈ List.iterate (table.follow Descriptor.compound) page (n + 1),
      table.IsUsed p := by
    intro p hp
    obtain ⟨i, hi, rfl⟩ := List.mem_iterate.mp hp
    exact hused i (by omega)
  refine ⟨hnodup, ?_, hused'⟩
  have hring : Ring (fun a b => table.follow Descriptor.compound a = b)
      (List.iterate (table.follow Descriptor.compound) page (n + 1)) := by
    rw [List.iterate]
    exact ring_iterate_iff.mpr (by simpa using hret)
  exact hring.imp_of_mem fun a ha b _ hab => leads_iff_follow.mpr ⟨(hused' a ha).lt_size, hab⟩

theorem Allocation.length_le (h : table.Allocation xs) : xs.length ≤ table.size :=
  length_le_size h.nodup fun p hp => (h.used p hp).lt_size

/-- **A page belongs to an allocation** if and only if the links lead from it through pages in use
back to it. -/
theorem exists_allocation_iff :
    (∃ ys, table.Allocation (page :: ys)) ↔
      ∃ k, 0 < k ∧ k ≤ table.size ∧ (table.follow Descriptor.compound)^[k] page = page ∧
        ∀ i < k, table.IsUsed ((table.follow Descriptor.compound)^[i] page) := by
  constructor
  · rintro ⟨ys, h⟩
    obtain ⟨hiter, hret⟩ := h.eq_iterate
    refine ⟨ys.length + 1, Nat.succ_pos _, h.length_le, hret, fun i hi => h.used _ ?_⟩
    rw [hiter]
    exact List.mem_iterate.mpr ⟨i, hi, rfl⟩
  · rintro ⟨k, hk, -, hret, hused⟩
    exact exists_allocation hk hret hused

/-- **How a page can fail to belong to an allocation:** the links lead from it out of the table, or
to a free page, or do not come back within as many steps as there are rows. -/
theorem not_exists_allocation_iff :
    (¬ ∃ ys, table.Allocation (page :: ys)) ↔
      (∃ k, table.size ≤ ((table.follow Descriptor.compound)^[k] page).toNat) ∨
        (∃ k, table.IsFree ((table.follow Descriptor.compound)^[k] page)) ∨
        ∀ k, 0 < k → k ≤ table.size → (table.follow Descriptor.compound)^[k] page ≠ page := by
  constructor
  · intro h
    by_contra hcon
    simp only [not_or, not_exists, not_le, not_forall, not_not] at hcon
    obtain ⟨hin, hfree, k, hpos, hle, hret⟩ := hcon
    refine h (exists_allocation_iff.mpr ⟨k, hpos, hle, hret, ?_⟩)
    intro i _
    exact (isFree_or_isUsed (hin i)).resolve_left (hfree i)
  · rintro h hown
    obtain ⟨n, hpos, hle, hret, hused⟩ := exists_allocation_iff.mp hown
    -- once round the ring is as good as any number of times
    have hall : ∀ k, table.IsUsed ((table.follow Descriptor.compound)^[k] page) := by
      intro k
      have hperiodic : Function.IsPeriodicPt (table.follow Descriptor.compound) n page := hret
      rw [← hperiodic.iterate_mod_apply k]
      exact hused _ (Nat.mod_lt _ hpos)
    rcases h with ⟨k, hk⟩ | ⟨k, hk⟩ | h
    · exact absurd (hall k).lt_size (not_lt.mpr hk)
    · exact hk.not_isUsed (hall k)
    · exact h n hpos hle hret

end PageFrames.Table
