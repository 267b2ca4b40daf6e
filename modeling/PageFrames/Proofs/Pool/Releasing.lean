/-
# What giving pages back does

The check that goes before a release comes out well if and only if the page belongs to an
allocation (`Pool.checkRing_eq_ok_iff`); how the links run otherwise, and whether they run inside
the table at all, does not matter.  A release that fails its check has changed nothing.

The pages of an allocation are gathered on a list of their own, one after the other.  Their
compound links are overwritten on the way, but each only after it has been read, so the loop
passes the pages that the check passed (`Pool.exists_gather`).  What comes of a release is said
by `Pool.Released`: the pages are free and belong to nothing, they come last on the free list, and
nothing else has changed but links of the pages that were free already.
-/
import PageFrames.Pool.Release
import PageFrames.Proofs.Pool.Balance
import PageFrames.Proofs.Pool.Chains

namespace PageFrames

open Table

/-! ## 1. The check -/

namespace Pool

variable {table : Table} {pool : Pool} {first page : Page}

/-- The check fails at a page that is not in use, whether it is free or not there. -/
theorem checkFrom_ne_ok {bound : Nat} (h : ¬ table.IsUsed page) :
    checkFrom table first bound page ≠ .ok () := by
  intro hok
  rw [checkFrom] at hok
  rcases Nat.lt_or_ge page.toNat table.size with hlt | hge
  · have hfree : table[page.toNat].isFree = true := by
      rw [isUsed_iff_of_row (Array.getElem?_eq_getElem hlt), Bool.not_eq_false] at h
      exact h
    rw [row_of_lt hlt] at hok
    simp [hfree, bind, Except.bind, throw, throwThe, MonadExceptOf.throw] at hok
  · rw [row_of_le hge] at hok
    simp [bind, Except.bind] at hok

/-- The check fails where no page may be passed any more. -/
theorem checkFrom_zero_ne_ok : checkFrom table first 0 page ≠ .ok () := by
  intro hok
  rw [checkFrom] at hok
  cases hrow : table.row page with
  | error fault => simp [hrow, bind, Except.bind] at hok
  | ok row =>
    cases hfree : row.isFree <;>
      simp [hrow, hfree, bind, Except.bind, throw, throwThe, MonadExceptOf.throw] at hok

/-- **A step of the check.**  From a page in use it goes on to the next one, unless that is the
page where it began. -/
theorem checkFrom_succ_eq_ok_iff {bound : Nat} (h : table.IsUsed page) :
    checkFrom table first (bound + 1) page = .ok () ↔
      table.follow Descriptor.compound page = first ∨
        checkFrom table first bound (table.follow Descriptor.compound page) = .ok () := by
  have hlt := h.lt_size
  have hget : table[page.toNat]? = some table[page.toNat] := Array.getElem?_eq_getElem hlt
  have hfree : table[page.toNat].isFree = false := (isUsed_iff_of_row hget).mp h
  have hfollow : table.follow Descriptor.compound page = table[page.toNat].compound :=
    Leads.follow_eq (column_eq_some_iff.mpr ⟨_, hget, rfl⟩)
  rw [checkFrom, row_of_lt hlt, hfollow]
  simp only [bind, Except.bind, hfree, Bool.false_eq_true, if_false, pure, Except.pure]
  by_cases hback : table[page.toNat].compound = first
  · simp [hback]
  · simp [hback]

/-- **The check of a way** comes out well if the way leads through pages in use to `first`, in as
many steps as are allowed. -/
theorem checkFrom_eq_ok_iff {bound : Nat} :
    checkFrom table first bound page = .ok () ↔
      ∃ k, 0 < k ∧ k ≤ bound ∧ (table.follow Descriptor.compound)^[k] page = first ∧
        ∀ i < k, table.IsUsed ((table.follow Descriptor.compound)^[i] page) := by
  induction bound generalizing page with
  | zero =>
    constructor
    · intro hok
      exact absurd hok checkFrom_zero_ne_ok
    · rintro ⟨k, hpos, hle, -⟩
      omega
  | succ bound ih =>
    by_cases hused : table.IsUsed page
    · rw [checkFrom_succ_eq_ok_iff hused, ih]
      constructor
      · rintro (hback | ⟨k, hpos, hle, hto, hall⟩)
        · refine ⟨1, Nat.one_pos, by omega, hback, ?_⟩
          intro i hi
          obtain rfl : i = 0 := by omega
          exact hused
        · refine ⟨k + 1, Nat.succ_pos k, by omega, hto, ?_⟩
          intro i hi
          rcases i with _ | i
          · exact hused
          · exact hall i (by omega)
      · rintro ⟨k, hpos, hle, hto, hall⟩
        rcases k with _ | _ | k
        · omega
        · exact .inl hto
        · -- what is left of the way begins one page on
          refine .inr ⟨k + 1, Nat.succ_pos k, by omega, hto, ?_⟩
          intro i hi
          exact hall (i + 1) (by omega)
    · constructor
      · intro hok
        exact absurd hok (checkFrom_ne_ok hused)
      · rintro ⟨k, hpos, -, -, hall⟩
        exact absurd (hall 0 hpos) hused

/-- The check of a way comes to an end wherever the way leads, since it counts the pages. -/
theorem checkFrom_ne_endlessWalk (table : Table) (first : Page) (bound : Nat) (page : Page) :
    checkFrom table first bound page ≠ .error .endlessWalk := by
  have hthrow : ∀ cause : Fault, cause ≠ .endlessWalk →
      (throw cause : Except Fault Unit) ≠ .error .endlessWalk :=
    fun _ hne he => hne (Except.error.inj he)
  induction bound generalizing page with
  | zero =>
    refine bind_ne_error (row_ne_endlessWalk table page) fun row => ?_
    cases row.isFree with
    | true => exact bind_ne_error (hthrow _ nofun) fun _ => hthrow _ nofun
    | false => exact hthrow _ nofun
  | succ bound ih =>
    refine bind_ne_error (row_ne_endlessWalk table page) fun row => ?_
    have hrest : (if row.compound = first then pure ()
        else checkFrom table first bound row.compound) ≠ .error .endlessWalk := by
      split
      · exact nofun
      · exact ih row.compound
    cases row.isFree with
    | true => exact bind_ne_error (hthrow _ nofun) fun _ => hrest
    | false => exact hrest

theorem checkRing_ne_endlessWalk (pool : Pool) (first : Page) :
    checkRing pool first ≠ .error .endlessWalk := by
  rw [checkRing]
  split
  · exact checkFrom_ne_endlessWalk _ _ _ _
  · exact nofun

/-- **A page passes the check** if and only if it belongs to an allocation.  As many steps as there
are rows are enough for any ring. -/
theorem checkRing_eq_ok_iff :
    checkRing pool first = .ok () ↔ ∃ ys, pool.table.Allocation (first :: ys) := by
  rw [exists_allocation_iff, checkRing]
  split
  · exact checkFrom_eq_ok_iff
  · constructor
    · intro hok
      cases hok
    · rintro ⟨k, hpos, -, -, hused⟩
      exact absurd (hused 0 hpos).lt_size ‹_›

end Pool

/-! ## 2. Rows given back -/

namespace Table

variable {table table' table'' : Table} {xs ys zs : List Page} {page : Page}

/-- The second table is the first one with the pages `ys` given back, but for links of these pages
and of the pages `zs`. -/
structure Released (ys zs : List Page) (table table' : Table) : Prop where
  size : table'.size = table.size
  released : ∀ p ∈ ys, table'.column Descriptor.bare p =
    table.column (fun row => row.released.bare) p
  others : ∀ p ∉ ys, table'.column Descriptor.bare p = table.column Descriptor.bare p
  off : ∀ p ∉ ys, p ∉ zs → table'[p.toNat]? = table[p.toNat]?

theorem released_modify (page : Page) (zs : List Page) (table : Table) :
    Released [page] zs table (table.modify page.toNat Descriptor.released) where
  size := Array.size_modify
  released := by
    intro p hp
    obtain rfl : p = page := by simpa using hp
    rw [column_modify, if_pos rfl]
  others p hp := column_congr_row (getElem?_modify_of_ne (by simpa using hp))
  off p hp _ := getElem?_modify_of_ne (by simpa using hp)

/-- Pages given back can be linked anew. -/
theorem Released.relinked (h : Released ys zs table table')
    (h' : Relinked (zs ++ ys) table' table'') : Released ys zs table table'' where
  size := h'.size_eq.trans h.size
  released p hp := (h'.column_eq _ (fun _ => rfl) p).trans (h.released p hp)
  others p hp := (h'.column_eq _ (fun _ => rfl) p).trans (h.others p hp)
  off p hp hz := (h'.off p (by simp [hp, hz])).trans (h.off p hp hz)

/-- Pages given back in two rounds are given back. -/
theorem Released.trans (h : Released xs zs table table')
    (h' : Released ys (zs ++ xs) table' table'') : Released (xs ++ ys) zs table table'' where
  size := h'.size.trans h.size
  released := by
    intro p hp
    have hcomp := fun t : Table => column_comp Descriptor.released Descriptor.bare t p
    have hreleased : table'.column Descriptor.bare p =
          table.column (fun row => row.released.bare) p →
        (table'.column Descriptor.bare p).map Descriptor.released =
          table.column (fun row => row.released.bare) p := by
      intro he
      rw [he, ← column_comp]
      rfl
    by_cases hy : p ∈ ys
    · refine (h'.released p hy).trans ((hcomp table').trans ?_)
      by_cases hx : p ∈ xs
      · exact hreleased (h.released p hx)
      · rw [h.others p hx]
        exact (hcomp table).symm
    · rw [h'.others p hy]
      exact h.released p ((List.mem_append.mp hp).resolve_right hy)
  others := by
    intro p hp
    rw [List.mem_append, not_or] at hp
    exact (h'.others p hp.2).trans (h.others p hp.1)
  off := by
    intro p hp hz
    rw [List.mem_append, not_or] at hp
    exact (h'.off p hp.2 (by simp [hp.1, hz])).trans (h.off p hp.1 hz)

/-- Pages that have been given back are free. -/
theorem Released.isFree (h : Released ys zs table table') (hp : page ∈ ys)
    (hsize : page.toNat < table.size) : table'.IsFree page := by
  have hrow : table[page.toNat]? = some table[page.toNat] := Array.getElem?_eq_getElem hsize
  have hstatus : table'.column (fun row => row.bare.status) page = some .free := by
    rw [column_comp Descriptor.status, h.released page hp, ← column_comp Descriptor.status, column,
      hrow]
    rfl
  exact hstatus

/-- Pages that have not been given back are as free as they were. -/
theorem Released.isFree_iff (h : Released ys zs table table') (hp : page ∉ ys) :
    table'.IsFree page ↔ table.IsFree page := by
  refine isFree_congr ?_
  have hcomp := column_comp Descriptor.status Descriptor.bare
  exact (hcomp _ _).trans ((congrArg _ (h.others page hp)).trans (hcomp _ _).symm)

end Table

/-! ## 3. Gathering -/

namespace Pool

variable {table table₀ : Table} {pool pool' : Pool} {first page : Page} {xs ys done : List Page}

/-- **The loop.**  The rows of the pages still to come are as they were at the outset, in `table₀`,
so the links met are those of the allocation, although those passed are gone. -/
theorem exists_gather {chain : FreeList} {bound : Nat} (h : chain.Threads table done)
    (hnodup : (done ++ page :: ys).Nodup) (hway : (page :: ys ++ [first]).IsChain table₀.Chained)
    (hrows : ∀ p ∈ page :: ys, table[p.toNat]? = table₀[p.toNat]?) (hfirst : first ∉ ys)
    (hbound : ys.length < bound) :
    ∃ chain' table', (gather first bound page chain).Yields table
        (.ok (chain', ys.length + 1)) table' ∧
      chain'.Threads table' (done ++ page :: ys) ∧ Released (page :: ys) done table table' := by
  induction ys generalizing page table done chain bound with
  | nil =>
    obtain ⟨bound, rfl⟩ : ∃ n, bound = n + 1 := Nat.exists_eq_add_of_le' hbound
    have hlink : table.Chained page first :=
      (List.isChain_pair.mp hway).congr (hrows page (by simp))
    obtain ⟨row, hrow, hnext⟩ := column_eq_some_iff.mp hlink
    have hpage : page ∉ done := by
      intro hd
      exact (List.nodup_append.mp hnodup).2.2 page hd page (by simp) rfl
    have hkept : chain.Threads (table.modify page.toNat Descriptor.released) done :=
      h.congr fun p hp => getElem?_modify_of_ne fun e => hpage (e ▸ hp)
    obtain ⟨chain', table', hpush, hthreads, hlinks⟩ :=
      hkept.push hpage (by simpa using hlink.lt_size)
    refine ⟨chain', table', ?_, hthreads, (released_modify page done table).relinked hlinks⟩
    rw [gather]
    refine .bind (yields_read hrow) (.bind (yields_update _ hlink.lt_size) (.bind hpush ?_))
    rw [if_pos hnext]
    exact Action.yields_pure _ _
  | cons y ys ih =>
    obtain ⟨bound, rfl⟩ : ∃ n, bound = n + 1 := Nat.exists_eq_add_of_le' (by omega)
    have hway' := List.isChain_cons_cons.mp hway
    have hlink : table.Chained page y := hway'.1.congr (hrows page (by simp))
    obtain ⟨row, hrow, hnext⟩ := column_eq_some_iff.mp hlink
    obtain ⟨hne, hfirst'⟩ : first ≠ y ∧ first ∉ ys := by simpa using hfirst
    have hdisj := (List.nodup_append.mp hnodup).2.2
    have hpage : page ∉ done := fun hd => hdisj page hd page (by simp) rfl
    have hkept : chain.Threads (table.modify page.toNat Descriptor.released) done :=
      h.congr fun p hp => getElem?_modify_of_ne fun e => hpage (e ▸ hp)
    obtain ⟨chain₁, table₁, hpush, hthreads, hlinks⟩ :=
      hkept.push hpage (by simpa using hlink.lt_size)
    have hstep : Released [page] done table table₁ :=
      (released_modify page done table).relinked hlinks
    have hnodup' : (done ++ [page] ++ y :: ys).Nodup := by simpa using hnodup
    have hrows' : ∀ p ∈ y :: ys, table₁[p.toNat]? = table₀[p.toNat]? := by
      intro p hp
      have hpp : p ∉ [page] := fun e =>
        (List.nodup_append.mp hnodup').2.2 page (by simp) p hp (List.mem_singleton.mp e).symm
      have hpd : p ∉ done := fun hd => hdisj p hd p (List.mem_cons_of_mem page hp) rfl
      exact (hstep.off p hpp hpd).trans (hrows p (List.mem_cons_of_mem page hp))
    obtain ⟨chain', table', hyields, hthreads', hrest⟩ :=
      ih hthreads hnodup' hway'.2 hrows' hfirst' (by simpa using hbound)
    refine ⟨chain', table', ?_, by simpa using hthreads', ?_⟩
    · rw [gather]
      refine .bind (yields_read hrow) (.bind (yields_update _ hlink.lt_size) (.bind hpush ?_))
      rw [show row.compound = y from hnext, if_neg hne.symm]
      exact .bind hyields (Action.yields_pure _ _)
    · exact hstep.trans hrest

/-! ## 4. The release -/

/-- The second pool is the first one, whose free list has the pages in the order `xs`, with the
pages `ys` given back. -/
structure GivenBack (ys xs : List Page) (pool pool' : Pool) : Prop where
  threads : pool'.free.Threads pool'.table (xs ++ ys)
  rows : Released ys xs pool.table pool'.table
  counted : pool'.freePages.toNat = pool.freePages.toNat + ys.length
  allocations : pool'.allocations = pool.allocations
  compactions : pool'.compactions = pool.compactions

/-- **A pool in balance is still in balance when pages in use have been given back.** -/
theorem Balanced.givenBack (h : pool.Balanced xs) (hused : ∀ p ∈ ys, pool.table.IsUsed p)
    (h' : GivenBack ys xs pool pool') : pool'.Balanced (xs ++ ys) where
  small := h'.rows.size ▸ h.small
  threads := h'.threads
  mem_iff := by
    intro p
    by_cases hp : p ∈ ys
    · exact iff_of_true (List.mem_append_right xs hp) (h'.rows.isFree hp (hused p hp).lt_size)
    · rw [h'.rows.isFree_iff hp, ← h.mem_iff, List.mem_append, or_iff_left hp]
  counted := by rw [h'.counted, h.counted, List.length_append]

/-- **An allocation is given back from any of its pages,** in the same way with a check and without.
The ring passes the check, and the loop overwrites a link only after it has read it, so it goes
round the same pages. -/
theorem Balanced.exists_release (h : pool.Balanced xs)
    (hown : pool.table.Allocation (first :: ys)) :
    ∃ count pool', (∀ checked, (release first checked).Yields pool (.ok count) pool') ∧
      count.toNat = ys.length + 1 ∧ GivenBack (first :: ys) xs pool pool' := by
  have hlen := hown.length_le
  have hsmall := le_of_small h.small
  rw [List.length_cons] at hlen
  obtain ⟨chain, table₁, hgather, hchain, hrows⟩ := exists_gather
    (FreeList.threads_empty pool.table) hown.nodup hown.ring (fun _ _ => rfl)
    (List.nodup_cons.mp hown.nodup).1 (by omega : ys.length < pool.table.size + 2)
  have hdisj : xs.Disjoint (first :: ys) := fun p hx hy =>
    (h.isFree hx).not_isUsed (hown.used p hy)
  have hkept : pool.free.Threads table₁ xs := h.threads.congr fun p hp =>
    hrows.off p (fun hy => hdisj hp hy) (by simp)
  obtain ⟨free, table₂, happend, hthreads, hlinks⟩ := hkept.append hchain hdisj
  have hnat : (ys.length + 1).toUInt64.toNat = ys.length + 1 := Word.toNat_toUInt64 (by omega)
  have hcounted : pool.freePages.toNat ≤ 2 ^ 32 := by
    rw [h.counted]
    exact h.length_le.trans hsmall
  obtain ⟨freePages, hadd, hsum⟩ := Word.exists_addExact (a := pool.freePages)
    (b := (ys.length + 1).toUInt64) (by rw [hnat]; omega)
  refine ⟨_, { pool with table := table₂, free, freePages }, ?_, hnat,
    ⟨hthreads, ?_, by rw [hsum, hnat]; rfl, rfl, rfl⟩⟩
  · intro checked
    rw [release]
    cases checked
    case' true => refine .bind (Action.yields_look (checkRing_eq_ok_iff.mpr ⟨ys, hown⟩)) ?_
    all_goals
      exact .bind (Action.yields_peek _ _) (.bind (yields_onTable hgather)
        (.bind (yields_onFree (.bind happend (Action.yields_pure _ _)))
          (.bind (yields_countReleased hadd) (Action.yields_pure _ _))))
  · exact ⟨hlinks.size_eq.trans hrows.size,
      fun p hp => (hlinks.column_eq _ (fun _ => rfl) p).trans (hrows.released p hp),
      fun p hp => (hlinks.column_eq _ (fun _ => rfl) p).trans (hrows.others p hp),
      fun p hp hx => (hlinks.off p (by simp [hp, hx])).trans (hrows.off p hp (by simp))⟩

/-- **A page that belongs to no allocation is not given back,** and nothing is changed.  The check
says so, and it does not go on for ever. -/
theorem exists_release_error (h : ¬ ∃ ys, pool.table.Allocation (first :: ys)) :
    ∃ fault, fault ≠ .endlessWalk ∧ (release first true).Yields pool (.error fault) pool := by
  cases hcheck : checkRing pool first with
  | ok _ => exact absurd (checkRing_eq_ok_iff.mp hcheck) h
  | error fault =>
    refine ⟨fault, ?_, .bind_error (Action.yields_look hcheck)⟩
    rintro rfl
    exact checkRing_ne_endlessWalk pool first hcheck

end Pool

end PageFrames
