/-
# Releases on trust

A release that is not checked gathers whatever pages the compound links lead to, in a table in any
condition, and it does not count how many there are.  It ends all the same, since each pass of its
loop overwrites the compound link of the page it is at.  A page that comes again is the first one,
where the loop stops, or it leads to `Page.nil` by then, which has no row
(`Pool.exists_releaseEnd`).

The links of the list that is gathered are in the same rows, and the same passes change them.  A
page that is pushed a second time leaves that list without order, but this does not matter here.  Of
all these links a pass reads only the one from the head of the list to the page before it, and there
is always a row for that page (`FreeList.Pushable`).
-/
import PageFrames.Proofs.FreeList.Returns
import PageFrames.Proofs.Pool.Releasing

namespace PageFrames

open Table

/-! ## 1. Pages pushed on trust -/

namespace FreeList

variable {list : FreeList} {table : Table} {page : Page}

/-- The page before the head has a row, if there is a head. -/
def Pushable (list : FreeList) (table : Table) : Prop :=
  ∀ head, list.head = some head →
    ∃ tail, table.column Descriptor.prev head = some tail ∧ tail.toNat < table.size

theorem pushable_empty (table : Table) : empty.Pushable table := fun _ h => nomatch h

/-- **Any page with a row can be pushed,** even if it is on the list already. -/
theorem Pushable.push (h : list.Pushable table) (hpage : page.toNat < table.size) :
    ∃ list' table' pages, (list.push page).Yields table (.ok list') table' ∧
      list'.Pushable table' ∧ Relinked pages table table' := by
  cases hlist : list.head with
  | none =>
    refine ⟨{ head := page }, withLink page (.toSelf page) table, [page], ?_, ?_,
      relinked_withLink (by simp)⟩
    · rw [FreeList.push, hlist]
      exact .bind (yields_setLink hpage) (Action.yields_pure _ _)
    · intro head hhead
      obtain rfl := Option.some.inj hhead
      refine ⟨page, ?_, by simpa using hpage⟩
      exact (column_comp Link.prev _ _ _).trans (congrArg _ (column_withLink_self hpage))
  | some head =>
    obtain ⟨tail, hprev, htail⟩ := h head hlist
    have hhead := lt_of_column_eq_some hprev
    obtain ⟨row, hrow, hlink⟩ := column_eq_some_iff.mp hprev
    refine ⟨list, splice tail page head table, [tail, page, head], ?_, ?_,
      relinked_splice (by simp) (by simp) (by simp)⟩
    · rw [FreeList.push, hlist]
      refine .bind (yields_read hrow) ?_
      rw [show row.link.prev = tail from hlink]
      exact .bind (yields_setLink hpage) (.bind (yields_setNext (by simpa using htail))
        (.bind (yields_setPrev (by simpa using hhead)) (Action.yields_pure _ _)))
    · intro head' hhead'
      obtain rfl := Option.some.inj (hlist.symm.trans hhead')
      exact ⟨page, column_prev_withPrev_self (by simpa using hhead), by simpa [splice] using hpage⟩

end FreeList

/-! ## 2. The way of the links -/

namespace Table

variable {table : Table} {first : Page} {n : Nat}

/-- The first `n` pages that the compound links lead to, from `first` on. -/
def trail (table : Table) (first : Page) (n : Nat) : List Page :=
  List.iterate (table.follow Descriptor.compound) first n

theorem mem_trail_iff {p : Page} :
    p ∈ table.trail first n ↔ ∃ i < n, p = (table.follow Descriptor.compound)^[i] first :=
  List.mem_iterate

theorem mem_trail_succ_iff {p : Page} : p ∈ table.trail first (n + 1) ↔
    p ∈ table.trail first n ∨ p = (table.follow Descriptor.compound)^[n] first := by
  rw [trail, trail, List.iterate_add]
  simp [List.iterate]

/-- The first `n` pages of the way are different ones, and have rows. -/
structure Passable (table : Table) (first : Page) (n : Nat) : Prop where
  nodup : (table.trail first n).Nodup
  lt_size : ∀ p ∈ table.trail first n, p.toNat < table.size

theorem Passable.lt_size_iterate (h : table.Passable first n) {i : Nat} (hi : i < n) :
    ((table.follow Descriptor.compound)^[i] first).toNat < table.size :=
  h.lt_size _ (mem_trail_iff.mpr ⟨i, hi, rfl⟩)

/-- On the way no page comes twice. -/
theorem Passable.iterate_ne (h : table.Passable first n) {i j : Nat} (hij : i < j) (hj : j < n) :
    (table.follow Descriptor.compound)^[j] first ≠
      (table.follow Descriptor.compound)^[i] first := by
  intro heq
  have hlen : (table.trail first n).length = n := List.length_iterate _ _ _
  have hsame : (table.trail first n)[j] = (table.trail first n)[i] := by
    simpa [trail] using heq
  exact absurd (h.nodup.getElem_inj_iff.mp hsame) hij.ne'

theorem Passable.of_le (h : table.Passable first n) {m : Nat} (hm : m ≤ n) :
    table.Passable first m := by
  have hsub : (table.trail first m).Sublist (table.trail first n) := by
    rw [trail, trail, ← Nat.min_eq_left hm, ← List.take_iterate]
    exact List.take_sublist _ _
  exact ⟨h.nodup.sublist hsub, fun p hp => h.lt_size p (hsub.subset hp)⟩

/-- **The way of the links** leads out of the table, or back to one of its pages, after as many
pages as there are rows at most. -/
theorem exists_passable (table : Table) (first : Page) :
    ∃ n ≤ table.size, table.Passable first n ∧
      (table.size ≤ ((table.follow Descriptor.compound)^[n] first).toNat ∨
        ∃ i < n, (table.follow Descriptor.compound)^[n] first =
          (table.follow Descriptor.compound)^[i] first) := by
  classical
  have hex : ∃ n ≤ table.size,
      table.size ≤ ((table.follow Descriptor.compound)^[n] first).toNat ∨
        ∃ i < n, (table.follow Descriptor.compound)^[n] first =
          (table.follow Descriptor.compound)^[i] first := by
    by_cases hin : ∀ k ≤ table.size,
        ((table.follow Descriptor.compound)^[k] first).toNat < table.size
    · obtain ⟨i, j, hij, hj, hsame⟩ := exists_repetition hin
      exact ⟨j, hj, .inr ⟨i, hij, hsame⟩⟩
    · simp only [not_forall, not_lt] at hin
      obtain ⟨k, hk, hout⟩ := hin
      exact ⟨k, hk, .inl hout⟩
  -- before the first end of either kind there is neither
  obtain ⟨hle, hend⟩ := Nat.find_spec hex
  have hmin : ∀ m < Nat.find hex,
      ((table.follow Descriptor.compound)^[m] first).toNat < table.size ∧
        ∀ i < m, (table.follow Descriptor.compound)^[m] first ≠
          (table.follow Descriptor.compound)^[i] first := by
    intro m hm
    have hnot := Nat.find_min hex hm
    simp only [not_and, not_or, not_le, not_exists] at hnot
    exact hnot (by omega)
  refine ⟨Nat.find hex, hle, ⟨?_, ?_⟩, hend⟩
  · exact nodup_iterate_of_ne fun i j hij hj => (hmin j hj).2 i hij
  · intro p hp
    obtain ⟨i, hi, rfl⟩ := mem_trail_iff.mp hp
    exact (hmin i hi).1

end Table

/-! ## 3. The passes of the loop -/

namespace Pool

variable {table table' : Table} {first page next : Page} {chain chain' : FreeList} {n : Nat}

/-- One pass of the loop.  It gives back `page` and answers with the page that comes next. -/
def pass (page : Page) (chain : FreeList) : Action Table (Page × FreeList) := do
  let next := (← Table.read page).compound
  Table.update page .released
  return (next, ← chain.push page)

/-- The pages passed before are counted with the others. -/
def countOn (n : Nat) (gathered : FreeList × Nat) : FreeList × Nat :=
  (gathered.1, gathered.2 + n)

theorem gather_succ (first : Page) (bound : Nat) (page : Page) (chain : FreeList) :
    gather first (bound + 1) page chain = pass page chain >>= fun (next, chain) =>
      if next = first then pure (chain, 1) else countOn 1 <$> gather first bound next chain := by
  simp only [gather, pass, bind_assoc, pure_bind]
  rfl

/-- **A pass is made at any page with a row.**  It leaves the row without a compound link. -/
theorem exists_pass (h : chain.Pushable table) (hlink : table.Chained page next) :
    ∃ chain' table', (pass page chain).Yields table (.ok (next, chain')) table' ∧
      chain'.Pushable table' ∧ table'.size = table.size ∧
      ∀ p, table'.column Descriptor.compound p =
        if p = page then some .nil else table.column Descriptor.compound p := by
  obtain ⟨row, hrow, hnext⟩ := column_eq_some_iff.mp hlink
  have hkept : chain.Pushable (table.modify page.toNat Descriptor.released) := by
    intro head hhead
    obtain ⟨tail, hprev, htail⟩ := h head hhead
    refine ⟨tail, ?_, by simpa using htail⟩
    exact (column_modify_of_keeps (f := Descriptor.prev) (g := Descriptor.released)
      (fun _ => rfl) table page head).trans hprev
  obtain ⟨chain', table', pages, hpush, hpushable, hlinks⟩ :=
    hkept.push (show page.toNat < _ by simpa using hlink.lt_size)
  refine ⟨chain', table', ?_, hpushable, hlinks.size_eq.trans Array.size_modify, ?_⟩
  · refine .bind (yields_read hrow) (.bind (yields_update _ hlink.lt_size) ?_)
    rw [show row.compound = next from hnext]
    exact .bind hpush (Action.yields_pure _ _)
  · intro p
    rw [hlinks.column_eq _ (fun _ => rfl), column_modify]
    split
    · subst p
      exact column_const hlink.lt_size _
    · rfl

/-- The loop goes on after a pass, unless it is back at the first page. -/
theorem yields_gather_of_ne {bound : Nat} {r : Except Fault (FreeList × Nat)} {table'' : Table}
    (hpass : (pass page chain).Yields table (.ok (next, chain')) table') (hne : next ≠ first)
    (hrest : (gather first bound next chain').Yields table' r table'') :
    (gather first (bound + 1) page chain).Yields table (r.map (countOn 1)) table'' := by
  rw [gather_succ]
  refine .bind hpass ?_
  simp only [if_neg hne]
  exact hrest.map _

theorem yields_gather_of_back (bound : Nat)
    (hpass : (pass page chain).Yields table (.ok (first, chain')) table') :
    (gather first (bound + 1) page chain).Yields table (.ok (chain', 1)) table' := by
  rw [gather_succ]
  refine .bind hpass ?_
  simp only [if_pos]
  exact Action.yields_pure _ _

/-- No pass is made at a page without a row. -/
theorem yields_gather_of_le (first : Page) (bound : Nat) (chain : FreeList)
    (h : table.size ≤ page.toNat) :
    (gather first (bound + 1) page chain).Yields table
      (.error (.indexOutOfBounds table.size page.toNat)) table :=
  .bind_error (Action.yields_look (row_of_le h))

/-- The loop that gathers the pages from `first` on has made `n` passes.  They left the list `chain`
and the table `table'`, and the loop is at `page`.  Only at `first`, and not before its first
pass, does it stop of itself. -/
inductive Passed (first : Page) (table : Table) :
    (n : Nat) → (page : Page) → (chain : FreeList) → (table' : Table) → Prop
  | start : Passed first table 0 first .empty table
  | pass {n : Nat} {page next : Page} {chain chain' : FreeList} {table₁ table' : Table} :
      Passed first table n page chain table₁ → n = 0 ∨ page ≠ first →
      (pass page chain).Yields table₁ (.ok (next, chain')) table' →
      Passed first table (n + 1) next chain' table'

/-- Fewer passes have been made before, after each of which the loop went on. -/
theorem Passed.exists_of_lt (h : Passed first table n page chain table') {m : Nat} (hm : m < n) :
    ∃ page chain table', Passed first table m page chain table' ∧ (m = 0 ∨ page ≠ first) := by
  induction h with
  | start => exact absurd hm (Nat.not_lt_zero m)
  | pass hbefore hgoes hpass ih =>
    rcases Nat.lt_succ_iff_lt_or_eq.mp hm with hlt | rfl
    · exact ih hlt
    · exact ⟨_, _, _, hbefore, hgoes⟩

/-- **After some passes the loop ends as it does from there on,** with the pages passed counted. -/
theorem Passed.yields_gather {bound : Nat} {r : Except Fault (FreeList × Nat)} {table'' : Table}
    (h : Passed first table n page chain table') (hgoes : n = 0 ∨ page ≠ first)
    (hrest : (gather first bound page chain).Yields table' r table'') :
    (gather first (n + bound) first .empty).Yields table (r.map (countOn n)) table'' := by
  induction h generalizing bound r with
  | start =>
    have hr : r.map (countOn 0) = r := by cases r <;> rfl
    rwa [hr, Nat.zero_add]
  | @pass n page next _ _ _ _ hbefore hgoes' hpass ih =>
    have hne : next ≠ first := hgoes.resolve_left (Nat.succ_ne_zero n)
    have hall := ih hgoes' (yields_gather_of_ne hpass hne hrest)
    have hr : (r.map (countOn 1)).map (countOn n) = r.map (countOn (n + 1)) := by
      cases r with
      | error fault => rfl
      | ok answer => simp [Except.map, countOn]; omega
    rwa [hr, show n + (bound + 1) = n + 1 + bound by omega] at hall

/-- As long as the loop goes on, a bound can be too low for it. -/
theorem Passed.gather_endless (h : Passed first table n page chain table')
    (hgoes : n = 0 ∨ page ≠ first) :
    (gather first n first .empty).Yields table (.error .endlessWalk) table' := by
  have hnone : (gather first 0 page chain).Yields table' (.error .endlessWalk) table' :=
    Action.yields_fault _ _
  exact h.yields_gather hgoes hnone

/-- The loop ends in its pass number `begun`: no bound below that is enough for it, and no bound
from there on makes a difference. -/
structure EndsIn (first : Page) (table : Table) (begun : Nat)
    (result : Except Fault (FreeList × Nat)) (table' : Table) : Prop where
  enough : ∀ bound, begun ≤ bound →
    (gather first bound first .empty).Yields table result table'
  short : ∀ bound < begun, ∃ table'',
    (gather first bound first .empty).Yields table (.error .endlessWalk) table''

/-- **Back at the first page** the loop has ended. -/
theorem Passed.endsIn_of_back (h : Passed first table (n + 1) first chain table') :
    EndsIn first table (n + 1) (.ok (chain, n + 1)) table' where
  enough bound hbound := by
    obtain ⟨extra, rfl⟩ := Nat.exists_eq_add_of_le hbound
    cases h with
    | pass hbefore hgoes hpass =>
      have hall := hbefore.yields_gather hgoes (yields_gather_of_back extra hpass)
      rwa [show n + (extra + 1) = n + 1 + extra by omega, Except.map, countOn,
        Nat.add_comm 1] at hall
  short bound hbound := by
    obtain ⟨page, chain', table'', hbefore, hgoes⟩ := h.exists_of_lt hbound
    exact ⟨table'', hbefore.gather_endless hgoes⟩

/-- **At a page without a row** the loop ends with a fault. -/
theorem Passed.endsIn_of_le (h : Passed first table n page chain table')
    (hgoes : n = 0 ∨ page ≠ first) (hsize : table'.size = table.size)
    (hout : table.size ≤ page.toNat) :
    EndsIn first table (n + 1) (.error (.indexOutOfBounds table.size page.toNat)) table' where
  enough bound hbound := by
    obtain ⟨extra, rfl⟩ := Nat.exists_eq_add_of_le hbound
    have hall := h.yields_gather hgoes (yields_gather_of_le first extra chain (hsize ▸ hout))
    rwa [hsize, show n + (extra + 1) = n + 1 + extra by omega] at hall
  short bound hbound := by
    rcases Nat.lt_succ_iff_lt_or_eq.mp hbound with hlt | rfl
    · obtain ⟨page', chain', table'', hbefore, hgoes'⟩ := h.exists_of_lt hlt
      exact ⟨table'', hbefore.gather_endless hgoes'⟩
    · exact ⟨table', h.gather_endless hgoes⟩

/-- The first `n` passes are those of the first `n` pages of the way. -/
structure Passing (first : Page) (n : Nat) (chain : FreeList) (table table' : Table) : Prop where
  size : table'.size = table.size
  pushable : chain.Pushable table'
  compound : ∀ p, table'.column Descriptor.compound p =
    if p ∈ table.trail first n then some .nil else table.column Descriptor.compound p

/-- **The loop passes the pages of the way** as long as they are different ones and have rows. -/
theorem exists_passed (h : table.Passable first n) :
    ∃ chain table', Passed first table n ((table.follow Descriptor.compound)^[n] first) chain
      table' ∧ Passing first n chain table table' := by
  induction n with
  | zero =>
    exact ⟨.empty, table, .start, rfl, FreeList.pushable_empty table, fun p => by simp [trail]⟩
  | succ n ih =>
    obtain ⟨chain, table₁, hpassed, hpassing⟩ := ih (h.of_le (Nat.le_succ n))
    have hnot : (table.follow Descriptor.compound)^[n] first ∉ table.trail first n := by
      intro hmem
      obtain ⟨i, hi, heq⟩ := mem_trail_iff.mp hmem
      exact h.iterate_ne hi (Nat.lt_succ_self n) heq
    have hlink : table₁.Chained ((table.follow Descriptor.compound)^[n] first)
        ((table.follow Descriptor.compound)^[n + 1] first) := by
      rw [Function.iterate_succ_apply']
      refine (hpassing.compound _).trans ?_
      rw [if_neg hnot]
      exact leads_iff_follow.mpr ⟨h.lt_size_iterate (Nat.lt_succ_self n), rfl⟩
    obtain ⟨chain', table', hpass, hpushable, hsize, hcompound⟩ :=
      exists_pass hpassing.pushable hlink
    have hgoes : n = 0 ∨ (table.follow Descriptor.compound)^[n] first ≠ first := by
      rcases Nat.eq_zero_or_pos n with hzero | hpos
      · exact .inl hzero
      · exact .inr (h.iterate_ne hpos (Nat.lt_succ_self n))
    refine ⟨chain', table', hpassed.pass hgoes hpass, hsize.trans hpassing.size, hpushable, ?_⟩
    intro p
    rw [hcompound, hpassing.compound, if_congr mem_trail_succ_iff rfl rfl]
    by_cases hp : p ∈ table.trail first n
    · simp [hp]
    · simp [hp]

/-! ## 4. Where the loop ends -/

/-- What the loop that gathers the pages from `first` on comes to.  As many passes are completed as
are begun, or one less if the last one ends with a fault. -/
inductive GatherEnd (first : Page) (table : Table) :
    (completed begun : Nat) → Except Fault (FreeList × Nat) → Table → Prop
  /-- The links come back to `first`.  The pages passed are different ones and are the list. -/
  | closed {n : Nat} {chain : FreeList} {table' : Table} :
      0 < n → table.Passable first n → (table.follow Descriptor.compound)^[n] first = first →
      Passed first table n first chain table' → chain.Threads table' (table.trail first n) →
      Released (table.trail first n) [] table table' →
      GatherEnd first table n n (.ok (chain, n)) table'
  /-- The links lead to a page without a row.  The pages passed before are different ones. -/
  | left {n : Nat} {page : Page} {chain : FreeList} {table' : Table} :
      table.Passable first n → (table.follow Descriptor.compound)^[n] first = page →
      table.size ≤ page.toNat → Passed first table n page chain table' →
      GatherEnd first table n (n + 1) (.error (.indexOutOfBounds table.size page.toNat)) table'
  /-- The links come back to another page than `first`.  It is passed for the second time, and leads
  to no page with a row any more. -/
  | circled {n i : Nat} {chain : FreeList} {table' : Table} :
      table.Passable first n → 0 < i → i < n →
      (table.follow Descriptor.compound)^[n] first =
        (table.follow Descriptor.compound)^[i] first →
      Passed first table (n + 1) .nil chain table' →
      GatherEnd first table (n + 1) (n + 2) (.error (.indexOutOfBounds table.size Page.nil.toNat))
        table'

/-- The fault of the loop, if there is one, is that a page has no row. -/
theorem GatherEnd.ne_endlessWalk {completed begun : Nat} {result : Except Fault (FreeList × Nat)}
    (h : GatherEnd first table completed begun result table') : result ≠ .error .endlessWalk := by
  cases h <;> simp

/-- **Back at the first page** the pages of the way are given back and are the list. -/
theorem exists_closed (hpos : 0 < n) (h : table.Passable first n)
    (hback : (table.follow Descriptor.compound)^[n] first = first) :
    ∃ chain table', EndsIn first table n (.ok (chain, n)) table' ∧
      GatherEnd first table n n (.ok (chain, n)) table' := by
  obtain ⟨n, rfl⟩ : ∃ m, n = m + 1 := Nat.exists_eq_add_of_le' hpos
  obtain ⟨chain, table', hpassed, -⟩ := exists_passed h
  rw [hback] at hpassed
  have hends := hpassed.endsIn_of_back
  have htrail : table.trail first (n + 1) =
      first :: table.trail (table.follow Descriptor.compound first) n := rfl
  have hlen : (table.trail (table.follow Descriptor.compound first) n).length = n :=
    List.length_iterate _ _ _
  have hring : Ring table.Chained (table.trail first (n + 1)) := by
    rw [htrail]
    refine ring_leads_iff.mpr ⟨?_, ?_, ?_⟩
    · rw [hlen, ← htrail, trail]
    · rw [hlen, hback]
    · exact htrail ▸ h.lt_size
  have hnodup := h.nodup
  rw [htrail] at hnodup hring
  obtain ⟨chain', table'', hgather, hthreads, hreleased⟩ :=
    exists_gather (FreeList.threads_empty table) hnodup hring (fun _ _ => rfl)
      (List.nodup_cons.mp hnodup).1 (Nat.lt_succ_self _)
  obtain ⟨hanswer, rfl⟩ := hgather.unique (hends.enough _ (by omega))
  simp only [Except.ok.injEq, Prod.mk.injEq] at hanswer
  obtain ⟨rfl, -⟩ := hanswer
  exact ⟨chain', table'', hends, .closed (Nat.succ_pos n) h hback hpassed hthreads hreleased⟩

/-- **The loop ends** after one pass more than there are rows at most, however the links run.  The
way of the links leads out of the table, or back to `first`, or back to a page that has been passed.
The row of this last one has lost its link by then. -/
theorem exists_endsIn (hsmall : table.size < Page.nil.toNat) (first : Page) :
    ∃ completed begun result table', completed ≤ table.size + 1 ∧
      EndsIn first table begun result table' ∧
      GatherEnd first table completed begun result table' := by
  obtain ⟨n, hn, hway, hend⟩ := exists_passable table first
  rcases hend with hout | ⟨i, hi, hagain⟩
  · obtain ⟨chain, table', hpassed, hpassing⟩ := exists_passed hway
    have hgoes : n = 0 ∨ (table.follow Descriptor.compound)^[n] first ≠ first := by
      rcases Nat.eq_zero_or_pos n with hzero | hpos
      · exact .inl hzero
      · refine .inr fun heq => ?_
        rw [heq] at hout
        exact absurd (hway.lt_size_iterate hpos) (not_lt.mpr hout)
    exact ⟨n, n + 1, _, table', by omega, hpassed.endsIn_of_le hgoes hpassing.size hout,
      .left hway rfl hout hpassed⟩
  rcases Nat.eq_zero_or_pos i with rfl | hpos
  · obtain ⟨chain, table', hends, hclosed⟩ := exists_closed hi hway hagain
    exact ⟨n, n, _, table', by omega, hends, hclosed⟩
  · obtain ⟨chain, table₁, hpassed, hpassing⟩ := exists_passed hway
    have hgoes : n = 0 ∨ (table.follow Descriptor.compound)^[n] first ≠ first := by
      rw [hagain]
      exact .inr (hway.iterate_ne hpos hi)
    -- the page has been passed before, so its link is gone
    have hgone : table₁.Chained ((table.follow Descriptor.compound)^[n] first) .nil := by
      refine (hpassing.compound _).trans (if_pos ?_)
      exact mem_trail_iff.mpr ⟨i, hi, hagain⟩
    obtain ⟨chain', table', hpass, -, hsize, -⟩ := exists_pass hpassing.pushable hgone
    have hnil : Page.nil ≠ first := by
      have hfirst : first.toNat < table.size := hway.lt_size_iterate (hpos.trans hi)
      rintro rfl
      omega
    have hpassed' := hpassed.pass hgoes hpass
    exact ⟨n + 1, n + 2, _, table', by omega,
      hpassed'.endsIn_of_le (.inr hnil) (hsize.trans hpassing.size) hsmall.le,
      .circled hway hpos hi hagain hpassed'⟩

/-! ## 5. The release -/

/-- Rows are there or are not. -/
theorem avoids_update (page : Page) (f : Descriptor → Descriptor) :
    (Table.update page f).Avoids .endlessWalk := by
  intro table
  rcases Nat.lt_or_ge page.toNat table.size with hlt | hge
  · simp [run_update_of_lt f hlt]
  · simp [run_update_of_le f hge]

theorem avoids_read (page : Page) : (Table.read page).Avoids .endlessWalk :=
  Action.avoids_look fun table => row_ne_endlessWalk table page

/-- Nothing that comes after the loop walks along links. -/
theorem avoids_append (list other : FreeList) : (list.append other).Avoids .endlessWalk := by
  rw [FreeList.append]
  split
  · exact Action.avoids_pure _
  · exact Action.avoids_pure _
  · exact .bind (avoids_read _) fun _ => .bind (avoids_read _) fun _ =>
      .bind (avoids_update _ _) fun _ => .bind (avoids_update _ _) fun _ =>
        .bind (avoids_update _ _) fun _ => .bind (avoids_update _ _) fun _ => Action.avoids_pure _

theorem avoids_countReleased (count : Word) : (countReleased count).Avoids .endlessWalk :=
  .bind (Action.avoids_peek _) fun _ =>
    .bind (Action.avoids_liftM (Word.addExact_ne_endlessWalk _ _)) fun _ => Action.avoids_change _

/-- **A release that is not checked ends,** however the compound links run.  If its loop ends with a
fault, it ends with the same one, and nothing that it does after the loop goes on for ever.  The
loop cannot go round a ring that `first` is not on, because it destroys the links that it
follows. -/
theorem exists_releaseEnd {pool : Pool} (hsmall : pool.table.size < Page.nil.toNat) (first : Page) :
    ∃ completed begun result table', completed ≤ pool.table.size + 1 ∧
      EndsIn first pool.table begun result table' ∧
      GatherEnd first pool.table completed begun result table' ∧
      ∃ r pool', (release first false).Yields pool r pool' ∧ r ≠ .error .endlessWalk ∧
        ∀ fault, result = .error fault → r = .error fault := by
  obtain ⟨completed, begun, result, table', hcompleted, hends, hend⟩ := exists_endsIn hsmall first
  have hbegun : begun ≤ pool.table.size + 2 := by
    cases hend <;> omega
  have hgather := yields_onTable (hends.enough (pool.table.size + 2) hbegun)
  refine ⟨completed, begun, result, table', hcompleted, hends, hend, ?_⟩
  cases result with
  | error fault =>
    refine ⟨.error fault, _, .bind (Action.yields_peek _ _) (.bind_error hgather), ?_, ?_⟩
    · rintro ⟨⟩
      exact hend.ne_endlessWalk rfl
    · intro fault' hfault
      cases hfault
      rfl
  | ok gathered =>
    have hrest : (do
        onFree fun free => return ((), ← free.append gathered.1)
        countReleased gathered.2.toUInt64
        return gathered.2.toUInt64 : Action Pool Word).Avoids .endlessWalk :=
      .bind (.bind (Action.avoids_peek _) fun free =>
        .bind (.onPart (.bind (avoids_append _ _) fun _ => Action.avoids_pure _) _) fun _ =>
          .bind (Action.avoids_change _) fun _ => Action.avoids_pure _)
        fun _ => .bind (avoids_countReleased _) fun _ => Action.avoids_pure _
    refine ⟨_, _, .bind (Action.yields_peek _ _) (.bind hgather (Action.yields_run _ _)),
      hrest _, ?_⟩
    intro fault hfault
    cases hfault

/-- Three pages in use.  The first one leads into a ring of the other two. -/
def tangled : Pool where
  table := #[⟨0x1000, .used, .empty, .none, 1⟩, ⟨0x2000, .used, .empty, .none, 2⟩,
    ⟨0x3000, .used, .empty, .none, 1⟩]

theorem exists_releaseEnd_tangled :
    tangled.table.size < Page.nil.toNat ∧
      ∃ completed begun result table', completed ≤ tangled.table.size + 1 ∧
        EndsIn 0 tangled.table begun result table' ∧
        GatherEnd 0 tangled.table completed begun result table' ∧
        ∃ r pool', (release 0 false).Yields tangled r pool' ∧ r ≠ .error .endlessWalk ∧
          ∀ fault, result = .error fault → r = .error fault :=
  ⟨by decide, exists_releaseEnd (by decide) 0⟩

/-- The page after the first is passed twice, and after that there is none. -/
example : ((release 0 false).run tangled).result = .error (.indexOutOfBounds 3 4294967295) := by
  decide +kernel

end Pool

end PageFrames
