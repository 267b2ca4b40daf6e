/-
# Giving back what is owned

Whatever is owned can be given back from any of its pages, at any time.  The pages come last on the
free list, in the order of the allocation from that page on, and nothing else is changed
(`Ledger.exists_givenBack_run`).

This holds in runs of any length.  What carries it is less than the whole agreement between the
allocator and its ledger: the pool is in good order, and what is live are allocations that have no
page in common (`Ledger.Held`).  A request that took pages and then could not be counted any more
has entered nothing, and leaves alone what is live.
-/
import PageFrames.Proofs.Ledger

namespace PageFrames

open Table

/-! ## 1. What a release tells -/

namespace Table

theorem quiet_read (page : Page) : (read page).Quiet := Action.quiet_look _

theorem quiet_update (page : Page) (f : Descriptor → Descriptor) : (update page f).Quiet := by
  intro table
  rcases Nat.lt_or_ge page.toNat table.size with hlt | hge
  · rw [run_update_of_lt f hlt]
  · rw [run_update_of_le f hge]

end Table

theorem FreeList.quiet_push (list : FreeList) (page : Page) : (list.push page).Quiet := by
  rw [push]
  split
  · exact .bind (quiet_update _ _) fun _ => Action.quiet_pure _
  · exact .bind (quiet_read _) fun _ => .bind (quiet_update _ _) fun _ =>
      .bind (quiet_update _ _) fun _ => .bind (quiet_update _ _) fun _ => Action.quiet_pure _

theorem FreeList.quiet_append (list other : FreeList) : (list.append other).Quiet := by
  rw [append]
  split
  · exact Action.quiet_pure _
  · exact Action.quiet_pure _
  · exact .bind (quiet_read _) fun _ => .bind (quiet_read _) fun _ =>
      .bind (quiet_update _ _) fun _ => .bind (quiet_update _ _) fun _ =>
      .bind (quiet_update _ _) fun _ => .bind (quiet_update _ _) fun _ => Action.quiet_pure _

namespace Pool

theorem quiet_gather (first : Page) (bound : Nat) (page : Page) (chain : FreeList) :
    (gather first bound page chain).Quiet := by
  induction bound generalizing page chain with
  | zero => exact Action.quiet_fault _
  | succ bound ih =>
    rw [gather]
    refine .bind (quiet_read _) fun row => .bind (quiet_update _ _) fun _ =>
      .bind (chain.quiet_push page) fun chain => ?_
    split
    · exact Action.quiet_pure _
    · exact .bind (ih _ _) fun _ => Action.quiet_pure _

/-- A release from the pool leaves no records. -/
theorem quiet_release (first : Page) (checked : Bool) : (release first checked).Quiet := by
  have hgather : ∀ size, (onTable (gather first (size + 2) first .empty)).Quiet := fun size =>
    (quiet_gather first (size + 2) first .empty).onPart _
  have hreturn : ∀ (chain : FreeList) (count : Nat), (do
      onFree fun free => return ((), ← free.append chain)
      countReleased count.toUInt64
      return count.toUInt64 : Action Pool Word).Quiet := by
    intro chain count
    refine .bind ?_ fun _ => .bind ?_ fun _ => Action.quiet_pure _
    · exact .bind (Action.quiet_peek _) fun free =>
        .bind (.onPart (.bind (free.quiet_append chain) fun _ => Action.quiet_pure _) _) fun _ =>
        .bind (Action.quiet_change _) fun _ => Action.quiet_pure _
    · exact .bind (Action.quiet_peek _) fun _ => .bind (Action.quiet_liftM _) fun _ =>
        Action.quiet_change _
  rw [release]
  split
  · exact .bind (Action.quiet_look _) fun _ => .bind (Action.quiet_peek _) fun size =>
      .bind (hgather size) fun passed => hreturn passed.1 passed.2
  · exact .bind (Action.quiet_peek _) fun size =>
      .bind (hgather size) fun passed => hreturn passed.1 passed.2

end Pool

namespace Allocator

variable {allocator : Allocator} {pool' : Pool} {xs ys : List Page} {page : Page} {count : Word}

/-- What is told goes to the log if the configuration wants it. -/
theorem Seated.log_trace (h : allocator.Seated) (hp : page.toNat < allocator.pool.table.size)
    (count : Word) (what : Addr → String) :
    ∃ a, allocator.addressOf page = .ok a ∧ ((trace count page what).run allocator).log =
      if allocator.config.traces count then
        [⟨.debug, s!"{what a}, {allocator.pool.freePages} pages free"⟩]
      else [] := by
  obtain ⟨a, ha, -⟩ := h.exists_addressOf hp
  refine ⟨a, ha, ?_⟩
  rw [trace, (Action.yields_peek _ _).log_bind]
  split
  · simp [Action.run_bind, ha]
  · rfl

/-- The record of a release of `count` pages at `a`, after which `free` pages are free. -/
def freedRecord (count : Word) (a : Addr) (free : Word) : LogRecord :=
  ⟨.debug, s!"freed {count} pages at {a.text}, {free} pages free"⟩

/-- A release tells the log how many pages it gave back. -/
theorem Seated.log_free (h : allocator.Seated) (hp : page.toNat < allocator.pool.table.size)
    (hsize : pool'.table.size = allocator.pool.table.size)
    (hyields : (Pool.release page allocator.config.checkedFree).Yields allocator.pool (.ok count)
      pool') :
    ∃ a, allocator.addressOf page = .ok a ∧ ((free page).run allocator).log =
      if allocator.config.traces count then [freedRecord count a pool'.freePages] else [] := by
  have hp' : page.toNat < pool'.table.size := hsize.symm ▸ hp
  obtain ⟨a, ha, hlog⟩ := (h.withPool hsize).log_trace hp' count
    fun address => s!"freed {count} pages at {address.text}"
  have hquiet : (onPool (Pool.release page allocator.config.checkedFree)).Quiet :=
    (Pool.quiet_release page _).onPart _
  refine ⟨a, ha, ?_⟩
  rw [free, (Action.yields_peek _ _).log_bind, (yields_onPool hyields).log_bind, hlog,
    hquiet allocator]
  rfl

/-! ## 2. Giving back -/

/-- What comes of giving back the allocation `ys` from its first page `page` on: the pool that is
left, and the number `count` of its pages, where the free list has the pages in the order `xs`. -/
structure Returned (allocator : Allocator) (xs ys : List Page) (page : Page) (count : Word)
    (pool' : Pool) : Prop extends Pool.GivenBack ys xs allocator.pool pool' where
  /-- The pages were in use. -/
  own : allocator.pool.table.Allocation ys
  /-- It is the same with a check and without. -/
  release : ∀ checked, (Pool.release page checked).Yields allocator.pool (.ok count) pool'
  length : count.toNat = ys.length
  free : (free page).Yields allocator (.ok ()) (allocator.withPool pool')
  told : ∃ a, allocator.addressOf page = .ok a ∧
    ((Allocator.free page).run allocator).log =
      if allocator.config.traces count then [freedRecord count a pool'.freePages] else []
  balanced : pool'.Balanced (xs ++ ys)

/-- **An allocation is given back from the page that it is read from.**  The loop goes round the
ring from there, and so the pages come on the list in this order. -/
theorem Seated.exists_returned (h : allocator.Seated) (hbal : allocator.pool.Balanced xs)
    (hown : allocator.pool.table.Allocation (page :: ys)) :
    ∃ count pool', Returned allocator xs (page :: ys) page count pool' := by
  obtain ⟨count, pool', hyields, hcount, hback⟩ := hbal.exists_release hown
  have hpage := (hown.used page (by simp)).lt_size
  exact ⟨count, pool', hback, hown, hyields, hcount,
    h.yields_free hpage hback.rows.size (hyields _), h.log_free hpage hback.rows.size (hyields _),
    hbal.givenBack hown.used hback⟩

end Allocator

/-! ## 3. What is live -/

namespace Ledger

variable {ledger : Ledger} {setup : Allocator} {request : Request} {page : Page} {pool' : Pool}

/-- The allocator is in good order, and what is live are allocations that have no page in common. -/
structure Held (ledger : Ledger) : Prop where
  seated : ledger.allocator.Seated
  wellKept : ∃ xs, ledger.allocator.pool.WellKept ledger.allocator.region.start xs
  own : ∀ holding ∈ ledger.live, ledger.allocator.pool.table.Allocation holding.pages
  disjoint : ledger.live.Pairwise fun a b => a.pages.Disjoint b.pages

/-- What is live stays so while the rows of its pages are not touched. -/
theorem Held.withPool (h : Held ledger)
    (hsize : pool'.table.size = ledger.allocator.pool.table.size)
    (hkept : ∃ xs, pool'.WellKept ledger.allocator.region.start xs) {live : List Holding}
    (hlive : live.Sublist ledger.live)
    (hrows : ∀ holding ∈ live, ∀ p ∈ holding.pages,
      pool'.table[p.toNat]? = ledger.allocator.pool.table[p.toNat]?) :
    Held ⟨ledger.allocator.withPool pool', live⟩ where
  seated := h.seated.withPool hsize
  wellKept := hkept
  own := by
    intro holding hmem
    exact (h.own holding (hlive.mem hmem)).congr (hrows holding hmem)
  disjoint := h.disjoint.sublist hlive

/-- A request for pages adds at most one allocation. -/
theorem Held.step_asked {asked : Word × Options} (h : Held ledger)
    (hasked : request.asked = some asked) : Held (ledger.step request) := by
  obtain ⟨xs, hkept⟩ := h.wellKept
  obtain ⟨r, pool', hout, hstep⟩ := exists_step_asked h.seated hkept.toBalanced hasked
  obtain ⟨hsize, hkept'⟩ := hkept.allocates hout
  have hheld : Held ⟨ledger.allocator.withPool pool', ledger.live⟩ := by
    refine h.withPool hsize hkept' (.refl _) ?_
    intro holding hmem p hp
    exact hkept.toBalanced.row_eq_of_allocates hout ((h.own holding hmem).used p hp)
  rcases hstep with ⟨first, ys, rfl, -, htook, hstep⟩ | ⟨-, hstep⟩
  · rw [hstep]
    refine ⟨hheld.seated, hheld.wellKept, ?_, ?_⟩
    · rw [List.forall_mem_cons]
      exact ⟨htook.own, hheld.own⟩
    · rw [List.pairwise_cons]
      refine ⟨?_, h.disjoint⟩
      -- the new pages were free, and what is live is in use
      intro holding hmem p hnew hold
      exact (htook.free p hnew).not_isUsed ((h.own holding hmem).used p hold)
  · rw [hstep]
    exact hheld

/-- A release takes one allocation out. -/
theorem Held.step_free {page : Page} (h : Held ledger) (hallows : ledger.Allows (.free page)) :
    Held (ledger.step (.free page)) := by
  obtain ⟨xs, hkept⟩ := h.wellKept
  obtain ⟨given, hgiven, hpage, ys, pool', hperm, hused, hback, hstep⟩ :=
    exists_step_free h.seated hkept.toBalanced h.own hallows
  have hgave := hkept.toBalanced.gaveBack hused hback
  rw [hstep]
  refine h.withPool hback.rows.size ⟨_, hkept.givenBack hused hback⟩ List.filter_sublist ?_
  intro holding hmem p hp
  obtain ⟨hlive, hother⟩ := List.mem_filter.mp hmem
  have hne : holding ≠ given := by
    rintro rfl
    exact absurd hpage (by simpa using hother)
  have : Std.Symm fun a b : Holding => a.pages.Disjoint b.pages := ⟨fun _ _ => .symm⟩
  have hapart : holding.pages.Disjoint given.pages := h.disjoint.forall hlive hgiven hne
  exact hgave.used p ((h.own holding hlive).used p hp) fun hback =>
    hapart hp (hperm.mem_iff.mp hback)

/-- **Every request that is allowed** keeps what is live. -/
theorem Held.step (h : Held ledger) (hallows : ledger.Allows request) :
    Held (ledger.step request) := by
  cases request with
  | attempt count options => exact h.step_asked rfl
  | demand count options => exact h.step_asked rfl
  | reserve size => exact h.step_asked rfl
  | free page => exact h.step_free hallows

/-- **A run in which each request is allowed** keeps what is live, however long it is. -/
theorem Held.run {requests : List Request} (h : Held ledger) (hallows : ledger.AllowsAll requests) :
    Held (ledger.run requests) := by
  induction requests generalizing ledger with
  | nil => exact h
  | cons request requests ih => exact ih (h.step hallows.1) hallows.2

theorem held_of_setUp (hsetup : setup.SetUp) : Held { allocator := setup } := by
  obtain ⟨hseated, -, hkept⟩ := hsetup.wellKept
  exact ⟨hseated, ⟨_, hkept⟩, by simp, .nil⟩

/-! ## 4. What is owned can be given back -/

/-- What is listed is given back from the page at any place of it. -/
theorem Held.exists_returned (h : Held ledger) {holding : Holding} {j : Nat}
    (hlive : holding ∈ ledger.live) (hpage : holding.pages[j]? = some page) :
    ∃ xs count pool', ledger.allocator.pool.Balanced xs ∧
      ledger.allocator.Returned xs (holding.pages.rotate j) page count pool' := by
  obtain ⟨xs, hkept⟩ := h.wellKept
  obtain ⟨ys, hturn, hown⟩ := (h.own holding hlive).exists_rotate hpage
  obtain ⟨count, pool', hback⟩ := h.seated.exists_returned hkept.toBalanced hown
  exact ⟨xs, count, pool', hkept.toBalanced, hturn ▸ hback⟩

/-- **Giving back from any page, at any time.**  An allocation that somebody has is a ring of pages
in use, and no two of these have a page in common.  So a release goes once round the ring from the
page that it names, with a check or without, and touches no row of another allocation. -/
theorem exists_returned_run (hsetup : setup.SetUp) {requests : List Request}
    (hallows : ({ allocator := setup } : Ledger).AllowsAll requests) {holding : Holding} {j : Nat}
    (hlive : holding ∈ (({ allocator := setup } : Ledger).run requests).live)
    (hpage : holding.pages[j]? = some page) :
    ∃ xs count pool',
      (({ allocator := setup } : Ledger).run requests).allocator.pool.Balanced xs ∧
      (({ allocator := setup } : Ledger).run requests).allocator.Returned xs
        (holding.pages.rotate j) page count pool' :=
  ((held_of_setUp hsetup).run hallows).exists_returned hlive hpage

open Allocator in
/-- Two pages, which are all that were free, are given back from the second of them. -/
theorem exists_returned_run_threePages :
    threePages.SetUp ∧ ({ allocator := threePages } : Ledger).AllowsAll [.attempt 2 {}] ∧
      ∃ holding ∈ (({ allocator := threePages } : Ledger).run [.attempt 2 {}]).live,
        holding.pages = [1, 2] ∧ ∃ xs count pool',
          (({ allocator := threePages } : Ledger).run [.attempt 2 {}]).allocator.pool.Balanced xs ∧
          (({ allocator := threePages } : Ledger).run [.attempt 2 {}]).allocator.Returned xs
            (holding.pages.rotate 1) 2 count pool' := by
  have hallows : ({ allocator := threePages } : Ledger).AllowsAll [.attempt 2 {}] := by
    decide +kernel
  obtain ⟨holding, hlive, hpages⟩ :
      ∃ holding ∈ (({ allocator := threePages } : Ledger).run [.attempt 2 {}]).live,
        holding.pages = [1, 2] := by decide +kernel
  have hpage : holding.pages[1]? = some 2 := by
    rw [hpages]
    rfl
  exact ⟨setUp_threePages, hallows, holding, hlive, hpages,
    exists_returned_run setUp_threePages hallows hlive hpage⟩

end Ledger

end PageFrames
