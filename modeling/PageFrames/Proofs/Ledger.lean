/-
# Who owns which pages

A ledger is kept beside an allocator: it lists the allocations that were made and not given back,
each with the pages that the allocator chained together for it, in their order.  The allocator does
not know of the ledger.  What it does know, in its rows and counters, agrees with the ledger at any
time (`Ledger.Accounted`), provided that only pages that somebody owns are given back; whether
releases are checked does not matter then.

A request adds the pages that it took to the ledger, or none (`Ledger.Kept.took`); a release takes
out the one allocation that has the page (`Ledger.Kept.gaveBack`).  In between, nobody's pages are
touched.
-/
import Mathlib.Algebra.GroupWithZero.Nat
import PageFrames.Proofs.Allocator.Allocations
import PageFrames.Proofs.Setup

namespace PageFrames

open Table

/-! ## 1. The ledger -/

/-- An allocation that was made and not given back. -/
structure Holding where
  /-- The number of pages asked for. -/
  asked : Word
  tag : Tag
  pages : List Page

/-- An allocator with the allocations that were made and not given back. -/
structure Ledger where
  allocator : Allocator
  live : List Holding := []

namespace Ledger

/-- Makes a request, and enters what it came to. -/
def step (ledger : Ledger) : Request → Ledger
  | .free page =>
    let outcome := (Request.free page).perform.run ledger.allocator
    match outcome.result with
    | .ok _ => ⟨outcome.state, ledger.live.filter fun holding => page ∉ holding.pages⟩
    | .error _ => ⟨outcome.state, ledger.live⟩
  | request =>
    let outcome := request.perform.run ledger.allocator
    match request.asked, outcome.result with
    | some (count, options), .ok (some page) =>
      ⟨outcome.state, ⟨count, options.tag, (outcome.state.chain page).1⟩ :: ledger.live⟩
    | _, _ => ⟨outcome.state, ledger.live⟩

/-- Makes a run of requests. -/
def run (ledger : Ledger) (requests : List Request) : Ledger := requests.foldl step ledger

/-- A page is given back only if somebody owns it. -/
def Allows (ledger : Ledger) : Request → Prop
  | .free page => ∃ holding ∈ ledger.live, page ∈ holding.pages
  | _ => True

/-- Each request of the run is allowed when its turn comes. -/
def AllowsAll : Ledger → List Request → Prop
  | _, [] => True
  | ledger, request :: requests =>
    ledger.Allows request ∧ (ledger.step request).AllowsAll requests

instance (ledger : Ledger) (request : Request) : Decidable (ledger.Allows request) :=
  match request with
  | .free page => inferInstanceAs (Decidable (∃ holding ∈ ledger.live, page ∈ holding.pages))
  | .attempt _ _ | .demand _ _ | .reserve _ => .isTrue trivial

instance decidableAllowsAll :
    (ledger : Ledger) → (requests : List Request) → Decidable (ledger.AllowsAll requests)
  | _, [] => .isTrue trivial
  | ledger, request :: requests =>
    have := decidableAllowsAll (ledger.step request) requests
    inferInstanceAs (Decidable (_ ∧ _))

variable {ledger : Ledger} {request : Request} {allocator setup : Allocator} {count : Word}
  {options : Options} {page : Page} {pool' : Pool} {ys : List Page} {tag : Tag}

theorem step_granted (hasked : request.asked = some (count, options))
    (h : request.perform.Yields ledger.allocator (.ok (some page)) allocator) :
    ledger.step request =
      ⟨allocator, ⟨count, options.tag, (allocator.chain page).1⟩ :: ledger.live⟩ := by
  obtain ⟨hresult, hstate⟩ := h
  cases request with
  | free page => cases hasked
  | attempt | demand | reserve => simp only [step, hasked, hresult, hstate]

theorem step_refused {r : Except Fault (Option Page)}
    (hasked : request.asked = some (count, options))
    (h : request.perform.Yields ledger.allocator r allocator) (hr : ∀ page, r ≠ .ok (some page)) :
    ledger.step request = ⟨allocator, ledger.live⟩ := by
  obtain ⟨hresult, hstate⟩ := h
  have hother : ∀ page, (request.perform.run ledger.allocator).result ≠ .ok (some page) := by
    intro page he
    exact hr page (hresult.symm.trans he)
  cases request with
  | free page => cases hasked
  | attempt | demand | reserve =>
    simp only [step, hasked, hstate]
    split
    · exact absurd ‹_› (hother _)
    · rfl

theorem step_freed
    (h : (Request.free page).perform.Yields ledger.allocator (.ok none) allocator) :
    ledger.step (.free page) =
      ⟨allocator, ledger.live.filter fun holding => page ∉ holding.pages⟩ := by
  obtain ⟨hresult, hstate⟩ := h
  simp only [step, hresult, hstate]

/-- **What becomes of the ledger in a request for pages:** the pages that were taken are entered, or
nothing is. -/
theorem exists_step_asked {xs : List Page} (hseated : ledger.allocator.Seated)
    (hbal : ledger.allocator.pool.Balanced xs) (hasked : request.asked = some (count, options)) :
    ∃ r pool', ledger.allocator.Comes xs count options r pool' ∧
      ((∃ first ys, r = .ok (.ok first) ∧ ys.length = count.toNat ∧
          Pool.Took options.tag ys ledger.allocator.pool pool' ∧ ledger.step request =
            ⟨ledger.allocator.withPool pool', ⟨count, options.tag, ys⟩ :: ledger.live⟩) ∨
        (∀ first, r ≠ .ok (.ok first)) ∧
          ledger.step request = ⟨ledger.allocator.withPool pool', ledger.live⟩) := by
  obtain ⟨r, r', pool', hyields, hout, hiff⟩ := Request.exists_perform hseated hbal hasked
  refine ⟨r, pool', hout, ?_⟩
  by_cases hgranted : ∃ first, r = .ok (.ok first)
  · obtain ⟨first, rfl⟩ := hgranted
    obtain rfl := (hiff first).mpr rfl
    obtain ⟨ys, hlen, htook, -⟩ := hbal.took_of_granted hout
    refine .inl ⟨first, first :: ys, rfl, hlen, htook, ?_⟩
    rw [step_granted hasked hyields, (hseated.withPool htook.size).chain_eq htook.own]
  · have hnot : ∀ first, r ≠ .ok (.ok first) := by
      rintro first rfl
      exact hgranted ⟨first, rfl⟩
    refine .inr ⟨hnot, step_refused hasked hyields ?_⟩
    intro page he
    exact hnot page ((hiff page).mp he)

/-- **What becomes of the ledger in a release** of a page that somebody has: the allocations that
have it are taken out, and one of them has been given back, read from that page on. -/
theorem exists_step_free {xs : List Page} (hseated : ledger.allocator.Seated)
    (hbal : ledger.allocator.pool.Balanced xs)
    (hown : ∀ holding ∈ ledger.live, ledger.allocator.pool.table.Allocation holding.pages)
    (hallows : ledger.Allows (.free page)) :
    ∃ given ∈ ledger.live, page ∈ given.pages ∧ ∃ ys pool', ys.Perm given.pages ∧
      (∀ p ∈ ys, ledger.allocator.pool.table.IsUsed p) ∧
      Pool.GivenBack ys xs ledger.allocator.pool pool' ∧ ledger.step (.free page) =
        ⟨ledger.allocator.withPool pool',
          ledger.live.filter fun holding => page ∉ holding.pages⟩ := by
  obtain ⟨given, hgiven, hpage⟩ := hallows
  obtain ⟨before, behind, hpages⟩ := List.append_of_mem hpage
  have hturned := hown given hgiven
  rw [hpages] at hturned
  replace hturned := hturned.rotate
  obtain ⟨pool', hyields, hback⟩ := hseated.exists_free hbal hturned
  refine ⟨given, hgiven, hpage, _, pool', ?_, hturned.used, hback,
    step_freed (.bind hyields (Action.yields_pure _ _))⟩
  rw [hpages]
  exact List.perm_append_comm

/-! ## 2. What is kept between the allocator and the ledger -/

/-- The allocator, whose state after its setup was `setup`, and the ledger agree. -/
structure Kept (setup : Allocator) (ledger : Ledger) : Prop where
  seated : ledger.allocator.Seated
  balanced : ∃ xs, ledger.allocator.pool.Balanced xs
  region : ledger.allocator.region = setup.region
  asked : ∀ holding ∈ ledger.live, holding.pages.length = holding.asked.toNat
  own : ∀ holding ∈ ledger.live, ledger.allocator.pool.table.Allocation holding.pages
  tagged : ∀ holding ∈ ledger.live, ∀ p ∈ holding.pages,
    ledger.allocator.pool.table.column Descriptor.tag p = some holding.tag
  disjoint : ledger.live.Pairwise fun a b => a.pages.Disjoint b.pages
  unreserved : ∀ holding ∈ ledger.live, ∀ p ∈ holding.pages, setup.pool.table.IsFree p
  isFree_iff : ∀ p, ledger.allocator.pool.table.IsFree p ↔
    setup.pool.table.IsFree p ∧ ∀ holding ∈ ledger.live, p ∉ holding.pages
  counted : ledger.allocator.pool.freePages.toNat +
    (ledger.live.map (·.pages.length)).sum = setup.pool.freePages.toNat

/-- The rows of pages that somebody has already are not touched when pages are taken. -/
theorem Kept.row_eq (h : Kept setup ledger) (htook : Pool.Took tag ys ledger.allocator.pool pool')
    {holding : Holding} (hmem : holding ∈ ledger.live) :
    ∀ p ∈ holding.pages, pool'.table[p.toNat]? = ledger.allocator.pool.table[p.toNat]? := by
  intro p hp
  exact htook.used p ((h.own holding hmem).used p hp)

/-- **A request that takes no pages** leaves the ledger as it is. -/
theorem Kept.took_nil (h : Kept setup ledger) (hbal : ∃ xs, pool'.Balanced xs)
    (htook : Pool.Took tag [] ledger.allocator.pool pool') :
    Kept setup ⟨ledger.allocator.withPool pool', ledger.live⟩ where
  seated := h.seated.withPool htook.size
  balanced := hbal
  region := h.region
  asked := h.asked
  own := by
    intro holding hmem
    exact (h.own holding hmem).congr (h.row_eq htook hmem)
  tagged := by
    intro holding hmem p hp
    exact (column_congr_row (h.row_eq htook hmem p hp)).trans (h.tagged holding hmem p hp)
  disjoint := h.disjoint
  unreserved := h.unreserved
  isFree_iff := by
    intro p
    have htaken := htook.isFree_iff p
    simp only [List.not_mem_nil, not_false_eq_true, and_true] at htaken
    exact htaken.trans (h.isFree_iff p)
  counted := by
    have hcount := htook.counted
    have hkept := h.counted
    rw [List.length_nil] at hcount
    rw [Allocator.pool_withPool]
    exact (congrArg (· + _) hcount).trans hkept

/-- **A request that takes pages** enters them. -/
theorem Kept.took (h : Kept setup ledger) (hbal : ∃ xs, pool'.Balanced xs)
    (htook : Pool.Took tag ys ledger.allocator.pool pool') (hlen : ys.length = count.toNat) :
    Kept setup ⟨ledger.allocator.withPool pool', ⟨count, tag, ys⟩ :: ledger.live⟩ where
  seated := h.seated.withPool htook.size
  balanced := hbal
  region := h.region
  asked := by
    rw [List.forall_mem_cons]
    exact ⟨hlen, h.asked⟩
  own := by
    rw [List.forall_mem_cons]
    refine ⟨htook.own, ?_⟩
    intro holding hmem
    exact (h.own holding hmem).congr (h.row_eq htook hmem)
  tagged := by
    rw [List.forall_mem_cons]
    refine ⟨htook.tagged, ?_⟩
    intro holding hmem p hp
    exact (column_congr_row (h.row_eq htook hmem p hp)).trans (h.tagged holding hmem p hp)
  disjoint := by
    rw [List.pairwise_cons]
    refine ⟨?_, h.disjoint⟩
    -- the new pages were free, and what somebody has is in use
    intro holding hmem p hnew hold
    exact (htook.free p hnew).not_isUsed ((h.own holding hmem).used p hold)
  unreserved := by
    rw [List.forall_mem_cons]
    refine ⟨?_, h.unreserved⟩
    intro p hp
    exact ((h.isFree_iff p).mp (htook.free p hp)).1
  isFree_iff := by
    intro p
    refine (htook.isFree_iff p).trans ?_
    rw [h.isFree_iff, List.forall_mem_cons]
    tauto
  counted := by
    have hcount := htook.counted
    have hkept := h.counted
    rw [List.map_cons, List.sum_cons, ← Nat.add_assoc, Allocator.pool_withPool]
    exact (congrArg (· + _) hcount).trans hkept

section Release

variable {pre post : List Holding} {given : Holding}

/-- The other allocations have none of the pages of one of them. -/
theorem Kept.disjoint_other (h : Kept setup ledger) (hlive : ledger.live = pre ++ given :: post) :
    ∀ holding ∈ pre ++ post, holding.pages.Disjoint given.pages := by
  have hpair := h.disjoint
  rw [hlive, List.pairwise_append, List.pairwise_cons] at hpair
  obtain ⟨-, ⟨hpost, -⟩, hpre⟩ := hpair
  intro holding hmem
  rcases List.mem_append.mp hmem with hmem | hmem
  · exact hpre holding hmem given (by simp)
  · exact (hpost holding hmem).symm

/-- The one allocation that has the page is the one that is taken out. -/
theorem Kept.filter_eq (h : Kept setup ledger) (hlive : ledger.live = pre ++ given :: post)
    (hpage : page ∈ given.pages) :
    ledger.live.filter (fun holding => page ∉ holding.pages) = pre ++ post := by
  have hkeep : (pre ++ post).filter (fun holding => page ∉ holding.pages) = pre ++ post := by
    rw [List.filter_eq_self]
    intro holding hmem
    have hnot : page ∉ holding.pages := fun hp => h.disjoint_other hlive holding hmem hp hpage
    simpa using hnot
  have hdrop : ¬ (decide (page ∉ given.pages)) = true := by simpa using hpage
  rw [hlive, List.filter_append, List.filter_cons, if_neg hdrop, ← List.filter_append]
  exact hkeep

/-- **A release** takes out the one allocation that has the page. -/
theorem Kept.gaveBack (h : Kept setup ledger) (hlive : ledger.live = pre ++ given :: post)
    (hbal : ∃ xs, pool'.Balanced xs)
    (hback : Pool.GaveBack given.pages ledger.allocator.pool pool') :
    Kept setup ⟨ledger.allocator.withPool pool', pre ++ post⟩ := by
  have hsublist : (pre ++ post).Sublist ledger.live := by
    rw [hlive]
    exact List.Sublist.append_left (List.sublist_cons_self given post) pre
  have hsub : ∀ holding ∈ pre ++ post, holding ∈ ledger.live := fun _ hmem => hsublist.mem hmem
  have hgiven : given ∈ ledger.live := by simp [hlive]
  have hother := h.disjoint_other hlive
  have hrows : ∀ holding ∈ pre ++ post, ∀ p ∈ holding.pages,
      pool'.table[p.toNat]? = ledger.allocator.pool.table[p.toNat]? := by
    intro holding hmem p hp
    refine hback.used p ((h.own holding (hsub holding hmem)).used p hp) ?_
    intro hp'
    exact hother holding hmem hp hp'
  refine ⟨h.seated.withPool hback.size, hbal, h.region, ?_, ?_, ?_, h.disjoint.sublist hsublist,
    ?_, ?_, ?_⟩
  · intro holding hmem
    exact h.asked holding (hsub holding hmem)
  · intro holding hmem
    exact (h.own holding (hsub holding hmem)).congr (hrows holding hmem)
  · intro holding hmem p hp
    exact (column_congr_row (hrows holding hmem p hp)).trans
      (h.tagged holding (hsub holding hmem) p hp)
  · intro holding hmem
    exact h.unreserved holding (hsub holding hmem)
  · intro p
    refine (hback.isFree_iff p).trans ?_
    rw [h.isFree_iff]
    constructor
    · rintro (⟨hfree, hnone⟩ | hp)
      · exact ⟨hfree, fun holding hmem => hnone holding (hsub holding hmem)⟩
      · refine ⟨h.unreserved given hgiven p hp, ?_⟩
        intro holding hmem hp'
        exact hother holding hmem hp' hp
    · rintro ⟨hfree, hnone⟩
      by_cases hp : p ∈ given.pages
      · exact .inr hp
      · refine .inl ⟨hfree, ?_⟩
        intro holding hmem
        rw [hlive, List.mem_append, List.mem_cons] at hmem
        rcases hmem with hmem | rfl | hmem
        · exact hnone holding (List.mem_append_left post hmem)
        · exact hp
        · exact hnone holding (List.mem_append_right pre hmem)
  · have hcount := hback.counted
    have hkept := h.counted
    rw [hlive] at hkept
    simp only [List.map_append, List.map_cons, List.sum_append, List.sum_cons] at hkept ⊢
    rw [Allocator.pool_withPool]
    omega

end Release

/-! ## 3. Steps and runs -/

/-- A request for pages keeps the agreement. -/
theorem Kept.step_asked (h : Kept setup ledger)
    (hroom : ledger.allocator.pool.allocations.toNat + 1 < 2 ^ 64)
    (hasked : request.asked = some (count, options)) :
    Kept setup (ledger.step request) ∧ (ledger.step request).allocator.pool.allocations.toNat ≤
      ledger.allocator.pool.allocations.toNat + 1 := by
  obtain ⟨xs, hbal⟩ := h.balanced
  obtain ⟨r, pool', hout, hstep⟩ := exists_step_asked h.seated hbal hasked
  obtain ⟨-, -, hbal'⟩ := hbal.allocates hout
  have hcount := hout.allocations_le
  rcases hstep with ⟨first, ys, rfl, hlen, htook, hstep⟩ | ⟨hnot, hstep⟩
  · rw [hstep]
    exact ⟨h.took hbal' htook hlen, hcount⟩
  · rw [hstep]
    exact ⟨h.took_nil hbal' (hbal.took_nil hroom hout hnot), hcount⟩

/-- The release of a page that somebody has keeps the agreement. -/
theorem Kept.step_free (h : Kept setup ledger) (hallows : ledger.Allows (.free page)) :
    Kept setup (ledger.step (.free page)) ∧
      (ledger.step (.free page)).allocator.pool.allocations.toNat ≤
        ledger.allocator.pool.allocations.toNat + 1 := by
  obtain ⟨xs, hbal⟩ := h.balanced
  obtain ⟨given, hgiven, hpage, ys, pool', hperm, hused, hback, hstep⟩ :=
    exists_step_free h.seated hbal h.own hallows
  have hgave := (hbal.gaveBack hused hback).perm hperm
  obtain ⟨pre, post, hlive⟩ := List.append_of_mem hgiven
  rw [hstep, h.filter_eq hlive hpage]
  refine ⟨h.gaveBack hlive ⟨_, hbal.givenBack hused hback⟩ hgave, ?_⟩
  show pool'.allocations.toNat ≤ _
  rw [hback.allocations]
  omega

/-- **Every request that is allowed keeps the agreement,** and counts at most one more granted
request. -/
theorem Kept.step (h : Kept setup ledger)
    (hroom : ledger.allocator.pool.allocations.toNat + 1 < 2 ^ 64)
    (hallows : ledger.Allows request) :
    Kept setup (ledger.step request) ∧ (ledger.step request).allocator.pool.allocations.toNat ≤
      ledger.allocator.pool.allocations.toNat + 1 := by
  cases request with
  | attempt count options => exact h.step_asked hroom rfl
  | demand count options => exact h.step_asked hroom rfl
  | reserve size => exact h.step_asked hroom rfl
  | free page => exact h.step_free hallows

/-- **A run in which each request is allowed keeps the agreement,** as long as it is too short to
bring the count of requests to its end. -/
theorem Kept.run {requests : List Request} (h : Kept setup ledger)
    (hroom : ledger.allocator.pool.allocations.toNat + requests.length < 2 ^ 64)
    (hallows : ledger.AllowsAll requests) : Kept setup (ledger.run requests) := by
  induction requests generalizing ledger with
  | nil => exact h
  | cons request requests ih =>
    rw [List.length_cons] at hroom
    obtain ⟨hkept, hcount⟩ := h.step (by omega) hallows.1
    exact ih hkept (by omega) hallows.2

/-! ## 4. What this comes to -/

/-- What the allocator tells about its pages is what the ledger says, where `setup` is the
allocator as it was set up. -/
structure Accounted (setup : Allocator) (ledger : Ledger) : Prop where
  /-- Everybody has as many pages as were asked for. -/
  asked : ∀ holding ∈ ledger.live, holding.pages.length = holding.asked.toNat
  nodup : ∀ holding ∈ ledger.live, holding.pages.Nodup
  /-- Nobody's pages are those of somebody else. -/
  disjoint : ledger.live.Pairwise fun a b => a.pages.Disjoint b.pages
  /-- Nobody has a page that was in use after the setup. -/
  unreserved : ∀ holding ∈ ledger.live, ∀ p ∈ holding.pages, ¬ setup.pool.table.IsUsed p
  /-- What nobody has is free. -/
  isFree_iff : ∀ p, ledger.allocator.pool.table.IsFree p ↔
    p.toNat < setup.pool.table.size ∧ ¬ setup.pool.table.IsUsed p ∧
      ∀ holding ∈ ledger.live, p ∉ holding.pages
  /-- The page after each page is the next one in the order of the allocation. -/
  next : ∀ holding ∈ ledger.live, ∀ (i : Nat) (p : Page), holding.pages[i]? = some p →
    ledger.allocator.compoundNext? p = holding.pages[(i + 1) % holding.pages.length]?
  compoundLength : ∀ holding ∈ ledger.live, ∀ p ∈ holding.pages,
    ledger.allocator.compoundLength p = .ok holding.pages.length
  tag : ∀ holding ∈ ledger.live, ∀ p ∈ holding.pages, ledger.allocator.tag? p = some holding.tag
  /-- What somebody has can be given back, from any of its pages. -/
  released : ∀ holding ∈ ledger.live, ∀ p ∈ holding.pages, ∃ after,
    (Allocator.free p).Yields ledger.allocator (.ok ()) after
  /-- The pages that are free, owned, and in use after the setup are all there are. -/
  counted : ledger.allocator.pool.freePages.toNat + setup.pool.table.usedCount +
    (ledger.live.map (·.pages.length)).sum = ledger.allocator.totalPages.toNat
  /-- When everything has been given back, everything is free that was free after the setup. -/
  restored : ledger.live = [] → ledger.allocator.pool.freePages = setup.pool.freePages ∧
    ∀ p, ledger.allocator.pool.table.IsFree p ↔ setup.pool.table.IsFree p

/-- **An allocator that agrees with the ledger tells what the ledger says.** A page is free when it
was free after the setup and no live holding has it. Each holding is a ring of its own, so its
chain, its length and its release are those of the list in the ledger. -/
theorem Kept.accounted {xs : List Page} (h : Kept setup ledger) (hsetup : setup.Seated)
    (hbal : setup.pool.Balanced xs) : Accounted setup ledger where
  asked := h.asked
  nodup holding hmem := (h.own holding hmem).nodup
  disjoint := h.disjoint
  unreserved holding hmem p hp := (h.unreserved holding hmem p hp).not_isUsed
  isFree_iff := by
    intro p
    refine (h.isFree_iff p).trans ?_
    constructor
    · rintro ⟨hfree, hnone⟩
      exact ⟨hfree.lt_size, hfree.not_isUsed, hnone⟩
    · rintro ⟨hlt, hnot, hnone⟩
      exact ⟨(isFree_or_isUsed hlt).resolve_right hnot, hnone⟩
  next holding hmem _ _ hi := Allocator.compoundNext?_of_allocation (h.own holding hmem) hi
  compoundLength holding hmem p hp :=
    Allocator.compoundLength_of_allocation (h.own holding hmem) hp
  tag := h.tagged
  released := by
    intro holding hmem p hp
    obtain ⟨xs, hbal⟩ := h.balanced
    obtain ⟨before, behind, hpages⟩ := List.append_of_mem hp
    have hown := h.own holding hmem
    rw [hpages] at hown
    obtain ⟨pool', hyields, -⟩ := h.seated.exists_free hbal hown.rotate
    exact ⟨_, hyields⟩
  counted := by
    have hkept := h.counted
    have hall := setup.pool.table.freeCount_add_usedCount
    have hfree := hbal.counted_freeCount
    have htotal : ledger.allocator.totalPages.toNat = setup.pool.table.size := by
      rw [Allocator.totalPages, h.region]
      exact hsetup.totalPages
    omega
  restored := by
    intro hnone
    constructor
    · rw [← UInt64.toNat_inj]
      simpa [hnone] using h.counted
    · intro p
      simpa [hnone] using h.isFree_iff p

/-- **Accounting over whole runs.**  From its setup on, an allocator keeps every allocation apart
from all others until it is given back, and loses no page.  A request takes pages that are free, and
so are nobody's; a release gives back a whole ring, and so one allocation and nothing of any
other. -/
theorem accounted_run (hsetup : setup.SetUp) {requests : List Request}
    (hlength : requests.length < 2 ^ 64)
    (hallows : ({ allocator := setup } : Ledger).AllowsAll requests) :
    (({ allocator := setup } : Ledger).run requests).Accounted setup := by
  obtain ⟨hseated, hallocations, hwell⟩ := hsetup.wellKept
  have hbal := hwell.toBalanced
  have hkept : Kept setup { allocator := setup } :=
    ⟨hseated, ⟨_, hbal⟩, rfl, by simp, by simp, by simp, .nil, by simp, by simp, by simp⟩
  refine (hkept.run ?_ hallows).accounted hseated hbal
  show setup.pool.allocations.toNat + requests.length < 2 ^ 64
  rw [hallocations, UInt64.toNat_zero]
  omega

open Allocator in
/-- Three pages, of which two are owned and then given back from the second of them. -/
theorem accounted_run_threePages :
    threePages.SetUp ∧
      ({ allocator := threePages } : Ledger).AllowsAll [.attempt 2 {}, .attempt 1 {}, .free 2] ∧
      (({ allocator := threePages } : Ledger).run
        [.attempt 2 {}, .attempt 1 {}, .free 2]).Accounted threePages := by
  have hallows : ({ allocator := threePages } : Ledger).AllowsAll
      [.attempt 2 {}, .attempt 1 {}, .free 2] := by decide +kernel
  exact ⟨setUp_threePages, hallows, accounted_run setUp_threePages (by decide) hallows⟩

end Ledger

end PageFrames
