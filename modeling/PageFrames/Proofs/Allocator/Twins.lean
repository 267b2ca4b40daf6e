/-
# One run under two configurations

Whether releases are checked, and from how many pages on the log is told of them, is chosen for an
allocator as a whole, and shows in nothing else.  Two allocators that came out of the same setup
with different choices (`Allocator.Alike`) answer every request in the same way, and are left with
the same pool, until a request ends with a fault, which it then does in both (`Allocator.Agree`).

The fault itself and what is left behind may differ, because a release that is not checked only
fails once it has passed a page.  But it does fail, and does not go round for ever: the page is on
no ring, and the links of such a page lead to no page with a row (`Pool.Sealed`).
-/
import PageFrames.Proofs.Pool.Sealed
import PageFrames.Proofs.Setup

namespace PageFrames

namespace Allocator

/-! ## 1. One setup -/

section Setup

variable {σ : Type}

/-- The allocator under another configuration. -/
def withConfig (config : Config) (allocator : Allocator) : Allocator := { allocator with config }

theorem start_eq_map (region : Region) (kind : SpaceKind) (config config' : Config)
    (metadata : Region) (table : Table) :
    (start region kind config' metadata table : Action σ Allocator) =
      withConfig config' <$> start region kind config metadata table := by
  simp only [start, map_bind]
  refine bind_congr fun built => bind_congr fun listed => ?_
  split
  · rfl
  · simp only [map_bind, map_pure]
    rfl

theorem install_eq_map (region : Region) (kind : SpaceKind) (config config' : Config) (size : Word)
    (granted : Option Region) (usage : List (Action σ Mark)) (memory : MemoryAccess σ) :
    install region kind config' size granted usage memory =
      Except.map (Prod.map (withConfig config') id) <$>
        install region kind config size granted usage memory := by
  rw [install, install]
  split
  · rfl
  · split
    · rfl
    · simp only [map_bind, map_pure, start_eq_map region kind config config', bind_map_left]
      rfl

/-- **A setup does the same under every configuration,** which is only put into its answer. -/
theorem setup_eq_map (region : Region) (kind : SpaceKind) (config config' : Config)
    (source : Word → Action σ (Option Region)) (usage : List (Action σ Mark))
    (memory : MemoryAccess σ) :
    setup region kind config' source usage memory =
      Except.map (Prod.map (withConfig config') id) <$>
        setup region kind config source usage memory := by
  rw [setup, setup, map_bind]
  refine bind_congr fun admitted => ?_
  split
  · rfl
  · rw [map_bind]
    exact bind_congr fun granted => install_eq_map _ _ _ _ _ _ _ _

variable {region : Region} {kind : SpaceKind} {config config' : Config}
  {source : Word → Action σ (Option Region)} {usage : List (Action σ Mark)}
  {memory : MemoryAccess σ} {s : σ} {counts counts' : List Word} {first second : Allocator}

/-- Two setups that differ in the configuration come to allocators that differ in it. -/
theorem eq_withConfig_of_setup
    (h : ((setup region kind config source usage memory).run s).result = .ok (.ok (first, counts)))
    (h' : ((setup region kind config' source usage memory).run s).result =
      .ok (.ok (second, counts'))) : second = first.withConfig config' := by
  rw [setup_eq_map region kind config config', Action.run_map, h] at h'
  simp only [Except.map, Except.ok.injEq, Prod.map, Prod.mk.injEq] at h'
  exact h'.1.symm

end Setup

/-! ## 2. Two allocators -/

/-- The allocators manage the same pages, in the same state.  They may differ in whether they check
releases, and in what they tell the log. -/
structure Alike (a b : Allocator) : Prop where
  region : b.region = a.region
  kind : b.kind = a.kind
  compaction : b.config.compaction = a.config.compaction
  pool : b.pool = a.pool

/-- Started in the one allocator and in the other, the action fails in both of them, or it answers
the same in both and leaves them with the same pool, of which `Q` tells more.  To fail is to come to
an end with a fault, and not to go round for ever. -/
inductive Agree {α : Type} (a b : Allocator) (m : Action Allocator α) (Q : α → Pool → Prop) : Prop
  | answered {answer : α} {pool' : Pool} :
      m.Yields a (.ok answer) (a.withPool pool') → m.Yields b (.ok answer) (b.withPool pool') →
      Q answer pool' → Agree a b m Q
  | failed {fault fault' : Fault} {a' b' : Allocator} :
      fault ≠ .endlessWalk → fault' ≠ .endlessWalk →
      m.Yields a (.error fault) a' → m.Yields b (.error fault') b' → Agree a b m Q

section Agree

variable {α β : Type} {a b : Allocator} {m : Action Allocator α} {P : α → Pool → Prop}
  {Q : β → Pool → Prop} {pool' : Pool}

theorem Alike.withPool (h : Alike a b) (pool : Pool) :
    Alike (a.withPool pool) (b.withPool pool) := ⟨h.region, h.kind, h.compaction, rfl⟩

theorem Alike.withPool_self (h : Alike a b) : b.withPool a.pool = b := by
  rw [← h.pool]
  rfl

theorem Alike.seated (h : Alike a b) (ha : a.Seated) : b.Seated := by
  refine ⟨?_, ?_⟩
  · rw [h.region, h.pool]
    exact ha.sized
  · rw [h.region]
    exact ha.fits

/-- Agreement goes on after an answer. -/
theorem Agree.bind {f : α → Action Allocator β} (hm : Agree a b m P)
    (hf : ∀ answer pool', P answer pool' →
      Agree (a.withPool pool') (b.withPool pool') (f answer) Q) : Agree a b (m >>= f) Q := by
  cases hm with
  | failed hends hends' ha hb => exact .failed hends hends' ha.bind_error hb.bind_error
  | answered ha hb hP =>
    cases hf _ _ hP with
    | failed hends hends' ha' hb' => exact .failed hends hends' (ha.bind ha') (hb.bind hb')
    | answered ha' hb' hQ => exact .answered (ha.bind ha') (hb.bind hb') hQ

/-- Two allocators that are left as they were agree. -/
theorem Alike.agree_of_yields (h : Alike a b) {answer : α} (ha : m.Yields a (.ok answer) a)
    (hb : m.Yields b (.ok answer) b) (hP : P answer a.pool) : Agree a b m P :=
  have hself : m.Yields a (.ok answer) (a.withPool a.pool) := ha
  .answered hself (h.withPool_self.symm ▸ hb) hP

theorem Alike.agree_pure (h : Alike a b) {answer : β} (hQ : Q answer a.pool) :
    Agree a b (pure answer) Q :=
  h.agree_of_yields (Action.yields_pure _ _) (Action.yields_pure _ _) hQ

theorem agree_fault {fault : Fault} (hends : fault ≠ .endlessWalk) :
    Agree a b (.fault fault) Q :=
  .failed hends hends (Action.yields_fault _ _) (Action.yields_fault _ _)

/-- What is the same in both allocators can be looked up without a difference. -/
theorem Agree.look_bind {g : Allocator → Except Fault α} {f : α → Action Allocator β}
    (hg : g b = g a) (hends : g a ≠ .error .endlessWalk)
    (hf : ∀ answer, Agree a b (f answer) Q) : Agree a b (.look g >>= f) Q := by
  cases hlook : g a with
  | error fault =>
    have hfault : fault ≠ .endlessWalk := fun he => hends (he ▸ hlook)
    exact .failed hfault hfault (.bind_error (Action.yields_look hlook))
      (.bind_error (Action.yields_look (hg.trans hlook)))
  | ok answer =>
    have ha := Action.yields_look hlook
    have hb := Action.yields_look (hg.trans hlook)
    cases hf answer with
    | failed hends hends' ha' hb' => exact .failed hends hends' (ha.bind ha') (hb.bind hb')
    | answered ha' hb' hQ => exact .answered (ha.bind ha') (hb.bind hb') hQ

theorem Agree.peek_bind {g : Allocator → α} {f : α → Action Allocator β} (hg : g b = g a)
    (hf : Agree a b (f (g a)) Q) : Agree a b (.peek g >>= f) Q := by
  have hb := Action.yields_peek g b
  rw [hg] at hb
  cases hf with
  | failed hends hends' ha' hb' =>
    exact .failed hends hends' (.bind (Action.yields_peek _ _) ha') (.bind hb hb')
  | answered ha' hb' hQ =>
    exact .answered (.bind (Action.yields_peek _ _) ha') (.bind hb hb') hQ

theorem Agree.liftM_bind {r : Except Fault α} {f : α → Action Allocator β}
    (hends : r ≠ .error .endlessWalk) (hf : ∀ answer, Agree a b (f answer) Q) :
    Agree a b (liftM r >>= f) Q :=
  Agree.look_bind (g := fun _ => r) rfl hends hf

/-- What is told to the log is no difference. -/
theorem Alike.agree_trace (h : Alike a b) (ha : a.Seated) {page : Page}
    (hp : page.toNat < a.pool.table.size) {Q : Unit → Pool → Prop} (hQ : Q () a.pool)
    (count : Word) (what : Addr → String) : Agree a b (trace count page what) Q :=
  h.agree_of_yields (ha.yields_trace hp count what)
    ((h.seated ha).yields_trace (h.pool.symm ▸ hp) count what) hQ

end Agree

/-! ## 3. Requests and releases -/

/-- The region fits the table, and the pool is sealed. -/
structure Sound (fixed : Page → Prop) (allocator : Allocator) : Prop where
  seated : allocator.Seated
  sealed : ∃ xs, allocator.pool.Sealed allocator.region.start fixed xs

/-- The only fault of a text or of an address is a sum or a product that does not fit. -/
theorem text_ne_endlessWalk (region : Region) : region.text ≠ .error .endlessWalk := by
  unfold Region.text
  split
  · exact nofun
  · exact bind_ne_error (Word.addExact_ne_endlessWalk _ _) fun _ => nofun

theorem ofPages_ne_endlessWalk (start : Addr) (count : Word) :
    Region.ofPages start count ≠ .error .endlessWalk :=
  bind_ne_error (Word.mulExact_ne_endlessWalk _ _) fun _ => nofun

theorem addressOf_ne_endlessWalk (allocator : Allocator) (page : Page) :
    allocator.addressOf page ≠ .error .endlessWalk :=
  bind_ne_error (Word.mulExact_ne_endlessWalk _ _) fun _ => Word.addExact_ne_endlessWalk _ _

section Requests

variable {a b : Allocator} {fixed : Page → Prop} {page : Page}

/-- What is asked of the pool is answered in the same way, by a page of the table if it is
granted. -/
theorem Alike.agree_allocate (h : Alike a b) (ha : a.Sound fixed) (count : Word)
    (options : Options) :
    Agree a b (onPool (Pool.allocate count (a.needsRun options) (a.mayCompact options) options.tag))
      fun answer pool' => (a.withPool pool').Sound fixed ∧
        ∀ page, answer = .ok page → page.toNat < pool'.table.size := by
  obtain ⟨xs, hsealed⟩ := ha.sealed
  obtain ⟨r, pool', hyields, hout⟩ := hsealed.toBalanced.exists_allocates count
    (a.needsRun options) (a.mayCompact options) options.tag
  have hb := h.pool.symm ▸ hyields
  cases r with
  | error fault =>
    have hends : fault ≠ .endlessWalk := by
      rintro rfl
      cases hout
    exact .failed hends hends (yields_onPool hyields) (yields_onPool hb)
  | ok answer =>
    obtain ⟨hsize, -⟩ := hsealed.toWellKept.allocates hout
    refine .answered (yields_onPool hyields) (yields_onPool hb)
      ⟨⟨ha.seated.withPool hsize, hsealed.allocates hout⟩, ?_⟩
    rintro first rfl
    obtain ⟨ys, -, htook, -⟩ := hsealed.took_of_granted hout
    exact (htook.own.used first (by simp)).lt_size

/-- **A request for pages** is granted or refused in the same way. -/
theorem Alike.agree_request (h : Alike a b) (ha : a.Sound fixed) (count : Word)
    (options : Options) :
    Agree a b (request count options) fun _ pool' => (a.withPool pool').Sound fixed := by
  refine .peek_bind (by rw [h.kind]) (.peek_bind (by rw [h.compaction]) ?_)
  refine (h.agree_allocate ha count options).bind ?_
  rintro answer pool' ⟨hsound, hlt⟩
  have h' := h.withPool pool'
  cases answer with
  | error reason => exact h'.agree_pure hsound
  | ok first =>
    refine (h'.agree_trace hsound.seated (hlt first rfl) (Q := fun _ pool => pool = pool') rfl
      _ _).bind ?_
    rintro _ _ rfl
    exact h'.agree_pure hsound

/-- **A page on no ring is not given back,** whether releases are checked or not. -/
theorem Sound.exists_free_error (h : a.Sound fixed)
    (hnot : ¬ ∃ ys, a.pool.table.Allocation (page :: ys)) :
    ∃ fault a', fault ≠ .endlessWalk ∧ (free page).Yields a (.error fault) a' := by
  obtain ⟨xs, hsealed⟩ := h.sealed
  obtain ⟨fault, pool', hends, hyields⟩ :=
    hsealed.exists_release_error hnot a.config.checkedFree
  exact ⟨fault, _, hends, yields_free_error hyields⟩

theorem Alike.sound (h : Alike a b) (ha : a.Sound fixed) : b.Sound fixed := by
  obtain ⟨xs, hsealed⟩ := ha.sealed
  refine ⟨h.seated ha.seated, xs, ?_⟩
  rw [h.pool, h.region]
  exact hsealed

/-- **A release** gives back the same pages, or fails.  On the ring of an allocation the check finds
nothing wrong; off any ring the release fails without it as well. -/
theorem Alike.agree_free (h : Alike a b) (ha : a.Sound fixed) (page : Page) :
    Agree a b (free page) fun _ pool' => (a.withPool pool').Sound fixed := by
  have hb := h.sound ha
  obtain ⟨xs, hsealed⟩ := ha.sealed
  by_cases hown : ∃ ys, a.pool.table.Allocation (page :: ys)
  · obtain ⟨ys, hring⟩ := hown
    obtain ⟨count, pool', hyields, -, hback⟩ := hsealed.toBalanced.exists_release hring
    have hpage := (hring.used page (by simp)).lt_size
    have hsize := hback.rows.size
    refine .answered (ha.seated.yields_free hpage hsize (hyields _)) ?_
      ⟨ha.seated.withPool hsize, _, hsealed.givenBack hring hback⟩
    exact hb.seated.yields_free (h.pool.symm ▸ hpage) (h.pool.symm ▸ hsize)
      (h.pool.symm ▸ hyields _)
  · obtain ⟨fault, a', hends, hfault⟩ := ha.exists_free_error hown
    obtain ⟨fault', b', hends', hfault'⟩ := hb.exists_free_error (h.pool.symm ▸ hown)
    exact .failed hends hends' hfault hfault'

/-- **A request that takes a refusal for a fault** agrees as well. -/
theorem Alike.agree_demand (h : Alike a b) (ha : a.Sound fixed) (count : Word)
    (options : Options) :
    Agree a b (demand count options) fun _ pool' => (a.withPool pool').Sound fixed := by
  refine (h.agree_request ha count options).bind fun answer pool' hsound => ?_
  have h' := h.withPool pool'
  cases answer with
  | ok page => exact h'.agree_pure hsound
  | error reason =>
    exact .peek_bind h'.kind
      (.look_bind (by rw [h'.region]) (text_ne_endlessWalk _) fun _ => agree_fault nofun)

/-- **A request for a region** agrees as well. -/
theorem Alike.agree_reserve (h : Alike a b) (ha : a.Sound fixed) (size : Word) :
    Agree a b (reserve size) fun _ pool' => (a.withPool pool').Sound fixed := by
  refine (h.agree_request ha _ _).bind fun answer pool' hsound => ?_
  have h' := h.withPool pool'
  cases answer with
  | error reason => exact h'.agree_pure hsound
  | ok page =>
    refine .look_bind (by rw [addressOf, addressOf, h'.region]) (addressOf_ne_endlessWalk _ _)
      fun address => ?_
    exact .liftM_bind (ofPages_ne_endlessWalk _ _) fun region => h'.agree_pure hsound

end Requests

end Allocator

/-! ## 4. Runs -/

/-- What a request is answered with. -/
inductive Reply where
  /-- The first of the pages granted, or the reason why there are none. -/
  | pages (answer : Except Refusal Page)
  | region (granted : Option Region)
  | freed

/-- Makes the request, and answers with all that it is answered with. -/
def Request.reply : Request → Action Allocator Reply
  | attempt count options => return .pages (← Allocator.request count options)
  | demand count options => return .pages (.ok (← Allocator.demand count options))
  | reserve size => return .region (← Allocator.reserve size)
  | free page => do
    Allocator.free page
    return .freed

/-- A request that was made: what it ended with, and the allocator before and after it. -/
structure Entry where
  before : Allocator
  request : Request
  result : Except Fault Reply
  after : Allocator

namespace Allocator

/-- The requests are made one after the other, until one ends with a fault. -/
def history (allocator : Allocator) : List Request → List Entry
  | [] => []
  | request :: requests =>
    match request.reply.run allocator with
    | ⟨.ok reply, after, _⟩ => ⟨allocator, request, .ok reply, after⟩ :: after.history requests
    | ⟨.error fault, after, _⟩ => [⟨allocator, request, .error fault, after⟩]

end Allocator

/-- The entries are of the same request, which failed in both or had the same answer and left the
same pool. -/
structure Entry.Agrees (entry entry' : Entry) : Prop where
  request : entry'.request = entry.request
  before : entry'.before.pool = entry.before.pool
  /-- The request came to an end in both. -/
  ends : entry.result ≠ .error .endlessWalk ∧ entry'.result ≠ .error .endlessWalk
  fails_iff : (∃ fault, entry.result = .error fault) ↔ ∃ fault, entry'.result = .error fault
  answers : ∀ reply, entry.result = .ok reply →
    entry'.result = .ok reply ∧ entry'.after.pool = entry.after.pool

/-- A release fails if its page is free, or not there, or one of the pages `fixed`.  It comes to an
end with a fault, that is, and does not go round for ever. -/
def Entry.Rejects (fixed : Page → Prop) (entry : Entry) : Prop :=
  ∀ page, entry.request = .free page →
    (entry.before.pool.table.IsFree page ∨ fixed page ∨
      entry.before.pool.table.size ≤ page.toNat) →
    ∃ fault, fault ≠ .endlessWalk ∧ entry.result = .error fault

namespace Allocator

open Table

variable {a b allocator : Allocator} {fixed : Page → Prop}

theorem Alike.agree_reply (h : Alike a b) (ha : a.Sound fixed) (request : Request) :
    Agree a b request.reply fun _ pool' => (a.withPool pool').Sound fixed := by
  cases request with
  | attempt count options =>
    exact (h.agree_request ha count options).bind fun _ pool' hsound =>
      (h.withPool pool').agree_pure hsound
  | demand count options =>
    exact (h.agree_demand ha count options).bind fun _ pool' hsound =>
      (h.withPool pool').agree_pure hsound
  | reserve size =>
    exact (h.agree_reserve ha size).bind fun _ pool' hsound =>
      (h.withPool pool').agree_pure hsound
  | free page =>
    exact (h.agree_free ha page).bind fun _ pool' hsound =>
      (h.withPool pool').agree_pure hsound

section History

variable {request : Request} {requests : List Request} {after : Allocator}

theorem history_cons_of_ok {reply : Reply} (h : request.reply.Yields a (.ok reply) after) :
    a.history (request :: requests) = ⟨a, request, .ok reply, after⟩ :: after.history requests := by
  obtain ⟨hresult, rfl⟩ := h
  rw [history, ← hresult]
  split <;> simp_all

theorem history_cons_of_error {fault : Fault} (h : request.reply.Yields a (.error fault) after) :
    a.history (request :: requests) = [⟨a, request, .error fault, after⟩] := by
  obtain ⟨hresult, rfl⟩ := h
  rw [history, ← hresult]
  split <;> simp_all

/-- **Two runs of the same requests agree** at each of them, up to one that fails in both.  The two
allocators are alike at the start, and after every request that is answered they are alike again. -/
theorem Alike.history (h : Alike a b) (ha : a.Sound fixed) (requests : List Request) :
    List.Forall₂ Entry.Agrees (a.history requests) (b.history requests) := by
  induction requests generalizing a b with
  | nil => exact .nil
  | cons request requests ih =>
    cases h.agree_reply ha request with
    | answered ha' hb' hsound =>
      rw [history_cons_of_ok ha', history_cons_of_ok hb']
      refine .cons ⟨rfl, h.pool, ⟨nofun, nofun⟩, by simp, fun reply hr => ⟨hr, rfl⟩⟩
        (ih (h.withPool _) hsound)
    | failed hends hends' ha' hb' =>
      rw [history_cons_of_error ha', history_cons_of_error hb']
      exact .cons ⟨rfl, h.pool, ⟨by simpa using hends, by simpa using hends'⟩, by simp, nofun⟩ .nil

/-- **No page on no ring is ever given back** in a run. -/
theorem Sound.rejects (h : a.Sound fixed) (requests : List Request) :
    ∀ entry ∈ a.history requests, entry.Rejects fixed := by
  induction requests generalizing a with
  | nil => exact fun _ hmem => absurd hmem List.not_mem_nil
  | cons request requests ih =>
    have hrejects : ∀ (result : Except Fault Reply) (after : Allocator),
        request.reply.Yields a result after →
        Entry.Rejects fixed ⟨a, request, result, after⟩ := by
      rintro result after hyields page rfl hpage
      obtain ⟨xs, hsealed⟩ := h.sealed
      obtain ⟨fault, a', hends, hfault⟩ :=
        h.exists_free_error (hsealed.not_exists_allocation hpage)
      obtain ⟨rfl, -⟩ := hyields.unique hfault.bind_error
      exact ⟨fault, hends, rfl⟩
    have hself : Alike a a := ⟨rfl, rfl, rfl, rfl⟩
    cases hself.agree_reply h request with
    | answered ha' _ hsound =>
      rw [history_cons_of_ok ha']
      rintro entry hmem
      rcases List.mem_cons.mp hmem with rfl | hmem
      · exact hrejects _ _ ha'
      · exact ih hsound entry hmem
    | failed _ _ ha' =>
      rw [history_cons_of_error ha']
      rintro entry hmem
      obtain rfl := List.mem_singleton.mp hmem
      exact hrejects _ _ ha'

end History

/-- At the start, the pages in use are those that were marked, and they are on no ring. -/
theorem SetUp.sound (h : allocator.SetUp) : allocator.Sound allocator.pool.table.IsUsed := by
  obtain ⟨table, hstarted⟩ := h.exists_started
  have hnil : ∀ p, allocator.pool.table.IsUsed p →
      allocator.pool.table.column Descriptor.compound p = some .nil := by
    intro p hp
    obtain ⟨row, hrow, -⟩ := column_eq_some_iff.mp hp
    obtain ⟨-, hcompound, -⟩ := hstarted.row_bare hrow
    exact column_eq_some_iff.mpr ⟨row, hrow, hcompound⟩
  exact ⟨seated_of_started hstarted, _, hstarted.wellKept, fun p hp => .inr (hnil p hp),
    fun p hp => ⟨hp, hnil p hp⟩⟩

/-- **Checks and log do not show in a run.**  Two allocators come out of the same setup under
configurations that differ in these only, and the same requests are made of both.  Until one fails,
they have the same answers and leave the same pools; if one fails, it fails in both; and in neither
of them is a page given back that is free, not there, or in use since the setup.  No request goes
round for ever, whether releases are checked or not. -/
theorem history_agrees_of_setup {σ : Type} {region : Region} {kind : SpaceKind}
    {config config' : Config} {source : Word → Action σ (Option Region)}
    {usage : List (Action σ Mark)} {memory : MemoryAccess σ} {s : σ} {counts counts' : List Word}
    {first second : Allocator} (hcompaction : config'.compaction = config.compaction)
    (h : ((setup region kind config source usage memory).run s).result = .ok (.ok (first, counts)))
    (h' : ((setup region kind config' source usage memory).run s).result =
      .ok (.ok (second, counts'))) (requests : List Request) :
    List.Forall₂ Entry.Agrees (first.history requests) (second.history requests) ∧
      ∀ entry ∈ first.history requests ++ second.history requests,
        entry.Rejects first.pool.table.IsUsed := by
  have hsound := SetUp.sound ⟨σ, region, kind, config, source, usage, memory, s, counts, h⟩
  have hfirst := eq_withConfig_of_setup h h
  have halike : Alike first second := by
    obtain rfl := eq_withConfig_of_setup h h'
    exact ⟨rfl, rfl, hcompaction.trans (congrArg (·.config.compaction) hfirst).symm, rfl⟩
  refine ⟨halike.history hsound requests, fun entry hmem => ?_⟩
  rcases List.mem_append.mp hmem with hmem | hmem
  · exact hsound.rejects requests entry hmem
  · exact (halike.sound hsound).rejects requests entry hmem

/-- The setup that `threePages` comes out of, under a configuration. -/
def setupThreePages (config : Config) : Action Unit (Except SetupError (Allocator × List Word)) :=
  setup ⟨0x1000, 0x3000⟩ .physical config (fun _ => pure (some ⟨0x1000, 0x1000⟩))
    [pure (.used ⟨0x1000, 0x1000⟩)] DirectMap.identity.access

/-- Three pages under the usual configuration, and under one without checks that tells the log of
everything.  Two pages are taken and given back, and then one is to be given back that is free. -/
theorem history_agrees_threePages :
    ((setupThreePages {}).run ()).result = .ok (.ok (threePages, [1])) ∧
      ((setupThreePages ⟨1, false, true⟩).run ()).result =
        .ok (.ok (threePages.withConfig ⟨1, false, true⟩, [1])) ∧
      List.Forall₂ Entry.Agrees (threePages.history [.attempt 2 {}, .free 2, .free 1, .free 0])
        ((threePages.withConfig ⟨1, false, true⟩).history
          [.attempt 2 {}, .free 2, .free 1, .free 0]) := by
  have h : ((setupThreePages {}).run ()).result = .ok (.ok (threePages, [1])) := by decide +kernel
  have h' : ((setupThreePages ⟨1, false, true⟩).run ()).result =
      .ok (.ok (threePages.withConfig ⟨1, false, true⟩, [1])) := by decide +kernel
  have hcompaction : Config.compaction ⟨1, false, true⟩ = Config.compaction {} := rfl
  exact ⟨h, h', (history_agrees_of_setup hcompaction h h' _).1⟩

-- without the check, the page is passed, and then there is no row to go on to
example : ((free 0).run (threePages.withConfig ⟨1, false, true⟩)).result =
    .error (.indexOutOfBounds 3 0xffffffff) := by decide +kernel

end Allocator

end PageFrames
