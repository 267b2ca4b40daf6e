/-
# Pages that are kept from everybody

The pages that physical memory must never hand out are of two kinds.  Those that were in use from
the setup on belong to no allocation, so no release ever reaches them; those that hold the table of
an address space are an allocation of their own, which nobody else can give back without naming one
of its pages.  Both stay in use whatever is done on the machine (`Machine.Guarded`), as long as
the pages of a table are not freed by name.

What a step on the machine asks of the physical allocator is a request to it (`Step.request?`), so
there is one argument for all the forms in which pages can be asked for and given back.
-/
import PageFrames.Machine
import PageFrames.Proofs.Runs
import PageFrames.Proofs.Spaces
import PageFrames.Proofs.Allocator.Lookups

namespace PageFrames

open Table

/-! ## 1. The pages of a region -/

/-- The page is found at an address of the region. -/
def PhysicalMemory.Touches (memory : PhysicalMemory) (region : Region) (page : Page) : Prop :=
  ∃ a, region.contains a = true ∧ memory.pageOf? a = some page

section Touches

variable {allocator : Allocator} {page : Page} {region metadata : Region} {pool' : Pool}
  {ys : List Page}

/-- A page is found at the addresses that lie on it. -/
theorem Allocator.Seated.pageOf_eq_some_iff (h : allocator.Seated)
    (hsmall : allocator.pool.table.size ≤ 2 ^ 32) {a : Addr} :
    allocator.pageOf? a = some page ↔ page.toNat < allocator.pool.table.size ∧
      a.toNat / 4096 = allocator.region.start.toNat / 4096 + page.toNat := by
  have htotal := h.totalPages
  rw [Allocator.pageOf_eq_some_iff (by omega), htotal]

/-- Which pages a region touches depends on nothing that changes. -/
theorem PhysicalMemory.touches_congr {memory memory' : PhysicalMemory}
    (hregion : memory'.allocator.region = memory.allocator.region) (region : Region) (page : Page) :
    memory'.Touches region page ↔ memory.Touches region page := by
  obtain ⟨⟨home, kind, metadata, config, pool⟩⟩ := memory
  obtain ⟨⟨home', kind', metadata', config', pool'⟩⟩ := memory'
  obtain rfl : home' = home := hregion
  rfl

/-- Where physical memory starts at zero, the pages of a region are those with its page numbers. -/
theorem PhysicalMemory.touches_iff (h : allocator.Seated)
    (hsmall : allocator.pool.table.size ≤ 2 ^ 32) (horigin : allocator.region.start = 0) :
    PhysicalMemory.Touches ⟨allocator⟩ region page ↔
      page.toNat < allocator.pool.table.size ∧ region.Touches page.toNat := by
  have hzero : allocator.region.start.toNat = 0 := by
    rw [horigin]
    rfl
  have hpage : ∀ a, PhysicalMemory.pageOf? ⟨allocator⟩ a = some page ↔
      page.toNat < allocator.pool.table.size ∧ a.pageNum.toNat = page.toNat := by
    intro a
    refine (h.pageOf_eq_some_iff hsmall).trans ?_
    rw [hzero, Addr.toNat_pageNum, Nat.zero_div, Nat.zero_add]
  constructor
  · rintro ⟨a, hin, hat⟩
    exact ⟨((hpage a).mp hat).1, a, hin, ((hpage a).mp hat).2⟩
  · rintro ⟨hlt, a, hin, hnum⟩
    exact ⟨a, hin, (hpage a).mpr ⟨hlt, hnum⟩⟩

/-- **The pages that a table touches** are those that were taken for it. -/
theorem PhysicalMemory.Placed.touches_iff (hplaced : Placed region metadata allocator pool' ys)
    (h : allocator.Seated) (hsmall : allocator.pool.table.size ≤ 2 ^ 32)
    (horigin : allocator.region.start = 0) :
    PhysicalMemory.Touches ⟨allocator⟩ metadata page ↔ page ∈ ys := by
  have hzero : allocator.region.start.toNat = 0 := by
    rw [horigin]
    rfl
  have hrun := hplaced.run
  have hbytes := hplaced.bytes
  constructor
  · rintro ⟨a, hin, hat⟩
    rw [Region.contains_iff] at hin
    obtain ⟨-, hnum⟩ := (h.pageOf_eq_some_iff hsmall).mp hat
    -- the address lies on the page that is as many pages into the region
    have hk : (a.toNat - metadata.start.toNat) / 4096 < ys.length := by omega
    have hq := hrun _ _ (List.getElem?_eq_getElem hk)
    have heq : page = ys[(a.toNat - metadata.start.toNat) / 4096] := by
      rw [← UInt32.toNat_inj]
      omega
    exact heq ▸ List.getElem_mem hk
  · intro hmem
    obtain ⟨k, hk, rfl⟩ := List.getElem_of_mem hmem
    have hq := hrun _ _ (List.getElem?_eq_getElem hk)
    have hlt := (hplaced.free _ hmem).lt_size
    obtain ⟨a, -, ha⟩ := h.exists_addressOf hlt
    refine ⟨a, ?_, h.pageOf_address hlt ha⟩
    rw [Region.contains_iff]
    omega

end Touches

/-! ## 2. Steps -/

namespace Machine

/-- Something that is done on the machine. -/
inductive Step where
  /-- A request to physical memory, or a release there. -/
  | physical (request : Request)
  /-- Asks physical memory for pages, to be told where the first one is. -/
  | demandAddr (count : Word) (options : Options)
  /-- Asks physical memory for pages to hold so many bytes. -/
  | demandBytes (size : Word) (options : Options)
  /-- Gives back the allocation of the page at an address. -/
  | freeAddr (a : Addr)
  /-- Sets up an address space. -/
  | setupSpace (region : Region) (config : Config) (marks : List Mark)
    (memory : MemoryAccess PhysicalMemory)
  /-- A request to an address space, or a release there. -/
  | space (number : Nat) (request : Request)

namespace Step

/-- Does the step, and answers with the first of the physical pages granted. -/
def perform : Step → Action Machine (Option Page)
  | physical request => onMemory (PhysicalMemory.onAllocator request.perform)
  | demandAddr count options => do
    let a ← onMemory (PhysicalMemory.demandAddr count options)
    .peek (·.memory.pageOf? a)
  | demandBytes size options => do
    return some (← onMemory (PhysicalMemory.demandBytes size options))
  | freeAddr a => do
    onMemory (PhysicalMemory.freeAddr a)
    return none
  | setupSpace region config marks memory => do
    let _ ← Machine.setupSpace
      (PhysicalMemory.setupSpace region config (marks.map pure) memory)
    return none
  | space number request => do
    let _ ← onSpace number request.perform
    return none

/-- What the step asks of the allocator of physical memory, as long as it does not set up a
space. -/
def request? (memory : PhysicalMemory) : Step → Option Request
  | physical request => some request
  | demandAddr count options => some (.demand count options)
  | demandBytes size options => some (.demand (pagesFor size) options)
  | freeAddr a => (memory.pageOf? a).map .free
  | setupSpace .. | space .. => none

/-- The machine that the step leaves. -/
def after (machine : Machine) (step : Step) : Machine := (step.perform.run machine).state

end Step

/-- The regions in which the tables of the address spaces are placed. -/
def tables (machine : Machine) : List Region :=
  machine.spaces.toList.filterMap (·.map Allocator.metadata)

/-- No page of a table is freed by name, and a space is set up by marks and an access to memory that
do their work. -/
def Allows (machine : Machine) : Step → Prop
  | .setupSpace _ _ marks memory => memory.Neutral ∧ ∀ mark ∈ marks, mark.Fits
  | step => ∀ page, step.request? machine.memory = some (.free page) →
    ∀ table ∈ machine.tables, ¬ machine.memory.Touches table page

/-- Does one step after the other. -/
def run (machine : Machine) (steps : List Step) : Machine := steps.foldl Step.after machine

/-- Each step of the run is allowed when its turn comes. -/
def AllowsAll : Machine → List Step → Prop
  | _, [] => True
  | machine, step :: steps => machine.Allows step ∧ (step.after machine).AllowsAll steps

variable {α : Type} {machine : Machine} {allocator allocator' : Allocator}
  {memory' : PhysicalMemory} {spaces : Array (Option Allocator)} {step : Step} {request : Request}

theorem yields_onMemory {m : Action PhysicalMemory α} {r : Except Fault α}
    (h : m.Yields machine.memory r memory') :
    (onMemory m).Yields machine r ⟨memory', machine.spaces⟩ :=
  h.onPart

/-- Demanded pages are what the demand of the allocator answers with. -/
theorem of_demand {count : Word} {options : Options} {r : Except Fault (Option Page)}
    (h : (Request.demand count options).perform.Yields allocator r allocator') :
    (∃ fault, (Allocator.demand count options).Yields allocator (.error fault) allocator' ∧
        r = .error fault) ∨
      ∃ page, (Allocator.demand count options).Yields allocator (.ok page) allocator' ∧
        r = .ok (some page) := by
  rcases h.of_bind with hfault | ⟨page, s₁, hpage, hr, hs⟩
  · exact .inl hfault
  · obtain rfl : s₁ = allocator' := hs
    exact .inr ⟨page, hpage, hr.symm⟩

/-- **A step that asks the allocator of physical memory for something ends as its request does,** if
the pages granted are pages that it has. -/
theorem yields_of_request {r : Except Fault (Option Page)}
    (hrequest : step.request? ⟨allocator⟩ = some request)
    (h : request.perform.Yields allocator r allocator')
    (hpage : ∀ page, r = .ok (some page) → ∃ a, allocator'.addressOf page = .ok a ∧
      allocator'.pageOf? a = some page) :
    step.perform.Yields ⟨⟨allocator⟩, spaces⟩ r ⟨⟨allocator'⟩, spaces⟩ := by
  cases step with
  | physical request' =>
    obtain rfl := Option.some.inj hrequest
    exact yields_onMemory (PhysicalMemory.yields_onAllocator h)
  | demandAddr count options =>
    obtain rfl := Option.some.inj hrequest
    rcases of_demand h with ⟨fault, hfault, rfl⟩ | ⟨page, hgranted, rfl⟩
    · exact .bind_error (yields_onMemory (.bind_error (PhysicalMemory.yields_onAllocator hfault)))
    · obtain ⟨a, ha, hback⟩ := hpage page rfl
      have haddr : (PhysicalMemory.demandAddr count options).Yields ⟨allocator⟩ (.ok a)
          ⟨allocator'⟩ :=
        .bind (PhysicalMemory.yields_onAllocator hgranted) (Action.yields_look ha)
      refine .bind (yields_onMemory haddr) ?_
      rw [← hback]
      exact Action.yields_peek _ _
  | demandBytes size options =>
    obtain rfl := Option.some.inj hrequest
    rcases of_demand h with ⟨fault, hfault, rfl⟩ | ⟨page, hgranted, rfl⟩
    · exact .bind_error (yields_onMemory (PhysicalMemory.yields_onAllocator hfault))
    · exact .bind (yields_onMemory (PhysicalMemory.yields_onAllocator hgranted))
        (Action.yields_pure _ _)
  | freeAddr a =>
    obtain ⟨page, hat, rfl⟩ := Option.map_eq_some_iff.mp hrequest
    have hfreeAddr : ∀ {result}, (Allocator.free page).Yields allocator result allocator' →
        (PhysicalMemory.freeAddr a).Yields ⟨allocator⟩ result ⟨allocator'⟩ := fun hfree =>
      PhysicalMemory.yields_freeAddr hat (PhysicalMemory.yields_onAllocator hfree)
    rcases h.of_bind with ⟨fault, hfault, rfl⟩ | ⟨_, s₁, hfree, hr, hs⟩
    · exact .bind_error (yields_onMemory (hfreeAddr hfault))
    · obtain rfl : s₁ = allocator' := hs
      obtain rfl := hr
      exact .bind (yields_onMemory (hfreeAddr hfree)) (Action.yields_pure _ _)
  | setupSpace region config marks memory => cases hrequest
  | space number request' => cases hrequest

/-- A space gets its number, whether it could be set up or not. -/
theorem yields_setupSpace (machine : Machine)
    {attempt : Action PhysicalMemory (Except SetupError (Allocator × List Word))}
    {r : Except Fault (Except SetupError (Allocator × List Word))}
    (h : attempt.Yields machine.memory r memory') :
    ∃ space, (Machine.setupSpace attempt).Yields machine r ⟨memory', machine.spaces.push space⟩ ∧
      ∀ allocator, space = some allocator ↔ ∃ counts, r = .ok (.ok (allocator, counts)) := by
  have hmemory := yields_onMemory h
  cases hrun : (onMemory attempt).run machine with
  | mk result state log =>
    rw [Action.Yields, hrun] at hmemory
    obtain ⟨rfl, rfl⟩ := hmemory
    cases result with
    | error fault =>
      refine ⟨none, ?_, by simp⟩
      simp [Machine.setupSpace, Action.Yields, hrun, addSpace]
    | ok answer =>
      cases answer with
      | error reason =>
        refine ⟨none, ?_, by simp⟩
        simp [Machine.setupSpace, Action.Yields, hrun, addSpace]
      | ok made =>
        obtain ⟨allocator, counts⟩ := made
        refine ⟨some allocator, ?_, by simp⟩
        simp [Machine.setupSpace, Action.Yields, hrun, addSpace]

/-- A list shows the same through `f` after a change that `f` does not see. -/
theorem filterMap_set_of_eq {β γ : Type} {f : β → Option γ} {xs : List β} {n : Nat} {x y : β}
    (hy : xs[n]? = some y) (hxy : f x = f y) : (xs.set n x).filterMap f = xs.filterMap f := by
  induction xs generalizing n with
  | nil => cases hy
  | cons a xs ih =>
    cases n with
    | zero =>
      obtain rfl : a = y := by simpa using hy
      simp [List.filterMap_cons, hxy]
    | succ n =>
      rw [List.getElem?_cons_succ] at hy
      simp [List.filterMap_cons, ih hy]

/-- **What is asked of a space** does not concern physical memory, and its table stays where it
is. -/
theorem exists_onSpace (machine : Machine) (number : Nat) (request : Request) :
    ∃ r machine', (Step.space number request).perform.Yields machine r machine' ∧
      (∀ page, r ≠ .ok (some page)) ∧ machine'.memory = machine.memory ∧
      machine'.tables = machine.tables := by
  have hstate : ((onSpace number request.perform).run machine).state.memory = machine.memory ∧
      ((onSpace number request.perform).run machine).state.tables = machine.tables := by
    rw [onSpace]
    dsimp only
    cases hspace : machine.space? number with
    | none => exact ⟨rfl, rfl⟩
    | some allocator =>
      -- where the table of the space is placed does not change, whatever state the space is in
      have hkeeps := request.maintains_of_withPool (P := (·.metadata = allocator.metadata))
        fun _ _ hsame => hsame
      have hmetadata := hkeeps allocator _ _ (Action.yields_run _ allocator) rfl
      have hold : machine.spaces.toList[number]? = some (some allocator) := by
        rw [Array.getElem?_toList]
        exact Option.join_eq_some_iff.mp hspace
      refine ⟨rfl, ?_⟩
      dsimp only [tables]
      rw [Array.toList_setIfInBounds]
      exact filterMap_set_of_eq hold (congrArg some hmetadata)
  have hyields := Action.yields_run (onSpace number request.perform) machine
  cases hresult : ((onSpace number request.perform).run machine).result with
  | error fault =>
    rw [hresult] at hyields
    exact ⟨_, _, .bind_error hyields, by simp, hstate⟩
  | ok answer =>
    rw [hresult] at hyields
    exact ⟨_, _, .bind hyields (Action.yields_pure _ _), by simp, hstate⟩

/-! ## 3. What is kept -/

/-- The regions `fixed` are pinned: the pages that they touch are in use, and belong to no
allocation.  Each table of a space touches the pages of an allocation, and no two tables touch the
same page. -/
structure Guarded (fixed : List Region) (machine : Machine) : Prop where
  inOrder : machine.memory.allocator.InOrder
  origin : machine.memory.allocator.region.start = 0
  pinned : ∀ region ∈ fixed, ∀ p, machine.memory.Touches region p →
    machine.memory.allocator.pool.table.IsUsed p ∧
      machine.memory.allocator.pool.table.column Descriptor.compound p = some .nil
  own : ∀ table ∈ machine.tables, ∃ ys, machine.memory.allocator.pool.table.Allocation ys ∧
    ∀ p, machine.memory.Touches table p ↔ p ∈ ys
  apart : machine.tables.Pairwise fun a b =>
    ∀ p, machine.memory.Touches a p → ¬ machine.memory.Touches b p

/-- The page holds something that must not be handed out. -/
def Guards (fixed : List Region) (machine : Machine) (page : Page) : Prop :=
  ∃ region ∈ fixed ++ machine.tables, machine.memory.Touches region page

variable {fixed : List Region} {pool' : Pool} {xs ys : List Page} {page : Page}

/-- A page that is guarded is in use. -/
theorem Guarded.isUsed (h : Guarded fixed machine) (hguards : machine.Guards fixed page) :
    machine.memory.allocator.pool.table.IsUsed page := by
  obtain ⟨region, hmem, htouches⟩ := hguards
  rcases List.mem_append.mp hmem with hmem | hmem
  · exact (h.pinned region hmem page htouches).1
  · obtain ⟨ys, hown, hiff⟩ := h.own region hmem
    exact hown.used page ((hiff page).mp htouches)

/-- A page that belongs to an allocation is not pinned. -/
theorem Guarded.not_touches_of_allocation (h : Guarded fixed machine)
    (hown : machine.memory.allocator.pool.table.Allocation ys) (hmem : page ∈ ys) :
    ∀ region ∈ fixed, ¬ machine.memory.Touches region page := by
  intro region hregion htouches
  obtain ⟨-, hnil⟩ := h.pinned region hregion page htouches
  obtain ⟨xs, hkept⟩ := h.inOrder.wellKept
  exact hown.column_ne_nil hkept.small.le hmem hnil

/-- **A release does not reach a page that is guarded,** if it does not name a page of a table. -/
theorem Guarded.notMem_of_allocation (h : Guarded fixed machine)
    (hown : machine.memory.allocator.pool.table.Allocation (page :: ys))
    (hname : ∀ table ∈ machine.tables, ¬ machine.memory.Touches table page) {p : Page}
    (hguards : machine.Guards fixed p) : p ∉ page :: ys := by
  intro hp
  obtain ⟨region, hmem, htouches⟩ := hguards
  rcases List.mem_append.mp hmem with hmem | hmem
  · exact h.not_touches_of_allocation hown hp region hmem htouches
  · obtain ⟨zs, hzs, hiff⟩ := h.own region hmem
    -- the two rings have a page in common, so they are the same
    have hperm := hown.perm_of_mem hzs hp ((hiff p).mp htouches)
    exact hname region hmem ((hiff page).mpr (hperm.mem_iff.mp (by simp)))

/-- **What is guarded stays so** while its rows are not touched. -/
theorem Guarded.congr {machine' : Machine} (h : Guarded fixed machine)
    (horder : machine'.memory.allocator.InOrder)
    (hregion : machine'.memory.allocator.region = machine.memory.allocator.region)
    (htables : machine'.tables = machine.tables)
    (hrows : ∀ p, machine.Guards fixed p → machine'.memory.allocator.pool.table[p.toNat]? =
      machine.memory.allocator.pool.table[p.toNat]?) : Guarded fixed machine' where
  inOrder := horder
  origin := by
    rw [hregion]
    exact h.origin
  pinned := by
    intro region hmem p htouches
    rw [PhysicalMemory.touches_congr hregion] at htouches
    obtain ⟨hused, hnil⟩ := h.pinned region hmem p htouches
    have hrow := hrows p ⟨region, List.mem_append_left _ hmem, htouches⟩
    exact ⟨(column_congr_row hrow).trans hused, (column_congr_row hrow).trans hnil⟩
  own := by
    intro table hmem
    rw [htables] at hmem
    obtain ⟨ys, hown, hiff⟩ := h.own table hmem
    refine ⟨ys, hown.congr fun p hp => ?_,
      fun p => (PhysicalMemory.touches_congr hregion table p).trans (hiff p)⟩
    exact hrows p ⟨table, List.mem_append_right _ hmem, (hiff p).mpr hp⟩
  apart := by
    rw [htables]
    refine h.apart.imp fun hab p => ?_
    rw [PhysicalMemory.touches_congr hregion, PhysicalMemory.touches_congr hregion]
    exact hab p

/-- **A new space is guarded** if its table is placed in pages that were free. Then it touches none
of the pages that are guarded already, and being an allocation of its own it stays out of the hands
of whoever asks later. -/
theorem Guarded.push {space : Allocator} (h : Guarded fixed machine)
    (hown : machine.memory.allocator.pool.table.Allocation ys)
    (htouches : ∀ p, machine.memory.Touches space.metadata p ↔ p ∈ ys)
    (hnew : ∀ p ∈ ys, ¬ machine.Guards fixed p) :
    Guarded fixed ⟨machine.memory, machine.spaces.push (some space)⟩ := by
  have htables : (⟨machine.memory, machine.spaces.push (some space)⟩ : Machine).tables =
      machine.tables ++ [space.metadata] := by
    simp [tables]
  refine ⟨h.inOrder, h.origin, h.pinned, ?_, ?_⟩
  · rw [htables]
    intro table hmem
    rcases List.mem_append.mp hmem with hmem | hmem
    · exact h.own table hmem
    · obtain rfl := List.mem_singleton.mp hmem
      exact ⟨ys, hown, htouches⟩
  · rw [htables, List.pairwise_append]
    refine ⟨h.apart, List.pairwise_singleton _ _, ?_⟩
    intro table hmem table' hmem' p hp hp'
    obtain rfl := List.mem_singleton.mp hmem'
    exact hnew p ((htouches p).mp hp') ⟨table, List.mem_append_right _ hmem, hp⟩

/-- The step keeps what is guarded, and the pages that it hands out are not. -/
structure Respects (fixed : List Region) (machine : Machine) (r : Except Fault (Option Page))
    (machine' : Machine) : Prop where
  guarded : Guarded fixed machine'
  region : machine'.memory.allocator.region = machine.memory.allocator.region
  unshared : ∀ page, r = .ok (some page) → ∃ pages,
    machine'.memory.allocator.chain page = (pages, true) ∧ page ∈ pages ∧
      ∀ p ∈ pages, ¬ machine.Guards fixed p

/-- What is asked of the allocator of physical memory keeps what is guarded. -/
theorem Guarded.exists_request (h : Guarded fixed machine)
    (hrequest : step.request? machine.memory = some request)
    (hname : ∀ page, request = .free page →
      ∀ table ∈ machine.tables, ¬ machine.memory.Touches table page) :
    ∃ r machine', step.perform.Yields machine r machine' ∧ Respects fixed machine r machine' := by
  obtain ⟨⟨allocator⟩, spaces⟩ := machine
  obtain ⟨xs, hkept⟩ := h.inOrder.wellKept
  obtain ⟨r, pool', hyields, hends⟩ :=
    h.inOrder.seated.exists_ends hkept.toBalanced h.inOrder.checked request
  obtain ⟨hsize, hkept'⟩ := Allocator.wellKept_of_ends hkept hends
  have horder := h.inOrder.withPool hsize hkept'
  -- the rows of pages in use are touched by a release only, and only if it reaches them
  have hrows : ∀ p, Guards fixed ⟨⟨allocator⟩, spaces⟩ p →
      pool'.table[p.toNat]? = allocator.pool.table[p.toNat]? := by
    intro p hguards
    cases hends with
    | asked _ hout => exact hkept.toBalanced.row_eq_of_allocates hout (h.isUsed hguards)
    | freed hring hback =>
      exact (hkept.toBalanced.gaveBack hring.used hback).used p (h.isUsed hguards)
        (h.notMem_of_allocation hring (hname _ rfl) hguards)
    | rejected => rfl
  have hgranted : ∀ page, r = .ok (some page) → ∃ ys, pool'.table.Allocation (page :: ys) ∧
      ∀ p ∈ page :: ys, allocator.pool.table.IsFree p := by
    rintro page rfl
    cases hends with
    | asked _ hout hiff =>
      obtain rfl := (hiff page).mp rfl
      obtain ⟨ys, -, htook, -⟩ := hkept.toBalanced.took_of_granted hout
      exact ⟨ys, htook.own, htook.free⟩
  refine ⟨r, ⟨⟨allocator.withPool pool'⟩, spaces⟩, yields_of_request hrequest hyields ?_,
    h.congr horder rfl rfl hrows, rfl, ?_⟩
  · intro page hr
    obtain ⟨ys, hown, -⟩ := hgranted page hr
    have hlt := (hown.used page (by simp)).lt_size
    obtain ⟨a, ha, hnat⟩ := horder.seated.exists_addressOf hlt
    exact ⟨a, ha, horder.seated.pageOf_address hlt hnat⟩
  · intro page hr
    obtain ⟨ys, hown, hfree⟩ := hgranted page hr
    refine ⟨page :: ys, horder.seated.chain_eq hown, by simp, ?_⟩
    intro p hp hguards
    exact (hfree p hp).not_isUsed (h.isUsed hguards)

/-- Setting up a space keeps what is guarded, and guards its table from then on. -/
theorem Guarded.exists_setupSpace {memory : MemoryAccess PhysicalMemory} {marks : List Mark}
    (h : Guarded fixed machine) (hmemory : memory.Neutral) (hmarks : ∀ mark ∈ marks, mark.Fits)
    (region : Region) (config : Config) :
    ∃ r machine', (Step.setupSpace region config marks memory).perform.Yields machine r machine' ∧
      Respects fixed machine r machine' := by
  obtain ⟨⟨allocator⟩, spaces⟩ := machine
  obtain ⟨xs, hkept⟩ := h.inOrder.wellKept
  have hseated := h.inOrder.seated
  have hsmall := Pool.le_of_small hkept.small
  obtain ⟨result, _, hyields, pool', rfl, hanswer⟩ :=
    PhysicalMemory.exists_spaceAnswer hseated hkept hmemory hmarks region config
  obtain ⟨space, hsetup, hiff⟩ := yields_setupSpace ⟨⟨allocator⟩, spaces⟩ hyields
  have hguarded : Guarded fixed ⟨⟨allocator.withPool pool'⟩, spaces⟩ :=
    h.congr (h.inOrder.withPool hanswer.size hanswer.wellKept) rfl rfl fun p hguards =>
      hanswer.used p (h.isUsed hguards)
  have hpushed : Guarded fixed ⟨⟨allocator.withPool pool'⟩, spaces.push space⟩ := by
    cases space with
    | none => exact hguarded.congr hguarded.inOrder rfl (by simp [tables]) fun _ _ => rfl
    | some space =>
      obtain ⟨counts, rfl⟩ := (hiff space).mp rfl
      obtain ⟨ys, hplaced⟩ := hanswer.placed space counts rfl
      refine hguarded.push hplaced.own (fun p => hplaced.touches_iff hseated hsmall h.origin) ?_
      rintro p hp ⟨region, hmem, htouches⟩
      exact (hplaced.free p hp).not_isUsed (h.isUsed ⟨region, hmem, htouches⟩)
  cases result with
  | error fault => exact ⟨_, _, .bind_error hsetup, hpushed, rfl, fun _ hr => nomatch hr⟩
  | ok answer =>
    exact ⟨_, _, .bind hsetup (Action.yields_pure _ _), hpushed, rfl, fun _ hr => nomatch hr⟩

/-- **Every step that is allowed** keeps what is guarded, and hands none of it out.  What is guarded
is in use, a request touches no row of a page in use, and a release touches those of one ring
only. -/
theorem Guarded.exists_step (h : Guarded fixed machine) (hallows : machine.Allows step) :
    ∃ r machine', step.perform.Yields machine r machine' ∧ Respects fixed machine r machine' := by
  cases step with
  | physical request =>
    exact h.exists_request rfl fun page hpage => hallows page (congrArg some hpage)
  | demandAddr count options => exact h.exists_request rfl fun page hpage => nomatch hpage
  | demandBytes size options => exact h.exists_request rfl fun page hpage => nomatch hpage
  | freeAddr a =>
    cases hat : machine.memory.pageOf? a with
    | some page =>
      have hrequest : (Step.freeAddr a).request? machine.memory = some (.free page) := by
        rw [Step.request?, hat]
        rfl
      refine h.exists_request hrequest fun page' hpage => ?_
      exact hallows page' (hrequest.trans (congrArg some hpage))
    | none =>
      have hfault : (PhysicalMemory.freeAddr a).Yields machine.memory
          (.error (.outsideMemory a)) machine.memory := by
        refine .bind (Action.yields_peek _ _) ?_
        rw [hat]
        exact Action.yields_fault _ _
      exact ⟨_, machine, .bind_error (yields_onMemory hfault), h, rfl, fun _ hr => nomatch hr⟩
  | setupSpace region config marks memory =>
    exact h.exists_setupSpace hallows.1 hallows.2 region config
  | space number request =>
    obtain ⟨r, machine', hyields, hnone, hmemory, htables⟩ := exists_onSpace machine number request
    have hregion : machine'.memory.allocator.region = machine.memory.allocator.region := by
      rw [hmemory]
    refine ⟨r, machine', hyields, h.congr ?_ hregion htables ?_, hregion,
      fun page hr => absurd hr (hnone page)⟩
    · rw [hmemory]
      exact h.inOrder
    · intro p _
      rw [hmemory]

/-- **A run in which each step is allowed** keeps what is guarded, and physical memory has the same
pages throughout. -/
theorem Guarded.run {steps : List Step} (h : Guarded fixed machine)
    (hallows : machine.AllowsAll steps) : Guarded fixed (machine.run steps) ∧
      (machine.run steps).memory.allocator.region = machine.memory.allocator.region := by
  induction steps generalizing machine with
  | nil => exact ⟨h, rfl⟩
  | cons step steps ih =>
    obtain ⟨r, machine', hyields, hrespects⟩ := h.exists_step hallows.1
    obtain rfl : step.after machine = machine' := hyields.2
    obtain ⟨hguarded, hregion⟩ := ih hrespects.guarded hallows.2
    exact ⟨hguarded, hregion.trans hrespects.region⟩

end Machine

end PageFrames
