/-
# Setting up address spaces

The table of an address space is placed in physical pages.  If the space cannot be set up after
all, they are given back, so physical memory has either lost exactly the pages of the table, which
are an allocation of their own (`PhysicalMemory.Placed`), or is as it was before, but for the order
of its free list (`Pool.Undisturbed`).  In the first case there is a space to show for it, which is
what the arguments of its setup describe (`Allocator.Founded`).

This holds wherever physical memory has got to: what is needed is only that its pool is well kept.
An allocator keeps it so in any run in which nothing is given back that nobody owns
(`Ledger.Held`), for however long, whether releases are checked or not.
-/
import PageFrames.Physical
import PageFrames.Proofs.Custody
import PageFrames.Proofs.Founding

namespace PageFrames

open Table

/-! ## 1. Nothing lost -/

/-- Each page shows what it showed before, but for its link, as many are free, and the free list is
in order. -/
structure Pool.Undisturbed (pool pool' : Pool) : Prop where
  size : pool'.table.size = pool.table.size
  rows : ∀ p, pool'.table.column Descriptor.bare p = pool.table.column Descriptor.bare p
  freePages : pool'.freePages = pool.freePages
  list : ∃ xs, pool'.Balanced xs

/-- **A pool that is well kept is undisturbed** if the same pages are free and the rows of the
others have not been touched. -/
theorem Pool.undisturbed_of_wellKept {pool pool' : Pool} {start : Addr} {xs ys : List Page}
    (h : pool.WellKept start xs) (h' : pool'.WellKept start ys)
    (hsize : pool'.table.size = pool.table.size)
    (hfree : ∀ p, pool'.table.IsFree p ↔ pool.table.IsFree p)
    (hused : ∀ p, pool.table.IsUsed p → pool'.table[p.toNat]? = pool.table[p.toNat]?) :
    pool.Undisturbed pool' where
  size := hsize
  rows p := h.column_bare_eq h' hsize (hfree p) (hused p)
  freePages := by
    have hsame : pool'.table.freePages = pool.table.freePages := by
      refine freePages_congr hsize fun p => ?_
      have hbare := h.column_bare_eq h' hsize (hfree p) (hused p)
      have hstatus := congrArg (Option.map Descriptor.status) hbare
      rwa [← column_comp, ← column_comp] at hstatus
    rw [← UInt64.toNat_inj, h'.counted_freePages, h.counted_freePages, hsame]
  list := ⟨ys, h'.toBalanced⟩

/-! ## 2. Memory -/

/-- Preparing memory does not concern the state, however it ends. -/
structure MemoryAccess.Neutral {σ : Type} (memory : MemoryAccess σ) : Prop where
  setWritable : ∀ (region : Region) (s : σ), ∃ r, (memory.setWritable region).Yields s r s
  zero : ∀ (region : Region) (s : σ), ∃ r, (memory.zero region).Yields s r s

/-- A direct map does not concern the state, at whatever distance. -/
theorem DirectMap.neutral {σ : Type} (map : DirectMap) : (map.access : MemoryAccess σ).Neutral where
  setWritable := by
    intro region s
    cases htext : region.text with
    | error fault => exact ⟨_, .bind_error (Action.yields_liftM htext s)⟩
    | ok text => exact ⟨_, .bind (Action.yields_liftM htext s) (Action.yields_emit _ _ s)⟩
  zero _ s := ⟨_, Action.yields_pure _ s⟩

/-- **An installation that does not concern the state** comes to the allocator that its arguments
describe, unless preparing memory comes to a fault. -/
theorem Allocator.exists_install_of_neutral {σ : Type} {region metadata : Region} {size : Word}
    {marks : List Mark} {memory : MemoryAccess σ} (kind : SpaceKind) (config : Config)
    (hmemory : memory.Neutral) (hpasses : firstFailure region.checks = none)
    (hfit : firstFailure (tableChecks memory.pointer size (some metadata)) = none)
    (hmetadata : metadata.Fits) (hmarks : ∀ mark ∈ marks, mark.Fits) (s : σ) :
    ∃ result, (install region kind config size (some metadata) (marks.map pure) memory).Yields s
        result s ∧
      ((∃ fault, result = .error fault ∧ ¬ memory.Prepares) ∨
        ∃ counts pool, result = .ok (.ok (⟨region, kind, metadata, config, pool⟩, counts)) ∧
          Founded region kind config metadata marks ⟨region, kind, metadata, config, pool⟩) := by
  obtain ⟨r₁, hwritable⟩ := hmemory.setWritable metadata s
  obtain ⟨r₂, hzero⟩ := hmemory.zero metadata s
  cases r₁ with
  | error fault =>
    refine ⟨_, yields_install_fault memory hfit hmetadata (.bind_error hwritable) _,
      .inl ⟨fault, rfl, ?_⟩⟩
    intro hprepares
    obtain ⟨s', hok⟩ := hprepares.setWritable metadata s hmetadata
    cases (hwritable.unique hok).1
  | ok =>
    cases r₂ with
    | error fault =>
      refine ⟨_, yields_install_fault memory hfit hmetadata (.bind hwritable hzero) _,
        .inl ⟨fault, rfl, ?_⟩⟩
      intro hprepares
      obtain ⟨s', hok⟩ := hprepares.zero metadata s hmetadata
      cases (hzero.unique hok).1
    | ok =>
      obtain ⟨counts, table, pool, hinstall, hstarted, hused⟩ :=
        exists_install kind config memory hpasses hfit hmetadata hmarks hwritable hzero
      exact ⟨_, hinstall, .inr ⟨counts, pool, rfl, founded_of_started hstarted hused⟩⟩

/-! ## 3. Tables in physical pages -/

namespace PhysicalMemory

variable {α : Type} {allocator allocator' : Allocator} {pool' : Pool} {xs ys : List Page}
  {region metadata : Region} {config : Config} {memory : MemoryAccess PhysicalMemory}
  {marks : List Mark}

/-- The number of whole pages that the table of a region takes, at 40 bytes for each of its
pages. -/
def tablePages (region : Region) : Nat := (40 * region.pages + 4095) / 4096

/-- Between the two pools, the first of which is that of `allocator`, the pages `ys` were taken for
the table of a space, which is placed in the region `metadata`. -/
structure Placed (region metadata : Region) (allocator : Allocator) (pool' : Pool)
    (ys : List Page) : Prop where
  length : ys.length = tablePages region
  /-- The pages are those of the region, in their order. -/
  run : ∀ (k : Nat) (p : Page), ys[k]? = some p →
    allocator.region.start.toNat + p.toNat * 4096 = metadata.start.toNat + k * 4096
  bytes : metadata.size.toNat = ys.length * 4096
  free : ∀ p ∈ ys, allocator.pool.table.IsFree p
  own : pool'.table.Allocation ys
  tagged : ∀ p ∈ ys,
    pool'.table.column Descriptor.tag p = some (.ofLabel Allocator.metadataLabel)
  counted : pool'.freePages.toNat + ys.length = allocator.pool.freePages.toNat
  others : ∀ p, p ∉ ys →
    pool'.table.column Descriptor.bare p = allocator.pool.table.column Descriptor.bare p

/-- What becomes of physical memory when a space is set up, for a region, under a configuration, by
marks and with an access to memory, from the state of its allocator before. -/
structure SpaceAnswer (region : Region) (config : Config) (marks : List Mark)
    (memory : MemoryAccess PhysicalMemory) (allocator : Allocator) (pool' : Pool)
    (result : Except Fault (Except SetupError (Allocator × List Word))) : Prop where
  size : pool'.table.size = allocator.pool.table.size
  wellKept : ∃ xs, pool'.WellKept allocator.region.start xs
  /-- However it ends, no row of a page in use is touched. -/
  used : ∀ p, allocator.pool.table.IsUsed p →
    pool'.table[p.toNat]? = allocator.pool.table[p.toNat]?
  /-- An error leaves everything as it was. -/
  refused : ∀ reason, result = .ok (.error reason) → allocator.pool.Undisturbed pool'
  /-- A space costs the pages of its table. -/
  placed : ∀ space counts, result = .ok (.ok (space, counts)) →
    ∃ ys, Placed region space.metadata allocator pool' ys
  /-- The space is the virtual one that was asked for, with the pages marked that were to be. -/
  founded : ∀ space counts, result = .ok (.ok (space, counts)) →
    Allocator.Founded region .virtual config space.metadata marks space
  /-- There is no fault if the region does not run past the top, the request for the pages can be
  counted, and memory can be prepared. -/
  answered : region.Fits → allocator.pool.allocations.toNat + 1 < 2 ^ 64 →
    allocator.pool.compactions.toNat + 1 < 2 ^ 64 → memory.Prepares →
    ∃ answer, result = .ok answer

theorem yields_onAllocator {m : Action Allocator α} {r : Except Fault α}
    (h : m.Yields allocator r allocator') : (onAllocator m).Yields ⟨allocator⟩ r ⟨allocator'⟩ :=
  h.onPart

/-- To free at an address is to free the page that is found there. -/
theorem yields_freeAddr {physical physical' : PhysicalMemory} {a : Addr} {page : Page}
    {r : Except Fault Unit} (hat : physical.pageOf? a = some page)
    (h : (free page).Yields physical r physical') : (freeAddr a).Yields physical r physical' := by
  refine .bind (Action.yields_peek _ _) ?_
  rw [hat]
  exact h

/-- **An allocation is given back from the address of any of its pages.** -/
theorem exists_freeAddr (h : allocator.Seated) (hbal : allocator.pool.Balanced xs) {page : Page}
    (hown : allocator.pool.table.Allocation (page :: ys)) {a : Addr}
    (ha : a.toNat = allocator.region.start.toNat + page.toNat * 4096) :
    ∃ pool', (freeAddr a).Yields ⟨allocator⟩ (.ok ()) ⟨allocator.withPool pool'⟩ ∧
      Pool.GivenBack (page :: ys) xs allocator.pool pool' := by
  obtain ⟨pool', hyields, hback⟩ := h.exists_free hbal hown
  have hpage := h.pageOf_address (hown.used page (by simp)).lt_size ha
  exact ⟨pool', yields_freeAddr hpage (yields_onAllocator hyields), hback⟩

section Answers

variable {reason : SetupError} {fault : Fault} {space : Allocator} {counts : List Word}
  (hsize : pool'.table.size = allocator.pool.table.size)
  (hkept' : ∃ xs, pool'.WellKept allocator.region.start xs)
  (hused : ∀ p, allocator.pool.table.IsUsed p →
    pool'.table[p.toNat]? = allocator.pool.table[p.toNat]?)

include hsize hkept' hused

theorem spaceAnswer_of_fault
    (hfault : region.Fits → allocator.pool.allocations.toNat + 1 < 2 ^ 64 →
      allocator.pool.compactions.toNat + 1 < 2 ^ 64 → ¬ memory.Prepares) :
    SpaceAnswer region config marks memory allocator pool' (.error fault) where
  size := hsize
  wellKept := hkept'
  used := hused
  refused _ h := nomatch h
  placed _ _ h := nomatch h
  founded _ _ h := nomatch h
  answered hfits hallocations hcompactions hprepares :=
    absurd hprepares (hfault hfits hallocations hcompactions)

/-- An error is told where the same pages are free as before. -/
theorem spaceAnswer_of_refused (hkept : allocator.pool.WellKept allocator.region.start xs)
    (hfree : ∀ p, pool'.table.IsFree p ↔ allocator.pool.table.IsFree p) :
    SpaceAnswer region config marks memory allocator pool' (.ok (.error reason)) where
  size := hsize
  wellKept := hkept'
  used := hused
  refused := by
    intro _ _
    obtain ⟨ys, hkept'⟩ := hkept'
    exact Pool.undisturbed_of_wellKept hkept hkept' hsize hfree hused
  placed _ _ h := nomatch h
  founded _ _ h := nomatch h
  answered _ _ _ _ := ⟨_, rfl⟩

theorem spaceAnswer_of_placed (hplaced : Placed region space.metadata allocator pool' ys)
    (hfounded : Allocator.Founded region .virtual config space.metadata marks space) :
    SpaceAnswer region config marks memory allocator pool' (.ok (.ok (space, counts))) where
  size := hsize
  wellKept := hkept'
  used := hused
  refused _ h := nomatch h
  placed _ _ h := by
    cases h
    exact ⟨ys, hplaced⟩
  founded _ _ h := by
    cases h
    exact hfounded
  answered _ _ _ _ := ⟨_, rfl⟩

end Answers

/-- **The pages that were reserved for a table** are the region that was granted, which holds the
table and does not run past the top. -/
theorem exists_placed {first : Page} {pages : Region} (h : allocator.Seated)
    (hkept : allocator.pool.WellKept allocator.region.start xs)
    (hkept' : pool'.WellKept allocator.region.start ys)
    (hout : allocator.Comes xs (pagesFor region.tableSize) Allocator.tableOptions
      (.ok (.ok first)) pool')
    (hstart : pages.start.toNat = allocator.region.start.toNat + first.toNat * 4096)
    (hbytes : pages.size.toNat = (pagesFor region.tableSize).toNat * 4096) :
    pages.Fits ∧ region.tableSize.toNat ≤ pages.size.toNat ∧
      ∃ zs, Placed region pages allocator pool' (first :: zs) ∧
        Pool.Took (.ofLabel Allocator.metadataLabel) (first :: zs) allocator.pool pool' := by
  obtain ⟨zs, hlen, htook, hrun⟩ := hkept.toBalanced.took_of_granted hout
  replace hrun := hrun rfl
  have hcount : (pagesFor region.tableSize).toNat = tablePages region := by
    rw [toNat_pagesFor, Region.toNat_tableSize, tablePages]
  have hlength : (first :: zs).length = tablePages region := hlen.trans hcount
  have hfits : pages.Fits := by
    -- the last of the pages is one of the allocator's, so the region ends within its region
    have hlast := List.getElem?_eq_getElem (l := first :: zs) (i := zs.length) (by simp)
    have hlt := (htook.free _ (List.mem_of_getElem? hlast)).lt_size
    rw [hrun _ _ hlast] at hlt
    have hsized := h.sized
    have hend := h.fits
    rw [Region.Fits]
    omega
  refine ⟨hfits, ?_, zs, ⟨hlength, ?_, by rw [hbytes, ← hlen]; rfl, htook.free, htook.own,
    htook.tagged, htook.counted, ?_⟩, htook⟩
  · rw [hbytes, toNat_pagesFor]
    omega
  · intro k p hp
    have hnum := hrun k p hp
    omega
  · intro p hp
    refine hkept.column_bare_eq hkept' htook.size ?_ (htook.used p)
    rw [htook.isFree_iff]
    exact and_iff_left hp

/-- What is left of setting up a space once pages for its table have been asked for. -/
def finishSpace (region : Region) (config : Config) (granted : Option Region)
    (usage : List (Action PhysicalMemory Mark)) (memory : MemoryAccess PhysicalMemory) :
    Action PhysicalMemory (Except SetupError (Allocator × List Word)) := do
  let outcome ← Allocator.install region .virtual config region.tableSize granted usage memory
  match outcome, granted with
  | .error reason, some pages =>
    let text ← pages.text
    .emit .debug s!"releasing {text} after failed setup: {reason.message}"
    freeAddr pages.start
  | _, _ => pure ()
  return outcome

/-- What becomes of physical memory when pages have been granted for the table of a space. -/
theorem exists_spaceAnswer_of_granted {pool₁ : Pool} {first : Page} {pages : Region}
    (h : allocator.Seated) (hkept : allocator.pool.WellKept allocator.region.start xs)
    (hmemory : memory.Neutral) (hmarks : ∀ mark ∈ marks, mark.Fits) (config : Config)
    (hpasses : firstFailure region.checks = none)
    (hout : allocator.Comes xs (pagesFor region.tableSize) Allocator.tableOptions
      (.ok (.ok first)) pool₁)
    (hstart : pages.start.toNat = allocator.region.start.toNat + first.toNat * 4096)
    (hbytes : pages.size.toNat = (pagesFor region.tableSize).toNat * 4096) :
    ∃ result memory', (finishSpace region config (some pages) (marks.map pure) memory).Yields
        ⟨allocator.withPool pool₁⟩ result memory' ∧
      ∃ pool', memory' = ⟨allocator.withPool pool'⟩ ∧
        SpaceAnswer region config marks memory allocator pool' result := by
  obtain ⟨hsize, ys, hkept₁⟩ := hkept.allocates hout
  obtain ⟨hfits, hlarge, zs, hplaced, htook⟩ := exists_placed h hkept hkept₁ hout hstart hbytes
  cases hodd : firstFailure (tableChecks memory.pointer region.tableSize (some pages)) with
  | some reason =>
    -- the pages are given back, from the first of them
    have hseated := h.withPool htook.size
    obtain ⟨pool', hfree, hback⟩ := exists_freeAddr hseated hkept₁.toBalanced hplaced.own hstart
    have hnil := htook.gaveBack (hkept₁.toBalanced.gaveBack hplaced.own.used hback)
    have hkept' := hkept₁.givenBack hplaced.own.used hback
    obtain ⟨text, htext⟩ := hfits.exists_text
    refine ⟨_, _, .bind (Allocator.yields_install_error memory hodd _)
      (.bind (Action.yields_liftM htext _) (.bind (Action.yields_emit _ _ _)
        (.bind hfree (Action.yields_pure _ _)))), pool', rfl,
      spaceAnswer_of_refused hnil.size ⟨_, hkept'⟩ hnil.used hkept fun p => ?_⟩
    rw [hnil.isFree_iff]
    simp
  | none =>
    obtain ⟨result, hinstall, hresult⟩ := Allocator.exists_install_of_neutral .virtual config
      hmemory hpasses hodd hfits hmarks (⟨allocator.withPool pool₁⟩ : PhysicalMemory)
    rcases hresult with ⟨fault, rfl, hnot⟩ | ⟨counts, pool, rfl, hfounded⟩
    · exact ⟨_, _, .bind_error hinstall, pool₁, rfl,
        spaceAnswer_of_fault hsize ⟨ys, hkept₁⟩ htook.used fun _ _ _ => hnot⟩
    · exact ⟨_, _, .bind hinstall (.bind (Action.yields_pure _ _) (Action.yields_pure _ _)), pool₁,
        rfl, spaceAnswer_of_placed hsize ⟨ys, hkept₁⟩ htook.used hplaced hfounded⟩

/-- **Setting up a space takes exactly its table or nothing,** whatever it ends with.  It can be
refused in three places: before pages are asked for, when there are none, and when those there are
cannot hold the table.  Only in the last of them there is something to give back. -/
theorem exists_spaceAnswer (h : allocator.Seated)
    (hkept : allocator.pool.WellKept allocator.region.start xs) (hmemory : memory.Neutral)
    (hmarks : ∀ mark ∈ marks, mark.Fits) (region : Region) (config : Config) :
    ∃ result memory', (setupSpace region config (marks.map pure) memory).Yields ⟨allocator⟩ result
        memory' ∧
      ∃ pool', memory' = ⟨allocator.withPool pool'⟩ ∧
        SpaceAnswer region config marks memory allocator pool' result := by
  have hkept' : ∃ xs, allocator.pool.WellKept allocator.region.start xs := ⟨xs, hkept⟩
  cases htext : region.text with
  | error fault =>
    refine ⟨_, _, .bind_error (Action.yields_liftM htext _), allocator.pool, rfl,
      spaceAnswer_of_fault rfl hkept' (fun _ _ => rfl) fun hfits => ?_⟩
    obtain ⟨text, hok⟩ := hfits.exists_text
    cases htext.symm.trans hok
  | ok text =>
    refine Action.Yields.exists_bind (Action.yields_liftM htext _) ?_
    refine Action.Yields.exists_bind (Action.yields_emit _ _ _) ?_
    have hadmit := region.admit_eq
    cases hregion : firstFailure region.checks with
    | some reason =>
      rw [hregion] at hadmit
      exact ⟨_, _, .bind (Action.yields_liftM hadmit _) (Action.yields_pure _ _), allocator.pool,
        rfl, spaceAnswer_of_refused rfl hkept' (fun _ _ => rfl) hkept fun _ => Iff.rfl⟩
    | none =>
      rw [hregion] at hadmit
      refine Action.Yields.exists_bind (Action.yields_liftM hadmit _) ?_
      obtain ⟨r, granted, pool₁, hreserve, hout, hreserves⟩ :=
        h.exists_reserve hkept.toBalanced region.tableSize
      obtain ⟨hsize, hkept₁⟩ := hkept.allocates hout
      have hused : ∀ p, allocator.pool.table.IsUsed p →
          pool₁.table[p.toNat]? = allocator.pool.table[p.toNat]? :=
        fun p => hkept.toBalanced.row_eq_of_allocates hout
      cases hreserves with
      | failed =>
        refine ⟨_, _, .bind_error (yields_onAllocator hreserve), pool₁, rfl,
          spaceAnswer_of_fault hsize hkept₁ hused fun _ hallocations hcompactions => ?_⟩
        obtain ⟨answer, hanswer⟩ := hout.exists_answer hallocations hcompactions
        cases hanswer
      | refused =>
        have htook := hkept.toBalanced.took_nil_of_refused hout
        refine Action.Yields.exists_bind (yields_onAllocator hreserve) ⟨_, _,
          .bind (Allocator.yields_install_error memory rfl _)
            (.bind (Action.yields_pure _ _) (Action.yields_pure _ _)), pool₁, rfl,
          spaceAnswer_of_refused hsize hkept₁ hused hkept fun p => ?_⟩
        rw [htook.isFree_iff]
        simp
      | granted _ hstart hbytes =>
        exact Action.Yields.exists_bind (yields_onAllocator hreserve)
          (exists_spaceAnswer_of_granted h hkept hmemory hmarks config hregion hout hstart hbytes)

end PhysicalMemory

/-! ## 4. What physical memory has got to -/

namespace Ledger

/-- **Setting up an address space takes exactly its table or nothing,** in every state that physical
memory can get to from its setup on, for whatever region, with whatever configuration.  The pages of
the table are a run of free pages, taken by a request of their own.  If the setup fails after that,
they are given back from the first of them, which is still where the region that was granted begins,
and the request and the release undo each other but for the order of the free list. -/
theorem exists_spaceAnswer_run {setup : Allocator} (hsetup : setup.SetUp)
    {requests : List Request} (hallows : ({ allocator := setup } : Ledger).AllowsAll requests)
    {memory : MemoryAccess PhysicalMemory} (hmemory : memory.Neutral) {marks : List Mark}
    (hmarks : ∀ mark ∈ marks, mark.Fits) (region : Region) (config : Config) :
    let reached := (({ allocator := setup } : Ledger).run requests).allocator
    ∃ result memory', (PhysicalMemory.setupSpace region config (marks.map pure) memory).Yields
        ⟨reached⟩ result memory' ∧
      ∃ pool', memory' = ⟨reached.withPool pool'⟩ ∧
        PhysicalMemory.SpaceAnswer region config marks memory reached pool' result := by
  obtain ⟨hseated, -, hkept⟩ := hsetup.wellKept
  have hheld : Held { allocator := setup } := ⟨hseated, ⟨_, hkept⟩, by simp, .nil⟩
  obtain ⟨hseated', ⟨xs, hkept'⟩, -⟩ := hheld.run hallows
  exact PhysicalMemory.exists_spaceAnswer hseated' hkept' hmemory hmarks region config

/-- A space of two pages, of which the first is in use, with its table in the last page of
`threePages`. -/
def twoPageSpace : Allocator where
  region := ⟨0x10000, 0x2000⟩
  kind := .virtual
  metadata := ⟨0x3000, 0x1000⟩
  config := {}
  pool :=
    { table := #[⟨0x10000, .used, .empty, .none, .nil⟩, ⟨0x11000, .free, .empty, ⟨1, 1⟩, .nil⟩]
      free := { head := some 1 }
      freePages := 1 }

open Allocator PhysicalMemory in
/-- Of three pages one is owned when a table is placed in the last of them.  Through a crooked map
the table cannot be reached, and its page is given back; through the identity there is a space. -/
theorem exists_spaceAnswer_run_threePages :
    let reached := (({ allocator := threePages } : Ledger).run [.attempt 1 {}]).allocator
    (∃ memory', (setupSpace ⟨0x10000, 0x2000⟩ {} ([.used ⟨0x10000, 0x1000⟩].map pure)
          (DirectMap.access ⟨4⟩)).Yields ⟨reached⟩ (.ok (.error (.unalignedMetadata 0x3000)))
        memory' ∧
      ∃ pool', memory' = ⟨reached.withPool pool'⟩ ∧
        SpaceAnswer ⟨0x10000, 0x2000⟩ {} [.used ⟨0x10000, 0x1000⟩] (DirectMap.access ⟨4⟩) reached
          pool' (.ok (.error (.unalignedMetadata 0x3000)))) ∧
    ∃ memory', (setupSpace ⟨0x10000, 0x2000⟩ {} ([.used ⟨0x10000, 0x1000⟩].map pure)
          DirectMap.identity.access).Yields ⟨reached⟩ (.ok (.ok (twoPageSpace, [1]))) memory' ∧
      ∃ pool', memory' = ⟨reached.withPool pool'⟩ ∧
        SpaceAnswer ⟨0x10000, 0x2000⟩ {} [.used ⟨0x10000, 0x1000⟩] DirectMap.identity.access reached
          pool' (.ok (.ok (twoPageSpace, [1]))) := by
  have hmarks : ∀ mark ∈ [Mark.used ⟨0x10000, 0x1000⟩], mark.Fits := by
    simp [Mark.Fits, Region.Fits]
  have hallows : ({ allocator := threePages } : Ledger).AllowsAll [.attempt 1 {}] := by
    decide +kernel
  constructor
  · obtain ⟨result, memory', hyields, hanswer⟩ := exists_spaceAnswer_run setUp_threePages hallows
      (DirectMap.neutral ⟨4⟩) hmarks ⟨0x10000, 0x2000⟩ {}
    obtain rfl : result = .ok (.error (.unalignedMetadata 0x3000)) :=
      hyields.1.symm.trans (by decide +kernel)
    exact ⟨memory', hyields, hanswer⟩
  · obtain ⟨result, memory', hyields, hanswer⟩ := exists_spaceAnswer_run setUp_threePages hallows
      (DirectMap.neutral .identity) hmarks ⟨0x10000, 0x2000⟩ {}
    obtain rfl : result = .ok (.ok (twoPageSpace, [1])) :=
      hyields.1.symm.trans (by decide +kernel)
    exact ⟨memory', hyields, hanswer⟩

end Ledger

end PageFrames
