/-
# What a setup comes to

A setup depends on three things outside the allocator: a source of memory for the table, access to
that memory, and marks.  If none of them comes to a fault, neither does the setup.  It is refused
for the reason of the first check that fails, or it comes to an allocator that is as its arguments
describe it (`Allocator.Founded`).

What a setup asks of its surroundings is part of the answer (`Allocator.SetupAnswer`).  To state it,
the surroundings are made to take notes (`SetupCall.noted`): which calls are made does not show in
the state of surroundings that may do anything.
-/
import PageFrames.Proofs.Setup

namespace PageFrames

variable {σ : Type}

/-! ## 1. Surroundings -/

/-- Neither of the steps that prepare memory comes to a fault, if the region is one that does not
run past the top. -/
structure MemoryAccess.Prepares (memory : MemoryAccess σ) : Prop where
  setWritable : ∀ (region : Region) (s : σ), region.Fits →
    ∃ s', (memory.setWritable region).Yields s (.ok ()) s'
  zero : ∀ (region : Region) (s : σ), region.Fits →
    ∃ s', (memory.zero region).Yields s (.ok ()) s'

/-- A direct map prepares memory, at whatever distance. -/
theorem DirectMap.prepares (map : DirectMap) : (map.access : MemoryAccess σ).Prepares where
  setWritable := by
    intro region s hfits
    obtain ⟨text, htext⟩ := hfits.exists_text
    exact ⟨s, .bind (Action.yields_liftM htext s) (Action.yields_emit _ _ s)⟩
  zero region s _ := ⟨s, Action.yields_pure _ s⟩

/-- A call that a setup makes on its surroundings. -/
inductive SetupCall where
  /-- Memory for a table of so many bytes is asked for. -/
  | asked (size : Word)
  | madeWritable (region : Region)
  | cleared (region : Region)
  deriving DecidableEq

/-- An action, with a note of the call that it stands for. -/
def SetupCall.noted {α : Type} (call : SetupCall) (m : Action σ α) :
    Action (σ × List SetupCall) α := do
  .change fun (s, calls) => (s, calls ++ [call])
  .onPart (fun (s, calls) => (s, (·, calls))) m

theorem SetupCall.yields_noted {α : Type} {m : Action σ α} {s s' : σ} {r : Except Fault α}
    (call : SetupCall) (h : m.Yields s r s') (calls : List SetupCall) :
    (call.noted m).Yields (s, calls) r (s', calls ++ [call]) :=
  .bind (Action.yields_change _ _) h.onPart

/-- Access to memory that takes notes of what it is asked for. -/
def MemoryAccess.noted (memory : MemoryAccess σ) : MemoryAccess (σ × List SetupCall) where
  pointer := memory.pointer
  setWritable region := (SetupCall.madeWritable region).noted (memory.setWritable region)
  zero region := (SetupCall.cleared region).noted (memory.zero region)

/-- Memory is prepared as well where notes are taken. -/
theorem MemoryAccess.Prepares.exists_noted {memory : MemoryAccess σ} {region : Region}
    (h : memory.Prepares) (hfits : region.Fits) (s : σ) (calls : List SetupCall) :
    ∃ s₁ s₂, (memory.noted.setWritable region).Yields (s, calls) (.ok ())
        (s₁, calls ++ [.madeWritable region]) ∧
      (memory.noted.zero region).Yields (s₁, calls ++ [.madeWritable region]) (.ok ())
        (s₂, calls ++ [.madeWritable region] ++ [.cleared region]) := by
  obtain ⟨s₁, hwritable⟩ := h.setWritable region s hfits
  obtain ⟨s₂, hzero⟩ := h.zero region s₁ hfits
  exact ⟨s₁, s₂, (SetupCall.madeWritable region).yields_noted hwritable calls,
    (SetupCall.cleared region).yields_noted hzero _⟩

/-! ## 2. New tables -/

namespace Table

/-- **There is a new table** for every region that ends at the top or before it. -/
theorem exists_fresh {start : Addr} {count : Nat} (h : start.toNat + count * 4096 ≤ 2 ^ 64) :
    ∃ table, fresh start count = .ok table := by
  induction count with
  | zero => exact ⟨#[], rfl⟩
  | succ count ih =>
    have hle : start.toNat + count * 4096 ≤ start.toNat + (count + 1) * 4096 :=
      Nat.add_le_add_left (Nat.mul_le_mul_right _ (Nat.le_succ count)) _
    obtain ⟨table, htable⟩ := ih (hle.trans h)
    have hnat : count.toUInt64.toNat = count := Word.toNat_toUInt64 (by omega)
    obtain ⟨offset, hoffset, hmul⟩ := Word.exists_mulExact (a := count.toUInt64) (b := pageSize)
      (by rw [hnat, toNat_pageSize]; omega)
    rw [hnat, toNat_pageSize] at hmul
    obtain ⟨a, ha, -⟩ := Word.exists_addExact (a := start) (b := offset) (by omega)
    refine ⟨table.push (.fresh a), ?_⟩
    rw [fresh, htable]
    simp [addressAt, hoffset, ha, bind, Except.bind, pure, Except.pure]

/-- No page of a new table is in use. -/
theorem not_isUsed_of_fresh {start : Addr} {count : Nat} {table : Table}
    (h : fresh start count = .ok table) (hsmall : count ≤ 2 ^ 64) (page : Page) :
    ¬ table.IsUsed page := by
  intro hused
  obtain ⟨row, hrow, hstatus⟩ := column_eq_some_iff.mp hused
  obtain ⟨a, rfl, -⟩ := row_of_fresh h hrow hsmall
  cases hstatus

/-- **Marks that are known are made in a new table** without a fault.  A page is in use if the last
of them that concerns it says so. -/
theorem exists_markEach {region : Region} {new : Table} {marks : List Mark}
    (hpasses : firstFailure region.checks = none)
    (hnew : fresh region.start region.pages = .ok new) (hmarks : ∀ mark ∈ marks, mark.Fits)
    (s : σ) :
    ∃ counts table, (markEach region.start.pageNum (marks.map pure) new).Yields s
        (.ok (counts, table)) s ∧
      ∀ p : Page, p.toNat < region.pages →
        (table.IsUsed p ↔ Mark.LastUses marks (region.start.toNat / 4096 + p.toNat)) := by
  obtain ⟨-, -, -, hfits, hfew⟩ := Region.passes_iff.mp hpasses
  have htop := hfits.start_add_pages_le
  have hsize := size_of_fresh_eq_ok hnew
  have hroom : region.start.pageNum.toNat + new.size ≤ 2 ^ 52 := by
    rw [Addr.toNat_pageNum, hsize]
    omega
  obtain ⟨counts, table, hall, -, hused⟩ := exists_markAll hmarks hroom
  refine ⟨counts, table, ?_, ?_⟩
  · rw [markEach_map_pure]
    exact hall.apart s
  · intro p hp
    rw [hused p (by omega), Addr.toNat_pageNum]
    simp [not_isUsed_of_fresh hnew (by omega) p]

end Table

/-! ## 3. Installations -/

namespace Allocator

open Table

variable {region metadata : Region} {kind : SpaceKind} {config : Config} {size : Word}
  {granted : Option Region} {marks : List Mark} {memory : MemoryAccess σ} {s s₁ s₂ : σ}
  {reason : SetupError}

theorem filter_of_le (h : size.toNat ≤ metadata.size.toNat) :
    (some metadata).filter (size ≤ ·.size) = some metadata := by
  rw [Option.filter_eq_some_iff, decide_eq_true_eq, UInt64.le_iff_toNat_le]
  exact ⟨rfl, h⟩

theorem mod_alignment_eq_zero_iff {pointer : Word} :
    pointer % Descriptor.alignment = 0 ↔ pointer.toNat % 8 = 0 := by
  rw [← UInt64.toNat_inj, UInt64.toNat_mod]
  rfl

/-- **Memory that is not fit for a table** is refused before anything is done to it. -/
theorem yields_install_error (memory : MemoryAccess σ)
    (h : firstFailure (tableChecks memory.pointer size granted) = some reason)
    (usage : List (Action σ Mark)) :
    (install region kind config size granted usage memory).Yields s (.ok (.error reason)) s := by
  rw [install]
  cases granted with
  | none =>
    obtain rfl : SetupError.metadataUnavailable size = reason := Option.some.inj h
    exact Action.yields_pure _ s
  | some metadata =>
    rw [tableChecks] at h
    by_cases hsmall : metadata.size.toNat < size.toNat
    · rw [firstFailure_of_fails (by simpa using hsmall)] at h
      obtain rfl := Option.some.inj h
      have hfilter : (some metadata).filter (size ≤ ·.size) = none := by
        rw [Option.filter_some_eq_none, decide_eq_true_eq, UInt64.le_iff_toNat_le]
        omega
      rw [hfilter]
      exact Action.yields_pure _ s
    · rw [firstFailure_of_passes (by simpa using hsmall)] at h
      rw [filter_of_le (by omega)]
      by_cases hodd : (memory.pointer metadata.start).toNat % 8 = 0
      · rw [firstFailure_of_passes (by simpa using hodd)] at h
        cases h
      · rw [firstFailure_of_fails (by simpa using hodd)] at h
        obtain rfl := Option.some.inj h
        dsimp only
        rw [if_pos (mod_alignment_eq_zero_iff.not.mpr hodd)]
        exact Action.yields_pure _ s

/-- What is done with memory that is fit for a table. -/
theorem install_eq (kind : SpaceKind) (config : Config) (memory : MemoryAccess σ)
    (hfit : firstFailure (tableChecks memory.pointer size (some metadata)) = none)
    (usage : List (Action σ Mark)) :
    install region kind config size (some metadata) usage memory = (do
      let pages ← metadata.pageCount
      let num := metadata.start.pageNum
      .emit .info s!"page frame array allocated {pages} pages, beginning with page {num}"
      memory.setWritable metadata
      memory.zero metadata
      let table ← Table.fresh region.start (region.size / pageSize).toNat
      let (counts, table) ← Table.markEach region.start.pageNum usage table
      return .ok (← start region kind config metadata table, counts)) := by
  rw [tableChecks_pass_iff] at hfit
  rw [install, filter_of_le hfit.1]
  dsimp only
  rw [if_neg (not_not.mpr (mod_alignment_eq_zero_iff.mpr hfit.2))]

/-- **Memory that is fit for a table** is made writable, cleared, and filled with rows.  A page is
in use if the last of the marks that concern it says so. -/
theorem exists_install (kind : SpaceKind) (config : Config) (memory : MemoryAccess σ)
    (hpasses : firstFailure region.checks = none)
    (hfit : firstFailure (tableChecks memory.pointer size (some metadata)) = none)
    (hmetadata : metadata.Fits) (hmarks : ∀ mark ∈ marks, mark.Fits)
    (hwritable : (memory.setWritable metadata).Yields s (.ok ()) s₁)
    (hzero : (memory.zero metadata).Yields s₁ (.ok ()) s₂) :
    ∃ counts table pool,
      (install region kind config size (some metadata) (marks.map pure) memory).Yields s
        (.ok (.ok (⟨region, kind, metadata, config, pool⟩, counts))) s₂ ∧
      Pool.Started region table pool ∧
      ∀ p : Page, p.toNat < region.pages →
        (table.IsUsed p ↔ Mark.LastUses marks (region.start.toNat / 4096 + p.toNat)) := by
  have hfits := (Region.passes_iff.mp hpasses).2.2.2.1
  obtain ⟨new, hnew⟩ := exists_fresh (hfits.start_add_pages_le)
  obtain ⟨counts, table, hmarked, hused⟩ := exists_markEach hpasses hnew hmarks s₂
  obtain ⟨pool, hstart, hstarted⟩ := exists_start kind config metadata hpasses hnew
    (map_unmarked_of_markEach hmarked) s₂
  obtain ⟨count, hcount, -⟩ := hmetadata.exists_pageCount
  refine ⟨counts, table, pool, ?_, hstarted, hused⟩
  rw [install_eq kind config memory hfit]
  refine .bind (Action.yields_liftM hcount s) (.bind (Action.yields_emit _ _ s)
    (.bind hwritable (.bind hzero ?_)))
  rw [Region.toNat_size_div]
  exact .bind (Action.yields_liftM hnew s₂) (.bind hmarked (.bind hstart
    (Action.yields_pure _ s₂)))

/-- A fault while memory is prepared is the end of the installation. -/
theorem yields_install_fault {fault : Fault} (memory : MemoryAccess σ)
    (hfit : firstFailure (tableChecks memory.pointer size (some metadata)) = none)
    (hmetadata : metadata.Fits)
    (hfault : (do memory.setWritable metadata; memory.zero metadata).Yields s (.error fault) s₁)
    (usage : List (Action σ Mark)) :
    (install region kind config size (some metadata) usage memory).Yields s (.error fault) s₁ := by
  obtain ⟨count, hcount, -⟩ := hmetadata.exists_pageCount
  rw [install_eq kind config memory hfit]
  refine .bind (Action.yields_liftM hcount s) (.bind (Action.yields_emit _ _ s) ?_)
  rcases hfault.of_bind with ⟨_, hwritable, heq⟩ | ⟨_, s₂, hwritable, hzero⟩
  · cases heq
    exact .bind_error hwritable
  · exact .bind hwritable (.bind_error hzero)

/-! ## 4. Setups -/

/-- **The allocator is as the arguments of its setup describe it.** -/
structure Founded (region : Region) (kind : SpaceKind) (config : Config) (metadata : Region)
    (marks : List Mark) (allocator : Allocator) : Prop where
  region_eq : allocator.region = region
  kind_eq : allocator.kind = kind
  config_eq : allocator.config = config
  metadata_eq : allocator.metadata = metadata
  totalPages : allocator.totalPages.toNat = region.pages
  size : allocator.pool.table.size = region.pages
  address : ∀ (i : Nat) (row : Descriptor), allocator.pool.table[i]? = some row →
    row.address.toNat = region.start.toNat + i * 4096
  /-- What the last mark says that concerns a page holds; otherwise the page is free. -/
  isUsed_iff : ∀ p : Page, p.toNat < region.pages →
    (allocator.pool.table.IsUsed p ↔
      Mark.LastUses marks (region.start.toNat / 4096 + p.toNat))
  isFree_iff : ∀ p : Page, p.toNat < region.pages →
    (allocator.pool.table.IsFree p ↔
      ¬ Mark.LastUses marks (region.start.toNat / 4096 + p.toNat))
  /-- The free list is a ring, in both directions, of the free pages in ascending order. -/
  threads : allocator.pool.free.Threads allocator.pool.table allocator.pool.table.freePages
  walk : allocator.pool.free.pages allocator.pool.table allocator.pool.table.size =
    .ok allocator.pool.table.freePages
  ascending : allocator.pool.table.freePages.Pairwise (· < ·)
  mem_freePages_iff : ∀ p, p ∈ allocator.pool.table.freePages ↔ allocator.pool.table.IsFree p
  counted : allocator.pool.freePages.toNat = allocator.pool.table.freeCount
  allocations : allocator.pool.allocations = 0
  compactions : allocator.pool.compactions = 0
  /-- No row belongs to an allocation, and that of a page in use is on no list. -/
  bare : ∀ (i : Nat) (row : Descriptor), allocator.pool.table[i]? = some row →
    row.tag = .empty ∧ row.compound = .nil ∧ (row.status = .used → row.link = .none)

/-- An allocator with a pool that was started from a table with these marks is founded. -/
theorem founded_of_started {table : Table} {pool : Pool}
    (h : Pool.Started region table pool)
    (hused : ∀ p : Page, p.toNat < region.pages →
      (table.IsUsed p ↔ Mark.LastUses marks (region.start.toNat / 4096 + p.toNat))) :
    Founded region kind config metadata marks ⟨region, kind, metadata, config, pool⟩ := by
  have hsize : pool.table.size = region.pages := h.links.size_eq.trans h.size
  have hkept := h.wellKept
  have hsmall := Pool.le_of_small hkept.small
  have hrow : ∀ (i : Nat) (row : Descriptor), pool.table[i]? = some row →
      row.tag = .empty ∧ row.compound = .nil ∧ (row.status = .used → row.link = .none) ∧
        row.address.toNat = region.start.toNat + i * 4096 := by
    intro i row hi
    have hlt := (Array.getElem?_eq_some_iff.mp hi).1
    have hnat : i.toUInt32.toNat = i := toNat_toUInt32 (by omega)
    rw [← hnat] at hi
    have hbare := h.row_bare hi
    rwa [hnat] at hbare
  have hused' : ∀ p : Page, p.toNat < region.pages →
      (pool.table.IsUsed p ↔ Mark.LastUses marks (region.start.toNat / 4096 + p.toNat)) := by
    intro p hp
    rw [h.isUsed_iff]
    exact hused p hp
  refine ⟨rfl, rfl, rfl, rfl, region.toNat_size_div, hsize, ?_, hused', ?_, h.threads,
    h.threads.pages_eq h.threads.length_le, pairwise_freeBelow _ hsmall, ?_,
    hkept.counted_freeCount, h.allocations, h.compactions, ?_⟩
  · intro i row hi
    exact (hrow i row hi).2.2.2
  · intro p hp
    have hlt : p.toNat < pool.table.size := hsize.symm ▸ hp
    rw [← hused' p hp]
    constructor
    · exact IsFree.not_isUsed
    · intro hnot
      exact (isFree_or_isUsed hlt).resolve_right hnot
  · exact hkept.mem_iff
  · intro i row hi
    obtain ⟨htag, hcompound, hlink, -⟩ := hrow i row hi
    exact ⟨htag, hcompound, hlink⟩

/-- **An allocator is founded** in memory that is fit for its table, once the memory is prepared.
The marks are known beforehand and each is a region that fits, so none of them ends the setup. The
memory is made writable and cleared before the table is written. -/
theorem exists_founded (kind : SpaceKind) (config : Config) (hmemory : memory.Prepares)
    (hpasses : firstFailure region.checks = none)
    (hfit : firstFailure (tableChecks memory.pointer size (some metadata)) = none)
    (hmetadata : metadata.Fits) (hmarks : ∀ mark ∈ marks, mark.Fits) (s : σ)
    (calls : List SetupCall) :
    ∃ allocator counts s', (install region kind config size (some metadata) (marks.map pure)
        memory.noted).Yields (s, calls) (.ok (.ok (allocator, counts)))
        (s', calls ++ [.madeWritable metadata] ++ [.cleared metadata]) ∧
      Founded region kind config metadata marks allocator := by
  obtain ⟨s₁, s₂, hwritable, hzero⟩ := hmemory.exists_noted hmetadata s calls
  obtain ⟨counts, table, pool, hinstall, hstarted, hused⟩ :=
    exists_install kind config memory.noted hpasses hfit hmetadata hmarks hwritable hzero
  exact ⟨_, counts, s₂, hinstall, founded_of_started hstarted hused⟩

/-- What a setup ends with, and the calls that it makes, where `granted` is what is answered when
memory for the table is asked for. -/
inductive SetupAnswer (region : Region) (kind : SpaceKind) (config : Config)
    (pointer : Addr → Word) (granted : Option Region) (marks : List Mark) :
    Except SetupError (Allocator × List Word) → List SetupCall → Prop
  /-- The region is not in order, and nothing is asked for. -/
  | unmanageable {reason : SetupError} :
      firstFailure region.checks = some reason →
      SetupAnswer region kind config pointer granted marks (.error reason) []
  /-- The memory is not in order, and nothing is done to it. -/
  | unplaced {reason : SetupError} :
      firstFailure region.checks = none →
      firstFailure (tableChecks pointer region.tableSize granted) = some reason →
      SetupAnswer region kind config pointer granted marks (.error reason)
        [.asked region.tableSize]
  | founded {metadata : Region} {allocator : Allocator} {counts : List Word} :
      firstFailure region.checks = none →
      firstFailure (tableChecks pointer region.tableSize granted) = none →
      granted = some metadata →
      Founded region kind config metadata marks allocator →
      SetupAnswer region kind config pointer granted marks (.ok (allocator, counts))
        [.asked region.tableSize, .madeWritable metadata, .cleared metadata]

/-- A region that is not in order is refused before anything is asked for. -/
theorem yields_setup_error (h : firstFailure region.checks = some reason)
    (source : Word → Action σ (Option Region)) (usage : List (Action σ Mark))
    (memory : MemoryAccess σ) (s : σ) :
    (setup region kind config source usage memory).Yields s (.ok (.error reason)) s := by
  have hadmit := region.admit_eq
  rw [h] at hadmit
  exact .bind (Action.yields_liftM hadmit s) (Action.yields_pure _ s)

/-- A setup of a region that is in order ends as the installation does, in what is granted. -/
theorem yields_setup_of_passes {source : Word → Action σ (Option Region)}
    {usage : List (Action σ Mark)} {r : Except Fault (Except SetupError (Allocator × List Word))}
    (h : firstFailure region.checks = none)
    (hsource : (source region.tableSize).Yields s (.ok granted) s₁)
    (hinstall : (install region kind config region.tableSize granted usage memory).Yields s₁ r s₂) :
    (setup region kind config source usage memory).Yields s r s₂ := by
  have hadmit := region.admit_eq
  rw [h] at hadmit
  exact .bind (Action.yields_liftM hadmit s) (.bind hsource hinstall)

/-- **A setup establishes what its arguments describe,** or tells the first reason why not, and asks
of its surroundings what it needs and no more.  The region is looked at before memory is asked for,
and the memory before anything is done to it, so that what has been asked for is known from the
first check that fails. -/
theorem exists_setupAnswer (region : Region) (kind : SpaceKind) (config : Config)
    {source : Word → Action σ (Option Region)} {answer : Word → Option Region}
    (hsource : ∀ size, ∃ s', (source size).Yields s (.ok (answer size)) s')
    (hanswer : ∀ size, ∀ metadata ∈ answer size, metadata.Fits)
    (hmemory : memory.Prepares) (hmarks : ∀ mark ∈ marks, mark.Fits) :
    ∃ result s' calls,
      (setup region kind config (fun size => (SetupCall.asked size).noted (source size))
        (marks.map pure) memory.noted).Yields (s, []) (.ok result) (s', calls) ∧
      SetupAnswer region kind config memory.pointer (answer region.tableSize) marks result
        calls := by
  cases hregion : firstFailure region.checks with
  | some reason =>
    exact ⟨_, s, [], yields_setup_error hregion _ _ _ _, .unmanageable hregion⟩
  | none =>
    obtain ⟨s₁, hsource⟩ := hsource region.tableSize
    have hasked := (SetupCall.asked region.tableSize).yields_noted hsource []
    cases htable : firstFailure (tableChecks memory.pointer region.tableSize
        (answer region.tableSize)) with
    | some reason =>
      exact ⟨_, s₁, _, yields_setup_of_passes hregion hasked
        (yields_install_error memory.noted htable _), .unplaced hregion htable⟩
    | none =>
      cases hgranted : answer region.tableSize with
      | none =>
        rw [hgranted] at htable
        cases htable
      | some metadata =>
        rw [hgranted] at htable hasked
        obtain ⟨allocator, counts, s₂, hinstall, hfounded⟩ := exists_founded kind config hmemory
          hregion htable (hanswer region.tableSize metadata hgranted) hmarks s₁ _
        exact ⟨_, s₂, _, yields_setup_of_passes hregion hasked hinstall,
          .founded hregion htable rfl hfounded⟩

/-- Three pages of which the first holds the table, and the second was in use for a while. -/
theorem exists_setupAnswer_threePages :
    ∃ result s' calls,
      (setup ⟨0x1000, 0x3000⟩ .physical {}
        (fun size => (SetupCall.asked size).noted (pure (some ⟨0x1000, 0x1000⟩)))
        ([.used ⟨0x1000, 0x1010⟩, .free ⟨0x2fff, 1⟩].map pure)
        (DirectMap.access ⟨0x40⟩).noted).Yields ((), []) (.ok result) (s', calls) ∧
      SetupAnswer ⟨0x1000, 0x3000⟩ .physical {} (DirectMap.pointer ⟨0x40⟩)
        (some ⟨0x1000, 0x1000⟩) [.used ⟨0x1000, 0x1010⟩, .free ⟨0x2fff, 1⟩] result calls :=
  have hsource : ∀ _ : Word, ∃ s', (pure (some ⟨0x1000, 0x1000⟩) :
      Action Unit (Option Region)).Yields () (.ok (some ⟨0x1000, 0x1000⟩)) s' :=
    fun _ => ⟨_, Action.yields_pure _ _⟩
  exists_setupAnswer ⟨0x1000, 0x3000⟩ .physical {} hsource
    (fun _ _ h => Option.some.inj h ▸ by decide) (DirectMap.prepares _)
    (by simp [Mark.Fits, Region.Fits])

end Allocator

end PageFrames
