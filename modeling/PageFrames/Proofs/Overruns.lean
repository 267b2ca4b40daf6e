/-
# Regions that run past the top

Of all the regions that a setup is given, the one to be managed is the only one that is checked for
running past the top of the address space.  The pages of the others are counted: those of the region
that holds the table for the log, and those of a marked region in order to mark them.  A region that
runs past the top has no last page to count to, so a setup that comes so far ends with a fault,
where pages outside the region to be managed should be passed over.

There is no other fault that a setup comes to by itself, and none at all if its regions end at the
top or before it (`Allocator.exists_setupEnd`).  The fault over the table comes before anything is
done to the memory; the one over a mark comes when the memory has been cleared.
-/
import PageFrames.Proofs.Founding

namespace PageFrames

variable {σ : Type}

/-! ## 1. Marks -/

namespace Table

variable {firstNum : Word} {table : Table}

/-- A mark that runs past the top is not made. -/
theorem yields_mark_error {mark : Mark} (h : ¬ mark.Fits) :
    (Table.mark firstNum mark).Yields table (.error .addOverflow) table := by
  have hregion : ∀ {region : Region} (status : Status), ¬ region.Fits →
      (markRegion firstNum status region).Yields table (.error .addOverflow) table :=
    fun _ hnot => .bind (Action.yields_peek _ _)
      (.bind_error (Action.yields_liftM (Region.pageCount_of_not_fits hnot) _))
  cases mark with
  | used region => exact hregion .used h
  | free region => exact hregion .free h
  | total => exact absurd trivial h

/-- **Marks are made up to the first one that runs past the top,** if there is one. -/
theorem exists_markAll_error {marks : List Mark} (h : ∃ mark ∈ marks, ¬ mark.Fits)
    (hroom : firstNum.toNat + table.size ≤ 2 ^ 52) :
    ∃ table', (markAll firstNum marks).Yields table (.error .addOverflow) table' := by
  induction marks generalizing table with
  | nil =>
    obtain ⟨mark, hmem, -⟩ := h
    exact absurd hmem List.not_mem_nil
  | cons first rest ih =>
    by_cases hfirst : first.Fits
    · obtain ⟨count, table₁, hmark, hsize, -⟩ := exists_mark hfirst hroom
      have hrest : ∃ mark ∈ rest, ¬ mark.Fits := by
        obtain ⟨mark, hmem, hnot⟩ := h
        rcases List.mem_cons.mp hmem with rfl | hmem
        · exact absurd hfirst hnot
        · exact ⟨mark, hmem, hnot⟩
      obtain ⟨table', hmarks⟩ := ih hrest (hsize.symm ▸ hroom)
      exact ⟨table', .bind hmark (.bind_error hmarks)⟩
    · exact ⟨table, .bind_error (yields_mark_error hfirst)⟩

end Table

/-! ## 2. Installations -/

namespace Allocator

open Table

variable {region metadata : Region} {kind : SpaceKind} {config : Config} {size : Word}
  {marks : List Mark} {memory : MemoryAccess σ} {s s₁ s₂ : σ}

/-- **Memory that runs past the top** is not even made writable. -/
theorem yields_install_overrun (kind : SpaceKind) (config : Config) (memory : MemoryAccess σ)
    (hfit : firstFailure (tableChecks memory.pointer size (some metadata)) = none)
    (hover : ¬ metadata.Fits) (usage : List (Action σ Mark)) (s : σ) :
    (install region kind config size (some metadata) usage memory).Yields s
      (.error .addOverflow) s := by
  rw [install_eq kind config memory hfit]
  exact .bind_error (Action.yields_liftM (Region.pageCount_of_not_fits hover) s)

/-- **A mark that runs past the top** ends an installation after the memory has been cleared. -/
theorem yields_install_mark_error (kind : SpaceKind) (config : Config) (memory : MemoryAccess σ)
    (hpasses : firstFailure region.checks = none)
    (hfit : firstFailure (tableChecks memory.pointer size (some metadata)) = none)
    (hmetadata : metadata.Fits) (hover : ∃ mark ∈ marks, ¬ mark.Fits)
    (hwritable : (memory.setWritable metadata).Yields s (.ok ()) s₁)
    (hzero : (memory.zero metadata).Yields s₁ (.ok ()) s₂) :
    (install region kind config size (some metadata) (marks.map pure) memory).Yields s
      (.error .addOverflow) s₂ := by
  have htop := (Region.passes_iff.mp hpasses).2.2.2.1.start_add_pages_le
  obtain ⟨new, hnew⟩ := exists_fresh htop
  have hroom : region.start.pageNum.toNat + new.size ≤ 2 ^ 52 := by
    rw [Addr.toNat_pageNum, size_of_fresh_eq_ok hnew]
    omega
  obtain ⟨table', hmarks⟩ := exists_markAll_error hover hroom
  have hmarked : (markEach region.start.pageNum (marks.map pure) new).Yields s₂
      (.error .addOverflow) s₂ := by
    rw [markEach_map_pure]
    exact hmarks.apart_error s₂
  obtain ⟨count, hcount, -⟩ := hmetadata.exists_pageCount
  rw [install_eq kind config memory hfit]
  refine .bind (Action.yields_liftM hcount s) (.bind (Action.yields_emit _ _ s)
    (.bind hwritable (.bind hzero ?_)))
  rw [Region.toNat_size_div]
  exact .bind (Action.yields_liftM hnew s₂) (.bind_error hmarked)

/-! ## 3. Setups -/

/-- What a setup comes to, and the calls that it makes, where `granted` is what is answered when
memory for the table is asked for, and any of the regions may run past the top. -/
inductive SetupEnd (region : Region) (kind : SpaceKind) (config : Config)
    (pointer : Addr → Word) (granted : Option Region) (marks : List Mark) :
    Except Fault (Except SetupError (Allocator × List Word)) → List SetupCall → Prop
  /-- No region runs past the top, or the setup does not come so far as to count its pages. -/
  | answered {result : Except SetupError (Allocator × List Word)} {calls : List SetupCall} :
      (firstFailure region.checks = none →
        firstFailure (tableChecks pointer region.tableSize granted) = none →
          ∀ metadata ∈ granted, metadata.Fits ∧ ∀ mark ∈ marks, mark.Fits) →
      SetupAnswer region kind config pointer granted marks result calls →
      SetupEnd region kind config pointer granted marks (.ok result) calls
  | tableOverrun {metadata : Region} :
      firstFailure region.checks = none →
      firstFailure (tableChecks pointer region.tableSize granted) = none →
      granted = some metadata → ¬ metadata.Fits →
      SetupEnd region kind config pointer granted marks (.error .addOverflow)
        [.asked region.tableSize]
  | markOverrun {metadata : Region} :
      firstFailure region.checks = none →
      firstFailure (tableChecks pointer region.tableSize granted) = none →
      granted = some metadata → metadata.Fits → (∃ mark ∈ marks, ¬ mark.Fits) →
      SetupEnd region kind config pointer granted marks (.error .addOverflow)
        [.asked region.tableSize, .madeWritable metadata, .cleared metadata]

/-- **A setup is answered, or a region that it counts runs past the top.**  The last address of such
a region does not fit a word, so it has no page count.  The count is asked for twice: of the memory
that was granted, to be told to the log, and of every region that is marked.  Where memory can be
granted and prepared, a setup can fail at nothing else. -/
theorem exists_setupEnd (region : Region) (kind : SpaceKind) (config : Config)
    {source : Word → Action σ (Option Region)} {answer : Word → Option Region}
    (hsource : ∀ size, ∃ s', (source size).Yields s (.ok (answer size)) s')
    (hmemory : memory.Prepares) (marks : List Mark) :
    ∃ result s' calls,
      (setup region kind config (fun size => (SetupCall.asked size).noted (source size))
        (marks.map pure) memory.noted).Yields (s, []) result (s', calls) ∧
      SetupEnd region kind config memory.pointer (answer region.tableSize) marks result calls := by
  cases hregion : firstFailure region.checks with
  | some reason =>
    exact ⟨_, s, [], yields_setup_error hregion _ _ _ _,
      .answered (by simp [hregion]) (.unmanageable hregion)⟩
  | none =>
    obtain ⟨s₁, hsource⟩ := hsource region.tableSize
    have hasked := (SetupCall.asked region.tableSize).yields_noted hsource []
    cases htable : firstFailure (tableChecks memory.pointer region.tableSize
        (answer region.tableSize)) with
    | some reason =>
      exact ⟨_, s₁, _, yields_setup_of_passes hregion hasked
        (yields_install_error memory.noted htable _),
        .answered (by simp [htable]) (.unplaced hregion htable)⟩
    | none =>
      cases hgranted : answer region.tableSize with
      | none =>
        rw [hgranted] at htable
        cases htable
      | some metadata =>
        rw [hgranted] at htable hasked
        by_cases hmetadata : metadata.Fits
        case neg =>
          exact ⟨_, s₁, _, yields_setup_of_passes hregion hasked
            (yields_install_overrun kind config memory.noted htable hmetadata _ _),
            .tableOverrun hregion htable rfl hmetadata⟩
        by_cases hover : ∃ mark ∈ marks, ¬ mark.Fits
        · obtain ⟨s₂, s₃, hwritable, hzero⟩ := hmemory.exists_noted hmetadata s₁ _
          exact ⟨_, s₃, _, yields_setup_of_passes hregion hasked
            (yields_install_mark_error kind config memory.noted hregion htable hmetadata hover
              hwritable hzero), .markOverrun hregion htable rfl hmetadata hover⟩
        · have hmarks : ∀ mark ∈ marks, mark.Fits := by simpa using hover
          obtain ⟨allocator, counts, s₂, hinstall, hfounded⟩ :=
            exists_founded kind config hmemory hregion htable hmetadata hmarks s₁ _
          refine ⟨_, s₂, _, yields_setup_of_passes hregion hasked hinstall,
            .answered ?_ (.founded hregion htable rfl hfounded)⟩
          rintro - - _ ⟨⟩
          exact ⟨hmetadata, hmarks⟩

/-- Three pages, of which the first holds the table, and a mark on the last page of the address
space and beyond it. -/
theorem exists_setupEnd_threePages :
    ∃ result s' calls,
      (setup ⟨0x1000, 0x3000⟩ .physical {}
        (fun size => (SetupCall.asked size).noted (pure (some ⟨0x1000, 0x1000⟩)))
        ([.used ⟨0x1000, 0x1000⟩, .used ⟨0xfffffffffffff000, 0x2000⟩].map pure)
        DirectMap.identity.access.noted).Yields ((), []) result (s', calls) ∧
      SetupEnd ⟨0x1000, 0x3000⟩ .physical {} DirectMap.identity.pointer
        (some ⟨0x1000, 0x1000⟩) [.used ⟨0x1000, 0x1000⟩, .used ⟨0xfffffffffffff000, 0x2000⟩]
        result calls :=
  have hsource : ∀ _ : Word, ∃ s', (pure (some ⟨0x1000, 0x1000⟩) :
      Action Unit (Option Region)).Yields () (.ok (some ⟨0x1000, 0x1000⟩)) s' :=
    fun _ => ⟨_, Action.yields_pure _ _⟩
  exists_setupEnd ⟨0x1000, 0x3000⟩ .physical {} hsource (DirectMap.prepares _) _

/-- A mark that touches none of the pages keeps the setup from an answer if it runs past the top,
and so does memory for the table that does. -/
theorem setup_not_answered_past_top :
    (∀ answer, ((setup ⟨0x1000, 0x3000⟩ .physical {} (fun _ => pure (some ⟨0x1000, 0x1000⟩))
      [pure (.used ⟨0xfffffffffffff000, 0x2000⟩)] DirectMap.identity.access).run ()).result ≠
        .ok answer) ∧
    ∀ answer, ((setup ⟨0x1000, 0x3000⟩ .physical {}
      (fun _ => pure (some ⟨0xfffffffffffff000, 0x2000⟩)) []
      DirectMap.identity.access).run ()).result ≠ .ok answer := by
  have hmark : ((setup ⟨0x1000, 0x3000⟩ .physical {} (fun _ => pure (some ⟨0x1000, 0x1000⟩))
      [pure (.used ⟨0xfffffffffffff000, 0x2000⟩)] DirectMap.identity.access).run ()).result =
        .error .addOverflow := by decide +kernel
  have htable : ((setup ⟨0x1000, 0x3000⟩ .physical {}
      (fun _ => pure (some ⟨0xfffffffffffff000, 0x2000⟩)) []
      DirectMap.identity.access).run ()).result = .error .addOverflow := by decide +kernel
  refine ⟨?_, ?_⟩
  · intro answer hanswer
    rw [hmark] at hanswer
    cases hanswer
  · intro answer hanswer
    rw [htable] at hanswer
    cases hanswer

end Allocator

end PageFrames
