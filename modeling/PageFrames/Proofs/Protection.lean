/-
# What is never handed out

When physical memory has been set up, the pages in use are those that the bump allocator had handed
out by then and those that were reserved.  The table of the physical allocator is among the former,
because its memory is handed out before the marks are made (`PhysicalMemory.of_setup`).

From then on these pages, and with them those of the tables of all address spaces, are never handed
out, whatever is done on the machine (`Machine.protected_run`).  The one thing that has to be ruled
out is that somebody frees the pages of a table.
-/
import PageFrames.Proofs.Bump
import PageFrames.Proofs.Machine

namespace PageFrames

open Table

/-! ## 1. Marks for what is in use -/

/-- If every mark says that its pages are in use, it does not matter which is the last. -/
theorem Mark.lastUses_map_used_iff {regions : List Region} {num : Nat} :
    Mark.LastUses (regions.map .used) num ↔ ∃ region ∈ regions, region.Touches num := by
  induction regions with
  | nil => simp [Mark.not_lastUses_nil]
  | cons region regions ih =>
    have hmarks : (∀ mark ∈ regions.map Mark.used, ¬ mark.Touches num) ↔
        ¬ ∃ region ∈ regions, region.Touches num := by
      simp [Mark.Touches]
    have huses : (Mark.used region).Uses num ↔ region.Touches num := Iff.rfl
    rw [List.map_cons, Mark.lastUses_cons_iff, ih, hmarks, huses, List.exists_mem_cons_iff]
    by_cases hrest : ∃ region ∈ regions, region.Touches num
    · exact iff_of_true (.inl hrest) (.inr hrest)
    · simp only [hrest, not_false_eq_true, true_and, false_or, or_false]

/-- A mark that is found without changing anything could as well have been known. -/
theorem Table.yields_markEach_cons {σ : Type} {firstNum : Word} {find : Action σ Mark} {mark : Mark}
    {rest : List (Action σ Mark)} {table : Table} {s s' : σ}
    {r : Except Fault (List Word × Table)} (hfind : find.Yields s (.ok mark) s)
    (h : (markEach firstNum (pure mark :: rest) table).Yields s r s') :
    (markEach firstNum (find :: rest) table).Yields s r s' := by
  rw [markEach, Action.pure_bind] at h
  exact .bind hfind h

/-! ## 2. The setup -/

/-- Preparing memory does nothing to the bump allocator but take more pages from it. -/
structure MemoryAccess.Draws (memory : MemoryAccess Bump) : Prop where
  setWritable : ∀ {region bump r bump'}, (memory.setWritable region).Yields bump r bump' →
    bump.Drawn bump'
  zero : ∀ {region bump r bump'}, (memory.zero region).Yields bump r bump' → bump.Drawn bump'

/-- Preparing memory that does not concern the bump allocator takes nothing from it. -/
theorem MemoryAccess.Neutral.draws {memory : MemoryAccess Bump} (h : memory.Neutral) :
    memory.Draws where
  setWritable hyields := by
    obtain ⟨r, hneutral⟩ := h.setWritable _ _
    rw [(hyields.unique hneutral).2]
    exact .refl
  zero hyields := by
    obtain ⟨r, hneutral⟩ := h.zero _ _
    rw [(hyields.unique hneutral).2]
    exact .refl

namespace PhysicalMemory

variable {installed : Word} {reserved : List Region} {config : Config} {memory : MemoryAccess Bump}
  {bump bump' : Bump} {physical : PhysicalMemory}

/-- The steps of a setup of physical memory that comes to an allocator.  What has been handed out is
marked after the memory for the table has been taken and prepared. -/
theorem exists_of_setup (hmemory : memory.Draws)
    (h : (setup installed reserved config memory).Yields bump (.ok (.ok physical)) bump') :
    ∃ (size bytes : Word) (metadata : Region) (new table : Table) (counts : List Word)
      (pool : Pool) (bump₁ bump₂ : Bump),
      firstFailure (⟨0, size⟩ : Region).checks = none ∧
      (Bump.reserve bytes).Yields bump (.ok (some metadata)) bump₁ ∧
      bump₁.Drawn bump₂ ∧ fresh 0 (⟨0, size⟩ : Region).pages = .ok new ∧
      (markEach (Addr.pageNum 0) (Bump.mark :: reserved.map fun region => pure (.used region))
        new).Yields bump₂ (.ok (counts, table)) bump' ∧
      Pool.Started ⟨0, size⟩ table pool ∧
      physical = ⟨⟨0, size⟩, .physical, metadata, config, pool⟩ := by
  obtain ⟨size, s₁, halign, h⟩ := h.of_bind_ok
  obtain rfl : bump = s₁ := halign.2
  obtain ⟨answer, s₂, hset, h⟩ := h.of_bind_ok
  cases answer with
  | error reason => cases h.1
  | ok made =>
    obtain ⟨allocator, counts⟩ := made
    obtain ⟨physical', s₃, hof, hresult, hend⟩ := h.of_bind_ok
    cases hresult
    obtain rfl : s₂ = s₃ := hof.2
    obtain rfl : s₂ = bump' := hend
    obtain ⟨granted, bump₁, hpasses, hreserve, hinstall⟩ := Allocator.of_setup hset
    obtain ⟨metadata, new, table, pool, s₄, bump₂, rfl, -, hwritable, hzero, hnew, hmarks, hstarted,
      rfl⟩ := Allocator.of_install hpasses hinstall
    exact ⟨size, _, metadata, new, table, counts, pool, bump₁, bump₂, hpasses, hreserve,
      (hmemory.setWritable hwritable).trans (hmemory.zero hzero), hnew, hmarks, hstarted,
      (Except.ok.inj hof.1).symm⟩

/-- **After the setup of physical memory** its table lies in what has been handed out, and the pages
are in use that this or one of the reserved regions touches. -/
theorem of_setup (hbump : bump.Reached) (hmemory : memory.Draws)
    (hreserved : ∀ region ∈ reserved, region.Fits)
    (h : (setup installed reserved config memory).Yields bump (.ok (.ok physical)) bump') :
    ∃ used table, bump'.used = .ok used ∧
      (∀ a, physical.allocator.metadata.contains a = true → used.contains a = true) ∧
      physical.allocator.region.start = 0 ∧ physical.allocator.config = config ∧
      Pool.Started physical.allocator.region table physical.allocator.pool ∧
      ∀ p : Page, p.toNat < physical.allocator.region.pages →
        (table.IsUsed p ↔ ∃ region ∈ used :: reserved, region.Touches p.toNat) := by
  obtain ⟨size, bytes, metadata, new, table, counts, pool, bump₁, bump₂, hpasses, hreserve, hdrawn,
    hnew, hmarks, hstarted, rfl⟩ := exists_of_setup hmemory h
  -- the mark for what has been handed out is found when the memory for the table is part of it
  obtain ⟨hstart, -, hpiece⟩ := Bump.of_allocate hreserve
  obtain ⟨hfirst, hlast⟩ := hpiece metadata rfl
  obtain ⟨hstart', hle'⟩ := hdrawn.start_eq_and_le
  have hreached : bump₂.Reached := hbump.drawn (.head ⟨_, _, hreserve⟩ hdrawn)
  obtain ⟨used, hused, hlow, hhigh⟩ := hreached.exists_used
  have hmark : Bump.mark.Yields bump₂ (.ok (.used used)) bump₂ :=
    .bind (Action.yields_look hused) (Action.yields_pure _ _)
  have hfits : used.Fits := by
    have hlt := bump₂.next.toNat_lt
    rw [Region.Fits]
    omega
  have hall : ∀ mark ∈ (used :: reserved).map Mark.used, mark.Fits := by
    simpa [Mark.Fits] using ⟨hfits, hreserved⟩
  obtain ⟨counts', table', hmarked, htable⟩ := exists_markEach hpasses hnew hall bump₂
  obtain ⟨heq, rfl⟩ := (yields_markEach_cons hmark hmarked).unique
    (by simpa [List.map_map, Function.comp_def] using hmarks)
  obtain rfl : table' = table := (Prod.mk.inj (Except.ok.inj heq)).2
  refine ⟨used, table', hused, ?_, rfl, rfl, hstarted, ?_⟩
  · intro a hin
    have hbelow : used.start.toNat ≤ metadata.start.toNat := by
      rw [hlow, hstart', hstart, hfirst]
      exact hbump.start_le
    obtain ⟨hmin, hmax⟩ := Region.contains_iff.mp hin
    exact Region.contains_iff.mpr ⟨hbelow.trans hmin, by dsimp only at hmax; omega⟩
  · intro p hp
    rw [htable p hp, Mark.lastUses_map_used_iff]
    simp

end PhysicalMemory

/-! ## 3. Runs -/

namespace Machine

variable {installed : Word} {reserved : List Region} {config : Config} {memory : MemoryAccess Bump}
  {bump bump' : Bump} {physical : PhysicalMemory} {fixed : List Region} {machine : Machine}

/-- **What holds something is in use and stays with whom it belongs to:** the regions `fixed`, and
the tables of the address spaces. -/
structure Protected (fixed : List Region) (machine : Machine) : Prop where
  isUsed : ∀ region ∈ fixed ++ machine.tables, ∀ p, machine.memory.Touches region p →
    machine.memory.allocator.pool.table.IsUsed p
  /-- No two tables have a page in common. -/
  apart : machine.tables.Pairwise fun a b =>
    ∀ p, machine.memory.Touches a p → ¬ machine.memory.Touches b p
  /-- No table has a page in common with what is fixed. -/
  apart_fixed : ∀ region ∈ fixed, ∀ table ∈ machine.tables, ∀ p, machine.memory.Touches region p →
    ¬ machine.memory.Touches table p
  /-- No page that somebody is granted next is one of these. -/
  unshared : ∀ step, machine.Allows step → ∀ page,
    (step.perform.run machine).result = .ok (some page) → ∃ pages,
      (step.after machine).memory.allocator.chain page = (pages, true) ∧ page ∈ pages ∧
      ∀ p ∈ pages, ∀ region ∈ fixed ++ machine.tables, ¬ machine.memory.Touches region p

/-- What is guarded is protected. -/
theorem Guarded.protected (h : Guarded fixed machine) : Protected fixed machine where
  isUsed region hmem p htouches := h.isUsed ⟨region, hmem, htouches⟩
  apart := h.apart
  apart_fixed := by
    intro region hmem table htable p htouches htouches'
    obtain ⟨ys, hown, hiff⟩ := h.own table htable
    exact h.not_touches_of_allocation hown ((hiff p).mp htouches') region hmem htouches
  unshared := by
    intro step hallows page hpage
    obtain ⟨r, machine', hyields, hrespects⟩ := h.exists_step hallows
    obtain rfl : step.after machine = machine' := hyields.2
    obtain ⟨pages, hchain, hmem, hnot⟩ :=
      hrespects.unshared page (hyields.1.symm.trans hpage)
    exact ⟨pages, hchain, hmem, fun p hp region hregion htouches =>
      hnot p hp ⟨region, hregion, htouches⟩⟩

/-- **A machine whose physical memory has been set up** guards what is in use by then: its own
table, what the bump allocator has handed out, and the regions given as reserved. The table is drawn
from the bump allocator before its mark is read, so `used` holds the table as well. -/
theorem exists_guarded (hbump : bump.Reached) (hmemory : memory.Draws)
    (hreserved : ∀ region ∈ reserved, region.Fits) (hchecked : config.checkedFree = true)
    (h : (PhysicalMemory.setup installed reserved config memory).Yields bump (.ok (.ok physical))
      bump') :
    ∃ used, bump'.used = .ok used ∧
      Guarded (physical.allocator.metadata :: used :: reserved) { memory := physical } := by
  obtain ⟨used, table, hused, hmetadata, horigin, rfl, hstarted, htable⟩ :=
    PhysicalMemory.of_setup hbump hmemory hreserved h
  have hkept := hstarted.wellKept
  have hseated := Allocator.seated_of_started hstarted
  have hsize := hstarted.links.size_eq.trans hstarted.size
  refine ⟨used, hused, ⟨hseated, ⟨_, hkept⟩, hchecked⟩, horigin, ?_, by simp [tables],
    by simp [tables]⟩
  -- what the table touches has been handed out
  have hregion : ∀ region ∈ physical.allocator.metadata :: used :: reserved, ∀ p,
      physical.Touches region p → ∃ region ∈ used :: reserved, physical.Touches region p := by
    intro region hmem p htouches
    rcases List.mem_cons.mp hmem with rfl | hmem
    · obtain ⟨a, hin, hat⟩ := htouches
      exact ⟨used, List.mem_cons_self, a, hmetadata a hin, hat⟩
    · exact ⟨region, hmem, htouches⟩
  intro region hmem p htouches
  obtain ⟨region', hmem', htouches'⟩ := hregion region hmem p htouches
  obtain ⟨hlt, hnum⟩ :=
    (PhysicalMemory.touches_iff hseated (Pool.le_of_small hkept.small) horigin).mp htouches'
  have hin : physical.allocator.pool.table.IsUsed p :=
    (hstarted.isUsed_iff p).mpr ((htable p (hsize ▸ hlt)).mpr ⟨region', hmem', hnum⟩)
  obtain ⟨row, hrow, -⟩ := column_eq_some_iff.mp hin
  exact ⟨hin, column_eq_some_iff.mpr ⟨row, hrow, (hstarted.row_bare hrow).2.1⟩⟩

/-- **Protected memory is never handed out.**  After a setup of physical memory, the pages of its
own table, those that the bump allocator had handed out by then, those that were reserved, and the
pages of the table of every address space stay in use and apart, whatever is done.  No release gets
at them: those in use from the setup on are on no ring, and the ring of a table is given back only
by the name of one of its pages. -/
theorem protected_run (hbump : bump.Reached) (hmemory : memory.Draws)
    (hreserved : ∀ region ∈ reserved, region.Fits) (hchecked : config.checkedFree = true)
    (h : (PhysicalMemory.setup installed reserved config memory).Yields bump (.ok (.ok physical))
      bump')
    {steps : List Step} (hallows : ({ memory := physical } : Machine).AllowsAll steps) :
    ∃ used, bump'.used = .ok used ∧
      Protected (physical.allocator.metadata :: used :: reserved)
        (({ memory := physical } : Machine).run steps) ∧
      (({ memory := physical } : Machine).run steps).memory.allocator.region =
        physical.allocator.region := by
  obtain ⟨used, hused, hguarded⟩ := exists_guarded hbump hmemory hreserved hchecked h
  obtain ⟨hguarded', hregion⟩ := hguarded.run hallows
  exact ⟨used, hused, hguarded'.protected, hregion⟩

/-- Eight pages of physical memory after a setup in which the first page was reserved and the second
one was handed out for the table. -/
def eightPages : PhysicalMemory where
  allocator :=
    { region := ⟨0, 0x8000⟩
      kind := .physical
      metadata := ⟨0x1000, 0x1000⟩
      config := {}
      pool :=
        { table := #[⟨0, .used, .empty, .none, .nil⟩, ⟨0x1000, .used, .empty, .none, .nil⟩,
            ⟨0x2000, .free, .empty, ⟨7, 3⟩, .nil⟩, ⟨0x3000, .free, .empty, ⟨2, 4⟩, .nil⟩,
            ⟨0x4000, .free, .empty, ⟨3, 5⟩, .nil⟩, ⟨0x5000, .free, .empty, ⟨4, 6⟩, .nil⟩,
            ⟨0x6000, .free, .empty, ⟨5, 7⟩, .nil⟩, ⟨0x7000, .free, .empty, ⟨6, 2⟩, .nil⟩]
          free := { head := some 2 }
          freePages := 6 } }

/-- A reserved page is freed in vain, two pages are taken, a space is set up whose table comes
behind them, the two are given back, and pages are asked of the space. -/
def eightPagesSteps : List Step :=
  [.physical (.free 0), .demandAddr 2 {},
    .setupSpace ⟨0x100000, 0x10000⟩ {} [.used ⟨0x100000, 1⟩] DirectMap.identity.access,
    .physical (.free 3), .space 0 (.attempt 3 {})]

/-- The table at `0x4000` touches page 4 and no other. -/
theorem allows_free_of_tables (hregion : machine.memory.allocator.region = ⟨0, 0x8000⟩)
    (htables : machine.tables = [⟨0x4000, 0x1000⟩]) : machine.Allows (.physical (.free 3)) := by
  have hseated : eightPages.allocator.Seated := by decide +kernel
  intro page hpage table hmem htouches
  obtain rfl : 3 = page := Request.free.inj (Option.some.inj hpage)
  rw [htables, List.mem_singleton] at hmem
  subst hmem
  obtain ⟨a, hin, hat⟩ := (@PhysicalMemory.touches_congr eightPages _ hregion _ _).mp htouches
  obtain ⟨-, hnum⟩ := (hseated.pageOf_eq_some_iff (by decide +kernel)).mp hat
  have hmin : 0x4000 ≤ a.toNat := (Region.contains_iff.mp hin).1
  have horigin : eightPages.allocator.region.start.toNat = 0 := rfl
  have hthree : (3 : Page).toNat = 3 := rfl
  omega

theorem allowsAll_eightPages : ({ memory := eightPages } : Machine).AllowsAll eightPagesSteps := by
  refine ⟨?_, ?_, ⟨DirectMap.neutral _, by simp [Mark.Fits, Region.Fits]⟩, ?_, ?_, trivial⟩
  · simp [Allows, tables]
  · simp [Allows, Step.request?]
  · exact allows_free_of_tables (by decide +kernel) (by decide +kernel)
  · simp [Allows, Step.request?]

theorem setup_eightPages :
    (PhysicalMemory.setup 0x8000 [⟨0, 0x800⟩] {} DirectMap.identity.access).Yields
      ⟨0x1000, 0x4000, 0x1000, 0⟩ (.ok (.ok eightPages)) ⟨0x1000, 0x4000, 0x2000, 1⟩ :=
  ⟨by decide +kernel, by decide +kernel⟩

theorem protected_run_eightPages :
    (({ memory := eightPages } : Machine).run eightPagesSteps).tables = [⟨0x4000, 0x1000⟩] ∧
    ∃ used, (⟨0x1000, 0x4000, 0x2000, 1⟩ : Bump).used = .ok used ∧
      Protected [⟨0x1000, 0x1000⟩, used, ⟨0, 0x800⟩]
        (({ memory := eightPages } : Machine).run eightPagesSteps) ∧
      (({ memory := eightPages } : Machine).run eightPagesSteps).memory.allocator.region =
        eightPages.allocator.region :=
  ⟨by decide +kernel,
    protected_run ⟨0x1000, 0x4000, _, by decide +kernel, .refl⟩ (DirectMap.neutral _).draws
      (by simp [Region.Fits]) rfl setup_eightPages allowsAll_eightPages⟩

end Machine

end PageFrames
