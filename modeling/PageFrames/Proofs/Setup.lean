/-
# Allocators that were set up

An allocator that comes out of a setup is in good order: its region is as long as its table and
does not run past the top, and its pool is well kept, with the free list in ascending order.  This
does not depend on the memory the table was placed in, nor on what the marks were or what had to be
done to find them, since marks change the status of rows and nothing else (`Table.maintains_mark`).

What the last step of a setup makes of a table that has been marked is `Pool.Started`; everything
else is read off that.
-/
import PageFrames.Proofs.Allocator.Requests
import PageFrames.Proofs.Checks

namespace PageFrames

/-! ## 1. The table -/

/-- The row of a page without what a mark says. -/
def Descriptor.unmarked (row : Descriptor) : Descriptor := { row with status := .free }

namespace Table

variable {start : Addr} {count : Nat} {table table' : Table}

theorem toNat_of_addressAt {index : Nat} {a : Addr} (h : addressAt start index = .ok a)
    (hindex : index < 2 ^ 64) : a.toNat = start.toNat + index * 4096 := by
  obtain ⟨offset, hoffset, h⟩ := exists_of_bind_eq_ok h
  rw [Word.mulExact_eq_ok_iff, Word.toNat_toUInt64 hindex, toNat_pageSize] at hoffset
  rw [hoffset]
  exact (Word.addExact_eq_ok_iff.mp h).symm

/-- **The rows of a new table** are fresh and have the addresses of the pages from `start` on. -/
theorem row_of_fresh (h : fresh start count = .ok table) {i : Nat} {row : Descriptor}
    (hrow : table[i]? = some row) (hsmall : count ≤ 2 ^ 64) :
    ∃ a, row = .fresh a ∧ a.toNat = start.toNat + i * 4096 := by
  induction count generalizing table with
  | zero =>
    cases h
    simp at hrow
  | succ count ih =>
    obtain ⟨rest, hrest, h⟩ := exists_of_bind_eq_ok h
    obtain ⟨a, haddr, h⟩ := exists_of_bind_eq_ok h
    obtain rfl := Except.ok.inj h
    rcases Nat.lt_or_ge i rest.size with hi | hi
    · rw [Array.getElem?_push_lt hi] at hrow
      exact ih hrest ((Array.getElem?_eq_getElem hi).trans hrow) (by omega)
    · have hsize := size_of_fresh_eq_ok hrest
      have hi' : i = rest.size := by
        have hlt := (Array.getElem?_eq_some_iff.mp hrow).1
        rw [Array.size_push] at hlt
        omega
      subst hi'
      rw [Array.getElem?_push_size, Option.some.injEq] at hrow
      refine ⟨a, hrow.symm, ?_⟩
      rw [hsize]
      exact toNat_of_addressAt haddr (by omega)

theorem map_unmarked_setStatus (status : Status) (first stop : Nat) (table : Table) :
    (setStatus status first stop table).map Descriptor.unmarked =
      table.map Descriptor.unmarked := by
  refine Array.ext_getElem? ?_
  intro i
  rw [Array.getElem?_map, Array.getElem?_map, setStatus, Array.getElem?_mapIdx]
  cases table[i]? with
  | none => rfl
  | some row =>
    simp only [Option.map_some]
    split <;> rfl

/-- **A mark changes nothing but the status of rows.** -/
theorem maintains_mark (firstNum : Word) (mark : Mark) (rows : Table) :
    (Table.mark firstNum mark).Maintains fun table => table.map Descriptor.unmarked = rows := by
  have hregion : ∀ (status : Status) (region : Region),
      (markRegion firstNum status region).Maintains
        fun table => table.map Descriptor.unmarked = rows := by
    intro status region
    refine .bind (Action.maintains_peek _) ?_
    intro size
    refine .bind (Action.maintains_liftM _) ?_
    intro pages
    refine .bind (Action.maintains_liftM _) ?_
    intro touched
    refine .bind (Action.maintains_liftM _) ?_
    intro stop
    dsimp only
    split
    · exact Action.maintains_pure _
    · refine .bind (Action.maintains_liftM _) ?_
      intro low
      refine .bind (Action.maintains_liftM _) ?_
      intro high
      refine .bind (Action.maintains_change ?_) fun _ => Action.maintains_liftM _
      intro table h
      rw [map_unmarked_setStatus]
      exact h
  cases mark with
  | used region => exact hregion .used region
  | free region => exact hregion .free region
  | total => exact Action.maintains_peek _

/-- Marks change nothing but the status of rows, however they are found. -/
theorem map_unmarked_of_markEach {σ : Type} {firstNum : Word} {finds : List (Action σ Mark)}
    {s s' : σ} {counts : List Word}
    (h : (markEach firstNum finds table).Yields s (.ok (counts, table')) s') :
    table'.map Descriptor.unmarked = table.map Descriptor.unmarked := by
  induction finds generalizing table s s' counts with
  | nil =>
    obtain ⟨hr, -⟩ := h
    cases hr
    rfl
  | cons find rest ih =>
    obtain ⟨mark, s₁, -, h⟩ := h.of_bind_ok
    obtain ⟨⟨count, table₁⟩, s₂, hmark, h⟩ := h.of_bind_ok
    obtain ⟨⟨counts', table₂⟩, s₃, hrest, h⟩ := h.of_bind_ok
    obtain ⟨hr, -⟩ := h
    cases hr
    exact (ih hrest).trans (maintains_mark firstNum mark _ table _ table₁ hmark.of_apart rfl)

/-- **Whatever has been marked in a new table,** nothing but the status of its rows is different. -/
theorem row_of_marked {new : Table} (hnew : fresh start count = .ok new)
    (hmarks : table.map Descriptor.unmarked = new.map Descriptor.unmarked)
    (hsmall : count ≤ 2 ^ 64) {i : Nat} {row : Descriptor} (hrow : table[i]? = some row) :
    row.unmarked = .fresh row.address ∧ row.address.toNat = start.toNat + i * 4096 := by
  have hunmarked : (new.map Descriptor.unmarked)[i]? = some row.unmarked := by
    rw [← hmarks, Array.getElem?_map, hrow]
    rfl
  rw [Array.getElem?_map, Option.map_eq_some_iff] at hunmarked
  obtain ⟨row₀, hrow₀, heq⟩ := hunmarked
  obtain ⟨a, rfl, ha⟩ := row_of_fresh hnew hrow₀ hsmall
  have haddress : row.address = a := (congrArg Descriptor.address heq.symm :)
  exact ⟨haddress ▸ heq.symm, haddress ▸ ha⟩

end Table

/-! ## 2. The pool -/

namespace Pool

open Table

variable {region : Region} {table : Table} {pool : Pool}

/-- The pool is made of the rows of a new table for the region, which have been marked: its free
list has the pages that are free by then, in ascending order. -/
structure Started (region : Region) (table : Table) (pool : Pool) : Prop where
  passes : firstFailure region.checks = none
  size : table.size = region.pages
  rows : ∀ (p : Page) (row : Descriptor), table[p.toNat]? = some row →
    row.unmarked = .fresh row.address ∧
      row.address.toNat = region.start.toNat + p.toNat * 4096
  threads : pool.free.Threads pool.table pool.table.freePages
  links : Relinked table.freePages table pool.table
  counted : pool.freePages.toNat = pool.table.freePages.length
  allocations : pool.allocations = 0
  compactions : pool.compactions = 0

/-- Building the free list does not change what has been marked. -/
theorem Started.isUsed_iff (h : Started region table pool) (p : Page) :
    pool.table.IsUsed p ↔ table.IsUsed p := by
  have hstatus := h.links.column_eq Descriptor.status (fun _ => rfl) p
  rw [IsUsed, IsUsed, hstatus]

theorem Started.size_le (h : Started region table pool) : table.size ≤ 2 ^ 32 := by
  obtain ⟨-, -, -, -, hfew⟩ := Region.passes_iff.mp h.passes
  have hsize := h.size
  omega

/-- No page belongs to an allocation yet. -/
theorem Started.row_bare (h : Started region table pool) {p : Page} {row : Descriptor}
    (hrow : pool.table[p.toNat]? = some row) :
    row.tag = .empty ∧ row.compound = .nil ∧ (row.status = .used → row.link = .none) ∧
      row.address.toNat = region.start.toNat + p.toNat * 4096 := by
  have hbare := h.links.column_eq Descriptor.bare (fun _ => rfl) p
  obtain ⟨row₀, hrow₀, heq⟩ := exists_row_of_column hbare hrow
  obtain ⟨hfresh, haddress⟩ := h.rows p row₀ hrow₀
  have htag : row.tag = row₀.tag := (congrArg Descriptor.tag heq :)
  have hcompound : row.compound = row₀.compound := (congrArg Descriptor.compound heq :)
  have hsame : row.address = row₀.address := (congrArg Descriptor.address heq :)
  refine ⟨htag.trans (congrArg Descriptor.tag hfresh :),
    hcompound.trans (congrArg Descriptor.compound hfresh :), ?_, hsame ▸ haddress⟩
  -- the row of a page in use has not been changed at all
  intro hused
  have hused₀ : table.IsUsed p :=
    (h.isUsed_iff p).mp (column_eq_some_iff.mpr ⟨row, hrow, hused⟩)
  have hoff := h.links.off p fun hp =>
    ((mem_freePages_iff h.size_le).mp hp).not_isUsed hused₀
  obtain rfl : row = row₀ := by
    rw [hrow, hrow₀] at hoff
    exact Option.some.inj hoff
  exact (congrArg Descriptor.link hfresh :)

/-- **A pool that has just been started is well kept.**  Its list has been threaded through the free
rows, and no row has been touched otherwise since it was new, but for its status. -/
theorem Started.wellKept (h : Started region table pool) :
    pool.WellKept region.start pool.table.freePages := by
  obtain ⟨-, -, -, -, hfew⟩ := Region.passes_iff.mp h.passes
  have hsize := h.links.size_eq.trans h.size
  have hnil : Page.nil.toNat = 4294967295 := rfl
  refine ⟨⟨by omega, h.threads, fun p => mem_freePages_iff (by omega), h.counted⟩, ?_, ?_⟩
  · intro p row hrow
    obtain ⟨htag, hcompound, hlink, -⟩ := h.row_bare hrow
    exact ⟨fun _ => ⟨htag, hcompound⟩, hlink⟩
  · intro p row hrow
    exact (h.row_bare hrow).2.2.2

end Pool

/-! ## 3. The allocator -/

namespace Allocator

open Table

variable {allocator : Allocator}

/-- The allocator came out of a setup. -/
def SetUp (allocator : Allocator) : Prop :=
  ∃ (σ : Type) (region : Region) (kind : SpaceKind) (config : Config)
    (source : Word → Action σ (Option Region)) (usage : List (Action σ Mark))
    (memory : MemoryAccess σ) (s : σ) (counts : List Word),
    ((setup region kind config source usage memory).run s).result = .ok (.ok (allocator, counts))

/-- **The start of an allocator** makes a pool of a table that has been marked. -/
theorem exists_start {σ : Type} {region : Region} (kind : SpaceKind) (config : Config)
    (metadata : Region) {new table : Table} (hpasses : firstFailure region.checks = none)
    (hnew : fresh region.start region.pages = .ok new)
    (hmarks : table.map Descriptor.unmarked = new.map Descriptor.unmarked) (s : σ) :
    ∃ pool, (start region kind config metadata table : Action σ Allocator).Yields s
      (.ok ⟨region, kind, metadata, config, pool⟩) s ∧ Pool.Started region table pool := by
  obtain ⟨-, -, -, hfits, hfew⟩ := Region.passes_iff.mp hpasses
  have hsize : table.size = region.pages := by
    have hmap := congrArg Array.size hmarks
    rw [Array.size_map, Array.size_map, size_of_fresh_eq_ok hnew] at hmap
    exact hmap
  have hsmall : ({ table } : Pool).table.size ≤ 2 ^ 32 := by
    show table.size ≤ 2 ^ 32
    omega
  obtain ⟨pool, hrebuild, hbuilt, hcompactions⟩ := Pool.exists_rebuild hsmall
  have hpool : pool.table.size = table.size := hbuilt.links.size_eq
  have hfree : pool.table.freePages = table.freePages :=
    freePages_congr hpool fun p => hbuilt.links.column_eq _ (fun _ => rfl) p
  have hcount : pool.table.freeCount.toUInt64.toNat = pool.table.freePages.length := by
    have hle : pool.table.freeCount ≤ pool.table.size := Array.countP_le_size
    rw [Word.toNat_toUInt64 (by omega), length_freePages (by omega)]
  have hthreads : pool.free.Threads pool.table pool.table.freePages := by
    rw [hfree]
    exact hbuilt.threads
  obtain ⟨text, htext⟩ := hfits.exists_text
  refine ⟨{ pool with freePages := pool.table.freeCount.toUInt64 },
    .bind (hrebuild.apart s) (.bind (Action.yields_liftM hthreads.length_eq s) ?_), hpasses, hsize,
    fun p row => row_of_marked hnew hmarks (by omega), hthreads, hbuilt.links, hcount,
    hbuilt.allocations, hcompactions⟩
  rw [if_neg (by rw [hcount]; exact fun hne => hne rfl)]
  exact .bind (Action.yields_liftM htext s) (.bind (Action.yields_emit _ _ s)
    (Action.yields_pure _ s))

/-- **The steps of an installation** that comes to an allocator: memory that is large enough is made
writable and cleared, new rows are written and marked, and the allocator is started. -/
theorem of_install {σ : Type} {region : Region} {kind : SpaceKind} {config : Config} {size : Word}
    {granted : Option Region} {usage : List (Action σ Mark)} {memory : MemoryAccess σ} {s s' : σ}
    {counts : List Word} (hpasses : firstFailure region.checks = none)
    (h : (install region kind config size granted usage memory).Yields s
      (.ok (.ok (allocator, counts))) s') :
    ∃ (metadata : Region) (new table : Table) (pool : Pool) (s₁ s₂ : σ),
      granted = some metadata ∧ size.toNat ≤ metadata.size.toNat ∧
      (memory.setWritable metadata).Yields s (.ok ()) s₁ ∧
      (memory.zero metadata).Yields s₁ (.ok ()) s₂ ∧
      fresh region.start region.pages = .ok new ∧
      (markEach region.start.pageNum usage new).Yields s₂ (.ok (counts, table)) s' ∧
      Pool.Started region table pool ∧ allocator = ⟨region, kind, metadata, config, pool⟩ := by
  rw [install] at h
  split at h
  · cases h.1
  rename_i metadata hgranted
  rw [Option.filter_eq_some_iff, decide_eq_true_eq, UInt64.le_iff_toNat_le] at hgranted
  split at h
  · cases h.1
  obtain ⟨pages, s₁, hpages, h⟩ := h.of_bind_ok
  obtain ⟨⟨⟩, s₂, hemit, h⟩ := h.of_bind_ok
  obtain ⟨⟨⟩, s₃, hwritable, h⟩ := h.of_bind_ok
  obtain ⟨⟨⟩, s₄, hzero, h⟩ := h.of_bind_ok
  obtain ⟨new, s₅, hnew, h⟩ := h.of_bind_ok
  obtain ⟨⟨counts', table⟩, s₆, hmarks, h⟩ := h.of_bind_ok
  obtain ⟨allocator', s₇, hstart, hresult, hend⟩ := h.of_bind_ok
  cases hresult
  obtain rfl : s = s₁ := hpages.2
  obtain rfl : s = s₂ := hemit.2
  obtain ⟨hnew, rfl⟩ := hnew
  rw [Region.toNat_size_div] at hnew
  obtain ⟨pool, hyields, hstarted⟩ :=
    exists_start kind config metadata hpasses hnew (map_unmarked_of_markEach hmarks) s₆
  obtain ⟨heq, rfl⟩ := hyields.unique hstart
  obtain rfl : s₆ = s' := hend
  exact ⟨metadata, new, table, pool, s₃, s₄, hgranted.1, hgranted.2, hwritable, hzero, hnew,
    hmarks, hstarted, (Except.ok.inj heq).symm⟩

/-- **The steps of a setup** that comes to an allocator: its region passes the checks, memory for
the table is asked for, and the allocator is installed in what is granted. -/
theorem of_setup {σ : Type} {region : Region} {kind : SpaceKind} {config : Config}
    {source : Word → Action σ (Option Region)} {usage : List (Action σ Mark)}
    {memory : MemoryAccess σ} {s s' : σ} {counts : List Word}
    (h : (setup region kind config source usage memory).Yields s (.ok (.ok (allocator, counts)))
      s') :
    ∃ (granted : Option Region) (s₁ : σ), firstFailure region.checks = none ∧
      (source region.tableSize).Yields s (.ok granted) s₁ ∧
      (install region kind config region.tableSize granted usage memory).Yields s₁
        (.ok (.ok (allocator, counts))) s' := by
  obtain ⟨admitted, s₁, hadmit, h⟩ := h.of_bind_ok
  obtain rfl : s = s₁ := hadmit.2
  cases admitted with
  | error reason => cases h.1
  | ok size =>
    obtain ⟨granted, s₂, hsource, hinstall⟩ := h.of_bind_ok
    obtain ⟨hpasses, rfl⟩ := Region.of_admit hadmit.1
    exact ⟨granted, s₂, hpasses, hsource, hinstall⟩

/-- **The pool of an allocator that was set up** has just been started, whatever memory it was given
and whatever was marked. -/
theorem SetUp.exists_started (h : allocator.SetUp) :
    ∃ table, Pool.Started allocator.region table allocator.pool := by
  obtain ⟨σ, region, kind, config, source, usage, memory, s, counts, hrun⟩ := h
  have hyields : (setup region kind config source usage memory).Yields s
      (.ok (.ok (allocator, counts))) _ := ⟨hrun, rfl⟩
  obtain ⟨granted, s₁, hpasses, -, hinstall⟩ := of_setup hyields
  obtain ⟨metadata, new, table, pool, s₂, s₃, -, -, -, -, -, -, hstarted, rfl⟩ :=
    of_install hpasses hinstall
  exact ⟨table, hstarted⟩

theorem seated_of_started {table : Table}
    (h : Pool.Started allocator.region table allocator.pool) : allocator.Seated := by
  obtain ⟨-, hmod, -, hfits, -⟩ := Region.passes_iff.mp h.passes
  have hsize := h.links.size_eq.trans h.size
  rw [Region.pages] at hsize
  exact ⟨by omega, hfits⟩

/-- **An allocator that was set up is in good order,** and has counted nothing yet. -/
theorem SetUp.wellKept (h : allocator.SetUp) :
    allocator.Seated ∧ allocator.pool.allocations = 0 ∧
      allocator.pool.WellKept allocator.region.start allocator.pool.table.freePages := by
  obtain ⟨table, hstarted⟩ := h.exists_started
  exact ⟨seated_of_started hstarted, hstarted.allocations, hstarted.wellKept⟩

/-- The allocator of three pages after a setup in which the first of them, which holds the table,
was marked as in use. -/
def threePages : Allocator where
  region := ⟨0x1000, 0x3000⟩
  kind := .physical
  metadata := ⟨0x1000, 0x1000⟩
  config := {}
  pool :=
    { table := #[⟨0x1000, .used, .empty, .none, .nil⟩, ⟨0x2000, .free, .empty, ⟨2, 2⟩, .nil⟩,
        ⟨0x3000, .free, .empty, ⟨1, 1⟩, .nil⟩]
      free := { head := some 1 }
      freePages := 2 }

theorem setUp_threePages : threePages.SetUp :=
  ⟨Unit, ⟨0x1000, 0x3000⟩, .physical, {}, fun _ => pure (some ⟨0x1000, 0x1000⟩),
    [pure (.used ⟨0x1000, 0x1000⟩)], DirectMap.identity.access, (), [1], by decide +kernel⟩

end Allocator

end PageFrames
