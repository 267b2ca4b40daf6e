/-
# Setting up an allocator

An allocator comes into being in two steps.  First its region is looked at, and refused if no
allocator can manage it (`Region.admit`); otherwise the size of its table is known.  Then memory
of at least that size, which somebody has to provide, is made into the table: it is made writable
and cleared, the rows are written, the pages in use are marked, and the free list is built
(`Allocator.install`).

Between the two the memory has to be asked for.  A caller that wants it back after a failure
asks for it separately; `Allocator.setup` is for a source that takes nothing back.
-/
import PageFrames.Allocator.Basic
import PageFrames.Bump
import PageFrames.Memory
import PageFrames.SetupError

namespace PageFrames

/-! ## 1. The region -/

/-- The size of the table for the pages of a region, or the first reason not to manage it. -/
def Region.admit (region : Region) : Except Fault (Except SetupError Word) := do
  if !(← region.start.isAligned pageSize) then
    return .error (.unalignedRegion region.start)
  else if !(← region.size.isAligned pageSize) then
    return .error (.invalidSize region.size)
  else
    let count := region.size / pageSize
    if count = 0 then
      return .error .emptyRegion
    else if (region.start.add? (← region.size.subExact 1)).isNone then
      return .error (.wrapsAround region.start)
    else if Page.nil.toUInt64 ≤ count then
      return .error (.tooManyPages count)
    else
      return .ok (← count.mulExact Descriptor.size)

namespace Allocator

variable {σ : Type}

/-! ## 2. The table -/

/-- The allocator over a table that has been marked.  Its free list is built from the table and
has to come out as long as there are free rows. -/
def start (region : Region) (kind : SpaceKind) (config : Config) (metadata : Region)
    (table : Table) : Action σ Allocator := do
  let ((), pool) ← Pool.rebuild.apart { table }
  let counted : Word := pool.table.freeCount.toUInt64
  let listed ← pool.free.length pool.table
  if listed ≠ counted.toNat then
    .fault (.miscountedSetup listed counted)
  else
    let text ← region.text
    .emit .info s!"{kind.inspect} region {text}: {counted} pages free"
    return { region, kind, metadata, config, pool := { pool with freePages := counted } }

/-- Makes memory that was granted into the table of an allocator whose region is in order and
needs a table of `size` bytes.  It answers with the allocator and the page counts of the marks,
or with what is wrong with the memory.

The log is told how many pages were granted, with every level enabled.  Where the memory runs past
the top there is no such number, and the installation ends with that fault. -/
def install (region : Region) (kind : SpaceKind) (config : Config) (size : Word)
    (granted : Option Region) (usage : List (Action σ Mark)) (memory : MemoryAccess σ) :
    Action σ (Except SetupError (Allocator × List Word)) := do
  match granted.filter (size ≤ ·.size) with
  | none => return .error (.metadataUnavailable size)
  | some metadata =>
    if memory.pointer metadata.start % Descriptor.alignment ≠ 0 then
      return .error (.unalignedMetadata metadata.start)
    else
      let pages ← metadata.pageCount
      let num := metadata.start.pageNum
      .emit .info s!"page frame array allocated {pages} pages, beginning with page {num}"
      memory.setWritable metadata
      memory.zero metadata
      let table ← Table.fresh region.start (region.size / pageSize).toNat
      let (counts, table) ← Table.markEach region.start.pageNum usage table
      return .ok (← start region kind config metadata table, counts)

/-! ## 3. Setup -/

/-- Sets up an allocator whose table is placed in memory from `source`. -/
def setup (region : Region) (kind : SpaceKind) (config : Config)
    (source : Word → Action σ (Option Region)) (usage : List (Action σ Mark))
    (memory : MemoryAccess σ) : Action σ (Except SetupError (Allocator × List Word)) := do
  match ← region.admit with
  | .error reason => return .error reason
  | .ok size => install region kind config size (← source size) usage memory

end Allocator

end PageFrames
