/-
# Allocators

An allocator manages the pages of one region.  It is a pool of pages together with what never
changes: the region, its kind, where the table is placed, and the configuration.  Its requests
are those of the pool, with the configuration and the kind of the region brought to bear on them,
and with a line for the log where the configuration wants one.

Pages of a virtual region are always contiguous, whatever the request says.
-/
import PageFrames.Config
import PageFrames.Options
import PageFrames.Pool.Allocate
import PageFrames.Pool.Release
import PageFrames.Region

namespace PageFrames

/-- An allocator of the pages of a region. -/
structure Allocator where
  region : Region
  kind : SpaceKind
  /-- The region in which the table is placed. -/
  metadata : Region
  config : Config
  pool : Pool
  deriving DecidableEq

namespace Allocator

/-! ## 1. Where pages are -/

/-- The number of pages. -/
def totalPages (allocator : Allocator) : Word := allocator.region.size / pageSize

/-- The page number of the first page. -/
def firstPageNum (allocator : Allocator) : Word := allocator.region.start.pageNum

/-- The address of a page. -/
def addressOf (allocator : Allocator) (page : Page) : Except Fault Addr := do
  allocator.region.start.addExact (← Word.mulExact page.toUInt64 pageSize)

/-! ## 2. Requests -/

/-- An action on the pool alone. -/
def onPool {α : Type} : Action Pool α → Action Allocator α :=
  .onPart fun allocator =>
    match allocator with
    | ⟨region, kind, metadata, config, pool⟩ =>
      (pool, fun pool => ⟨region, kind, metadata, config, pool⟩)

/-- Tells the log of so many pages at `page`, if the configuration wants it.  The text ends with
the number of pages that are free now. -/
def trace (count : Word) (page : Page) (what : Addr → String) : Action Allocator Unit := do
  if ← .peek (·.config.traces count) then
    let address ← .look (·.addressOf page)
    let free ← .peek (·.pool.freePages)
    .emit .debug s!"{what address}, {free} pages free"

/-- Allocates `count` pages and answers with the first one, or refuses. -/
def request (count : Word) (options : Options) :
    Action Allocator (Except Refusal Page) := do
  let contiguous ← .peek fun allocator =>
    options.flags.contiguous || allocator.kind == .virtual
  let compaction ← .peek fun allocator =>
    allocator.config.compaction && !options.flags.noCompact
  match ← onPool (Pool.allocate count contiguous compaction options.tag) with
  | .error reason => return .error reason
  | .ok page =>
    trace count page fun address =>
      s!"allocated {count} pages at {address.text} {options.tag.inspect}"
    return .ok page

/-- Allocates `count` pages and answers with the first one.  A refusal is a fault. -/
def demand (count : Word) (options : Options) : Action Allocator Page := do
  match ← request count options with
  | .ok page => return page
  | .error reason =>
    let kind ← .peek Allocator.kind
    let region ← .look (·.region.text)
    .fault (.denied reason kind region)

/-- Gives back the allocation of a page. -/
def free (page : Page) : Action Allocator Unit := do
  let count ← onPool (Pool.release page (← .peek (·.config.checkedFree)))
  trace count page fun address => s!"freed {count} pages at {address.text}"

/-- The label of the pages that hold the table of another allocator. -/
def metadataLabel : String := "pfa-meta"

/-- Allocates contiguous pages for at least `size` bytes and answers with their region, if there
are such pages. -/
def reserve (size : Word) : Action Allocator (Option Region) := do
  let count := pagesFor size
  match ← request count (Options.contiguous.withLabel metadataLabel) with
  | .error _ => return none
  | .ok page =>
    let address ← .look (·.addressOf page)
    return some (← Region.ofPages address count)

/-! ## 3. Texts -/

/-- The diagnostic text of an allocator, which does not show its pool. -/
def inspect (allocator : Allocator) : String :=
  Text.openRecord "PageFrameAllocator"
    [("region", allocator.region.inspect), ("kind", allocator.kind.inspect),
      ("total_pages", toString allocator.totalPages), ("metadata", allocator.metadata.inspect),
      ("config", allocator.config.inspect)]

end Allocator

end PageFrames
