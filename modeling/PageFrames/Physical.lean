/-
# Physical memory

The physical pages of a machine are managed by one allocator, whose table is placed in memory
from the bump allocator that was at work before it.  Everything handed out by then, the table
included, stays in use.

The tables of the allocators of address spaces are placed in physical pages.  If such an
allocator cannot be set up after all, the pages taken for its table are given back.
-/
import PageFrames.Allocator.Lookup
import PageFrames.Setup

namespace PageFrames

/-- The physical memory of a machine. -/
structure PhysicalMemory where
  allocator : Allocator
  deriving DecidableEq

namespace PhysicalMemory

/-! ## 1. Setup -/

/-- Physical memory that is managed by an allocator set up before. -/
def ofAllocator (allocator : Allocator) : Except Fault PhysicalMemory :=
  match allocator.kind with
  | .physical => .ok ⟨allocator⟩
  | kind => .error (.notPhysical kind)

/-- Sets up the allocator of `installed` bytes of memory from address zero on.  What the bump
allocator has handed out, the memory of the table by then included, and the reserved regions are
in use. -/
def setup (installed : Word) (reserved : List Region) (config : Config)
    (memory : MemoryAccess Bump) : Action Bump (Except SetupError PhysicalMemory) := do
  let region : Region := { start := 0, size := ← installed.alignDown pageSize }
  let known : List (Action Bump Mark) := reserved.map fun region => pure (.used region)
  match ← Allocator.setup region .physical config Bump.reserve (Bump.mark :: known) memory with
  | .error reason => return .error reason
  | .ok (allocator, _) => return .ok (← ofAllocator allocator)

/-! ## 2. Pages -/

/-- An action on the allocator. -/
def onAllocator {α : Type} : Action Allocator α → Action PhysicalMemory α :=
  .onPart fun memory =>
    match memory with
    | ⟨allocator⟩ => (allocator, .mk)

/-- Allocates `count` pages and answers with the first one.  A refusal is a fault. -/
def demand (count : Word) (options : Options) : Action PhysicalMemory Page :=
  onAllocator (Allocator.demand count options)

/-- Allocates `count` pages and answers with the address of the first one. -/
def demandAddr (count : Word) (options : Options) : Action PhysicalMemory Addr := do
  let page ← demand count options
  .look (·.allocator.addressOf page)

/-- Allocates enough pages to hold `size` bytes, and answers with the first one. -/
def demandBytes (size : Word) (options : Options) : Action PhysicalMemory Page :=
  demand (pagesFor size) options

/-- Gives back the allocation of a page. -/
def free (page : Page) : Action PhysicalMemory Unit := onAllocator (Allocator.free page)

/-- The page that holds the address, if it is in physical memory. -/
def pageOf? (memory : PhysicalMemory) (a : Addr) : Option Page := memory.allocator.pageOf? a

/-- The page with this page number, if it is in physical memory. -/
def pageNum? (memory : PhysicalMemory) (num : Word) : Option Page := memory.allocator.pageNum? num

/-- Gives back the allocation of the page that holds the address. -/
def freeAddr (a : Addr) : Action PhysicalMemory Unit := do
  match ← .peek (·.pageOf? a) with
  | some page => free page
  | none => .fault (.outsideMemory a)

/-- The number of free pages. -/
def available (memory : PhysicalMemory) : Word := memory.allocator.pool.freePages

/-! ## 3. Address spaces -/

/-- Sets up the allocator of a virtual region.  Its table is placed in physical pages, which are
given back if the setup fails.

The log is told of the region before it is looked at, with every level enabled.  A region that runs
past the top has no text, so it ends the setup with a fault where it would have been refused. -/
def setupSpace (region : Region) (config : Config)
    (usage : List (Action PhysicalMemory Mark)) (memory : MemoryAccess PhysicalMemory) :
    Action PhysicalMemory (Except SetupError (Allocator × List Word)) := do
  let text ← region.text
  .emit .trace s!"setting up address space {text}"
  match ← region.admit with
  | .error reason => return .error reason
  | .ok size =>
    let granted ← onAllocator (Allocator.reserve size)
    let outcome ← Allocator.install region .virtual config size granted usage memory
    match outcome, granted with
    | .error reason, some pages =>
      let text ← pages.text
      .emit .debug s!"releasing {text} after failed setup: {reason.message}"
      freeAddr pages.start
    | _, _ => pure ()
    return outcome

/-- The diagnostic text of physical memory. -/
def inspect (memory : PhysicalMemory) : String :=
  Text.record "RegionManager" [("default", memory.allocator.inspect)]

end PhysicalMemory

end PageFrames
