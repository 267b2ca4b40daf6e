/-
# The pool of pages

A pool is the part of an allocator that changes: the table, the free list through it, the number
of free pages, and two counters of what has been done so far.  In a pool in good order the free
list is a ring over exactly the free rows and the count is their number, but nothing in the type
says so; `Pool.audit` finds out for a pool at hand.
-/
import PageFrames.FreeList.Walk

namespace PageFrames

/-- The table of an allocator with its free list and its counters. -/
structure Pool where
  table : Table
  free : FreeList := .empty
  /-- The number of free pages. -/
  freePages : Word := 0
  /-- The number of requests that were granted so far. -/
  allocations : Word := 0
  /-- The number of times that the free list was rebuilt so far. -/
  compactions : Word := 0
  deriving DecidableEq

namespace Pool

/-! ## 1. Actions on the parts -/

/-- An action on the table alone. -/
def onTable {α : Type} : Action Table α → Action Pool α :=
  .onPart fun pool =>
    match pool with
    | ⟨table, free, freePages, allocations, compactions⟩ =>
      (table, fun table => ⟨table, free, freePages, allocations, compactions⟩)

/-- Changes the free list, together with the table that it runs through. -/
def onFree {α : Type} (m : FreeList → Action Table (α × FreeList)) : Action Pool α := do
  let free ← .peek Pool.free
  let (a, free) ← onTable (m free)
  .change ({ · with free })
  return a

/-- Puts another free list in place of the one there is. -/
def setFree (free : FreeList) : Action Pool Unit := .change ({ · with free })

/-- Counts that many pages less as free. -/
def countTaken (count : Word) : Action Pool Unit := do
  let freePages ← (← .peek Pool.freePages).subExact count
  .change ({ · with freePages })

/-- Counts that many pages more as free. -/
def countReleased (count : Word) : Action Pool Unit := do
  let freePages ← (← .peek Pool.freePages).addExact count
  .change ({ · with freePages })

/-- Counts one more granted request. -/
def countAllocation : Action Pool Unit := do
  let allocations ← (← .peek Pool.allocations).addExact 1
  .change ({ · with allocations })

/-- Counts one more rebuilding of the free list. -/
def countCompaction : Action Pool Unit := do
  let compactions ← (← .peek Pool.compactions).addExact 1
  .change ({ · with compactions })

/-! ## 2. Rebuilding the free list -/

/-- Threads a new list through the free ones of the first `count` rows, in ascending order.
What the links of these rows were does not matter: none is read before it has been set. -/
def thread : (count : Nat) → Action Table FreeList
  | 0 => return .empty
  | count + 1 => do
    let list ← thread count
    let page := count.toUInt32
    if (← Table.read page).isFree then list.push page else return list

/-- Rebuilds the free list from the table, in ascending order. -/
def rebuild : Action Pool Unit := do
  let free ← onTable (thread (← .peek (·.table.size)))
  setFree free

/-- Rebuilds the free list of a running allocator, which must come out as long as the number of
free pages says. -/
def compact : Action Pool Unit := do
  rebuild
  countCompaction
  let listed ← .look fun pool => pool.free.length pool.table
  let counted ← .peek Pool.freePages
  if listed ≠ counted.toNat then
    .fault (.miscountedRebuild listed counted)
  else
    .emit .debug s!"compacted free list: {counted} pages free"

/-! ## 3. The audit -/

/-- Whether the number of free rows and the length of the free list are both the number of free
pages, and the list has only free pages. -/
def audit (pool : Pool) : Except Fault Bool := do
  let listed ← pool.free.length pool.table
  let allFree ← pool.free.allFree pool.table
  return pool.table.freeCount == pool.freePages.toNat && listed == pool.freePages.toNat && allFree

end Pool

end PageFrames
