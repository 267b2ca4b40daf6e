/-
# The bump allocator

Before any allocator with a table is up, pages are handed out in ascending order from a fixed
range, each piece behind the one before it, and are never taken back.  What has been handed out
is therefore one region, from the start of the range to the next free address.
-/
import PageFrames.Action
import PageFrames.Align
import PageFrames.Marking

namespace PageFrames

/-- A range of whole pages of which the lower ones have been handed out. -/
structure Bump where
  /-- The first address of the range. -/
  start : Addr
  /-- The first address past the range. -/
  stop : Addr
  /-- The first address not handed out yet. -/
  next : Addr
  /-- The number of pages handed out. -/
  allocated : Word
  deriving DecidableEq

namespace Bump

/-- The whole pages between two addresses, none of them handed out. -/
def create (start stop : Addr) : Except Fault Bump := do
  if stop < start then
    throw .invertedBounds
  else
    let low ← start.alignUp pageSize
    let high ← stop.alignDown pageSize
    return { start := low, stop := max high low, next := low, allocated := 0 }

/-- The address behind `count` more pages, if they are within the range. -/
def next? (bump : Bump) (count : Word) : Option Addr := do
  let next ← bump.next.add? (← count.mul? pageSize)
  if bump.stop < next then none else some next

/-- Hands out `count` pages, if there are as many left. -/
def allocate (count : Word) : Action Bump (Option Region) := do
  match ← .peek (·.next? count) with
  | none => return none
  | some next =>
    let region ← Region.ofPages (← .peek Bump.next) count
    .change ({ · with next })
    let allocated ← (← .peek Bump.allocated).addExact count
    .change ({ · with allocated })
    return some region

/-- Hands out enough pages to hold `size` bytes. -/
def reserve (size : Word) : Action Bump (Option Region) := allocate (pagesFor size)

/-- What has been handed out so far. -/
def used (bump : Bump) : Except Fault Region := do
  return ⟨bump.start, ← bump.next.subExact bump.start⟩

/-- The number of pages that are left. -/
def remaining (bump : Bump) : Except Fault Word := do
  return (← bump.stop.subExact bump.next) / pageSize

/-- What has been handed out is in use. -/
def mark : Action Bump Mark := do
  return .used (← .look used)

/-- The diagnostic text of a bump allocator. -/
def inspect (bump : Bump) : String :=
  let bounds := Text.record "BumpImpl"
    [("start", toString bump.start), ("end", toString bump.stop), ("ptr", toString bump.next),
      ("allocated", toString bump.allocated)]
  Text.record "BumpFrameAllocator" [("inner", "Mutex \x7b data: " ++ bounds ++ "\x7d")]

end Bump

end PageFrames
