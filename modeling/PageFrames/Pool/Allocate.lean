/-
# Taking pages

A request is granted by taking the head of the free list as often as pages are asked for.  The
pages taken are linked into a ring by their compound links as they come: each new one is entered
between the last one and the first.  Contiguous pages are no exception, because the free list is
turned first, to have the first page of a run for its head.

A refusal is decided before any page is taken.
-/
import PageFrames.Pool.Search

namespace PageFrames.Pool

/-- Takes the head of the free list into use, if there is one. -/
def takeHead (tag : Tag) : Action Pool (Option Page) := do
  match ← onFree (·.pop) with
  | none => return none
  | some page =>
    onTable (Table.update page (.taken tag))
    countTaken 1
    return some page

/-- Takes the head of the free list into use; the count of free pages says that there is one. -/
def take (tag : Tag) : Action Pool Page := do
  match ← takeHead tag with
  | some page => return page
  | none => .fault (.freeListExhausted (← .peek Pool.freePages))

/-- Takes `count` more pages into the ring from `first` to `last`. -/
def takeMore (tag : Tag) (first : Page) : (count : Nat) → (last : Page) → Action Pool Unit
  | 0, _ => return ()
  | count + 1, last => do
    let page ← take tag
    onTable (Table.setCompound last page)
    onTable (Table.setCompound page first)
    takeMore tag first count page

/-- Takes `count` pages, at least one, into a new ring, and answers with the first of them. -/
def takeRing (tag : Tag) (count : Nat) : Action Pool Page := do
  let first ← take tag
  onTable (Table.setCompound first first)
  takeMore tag first (count - 1) first
  return first

/-- Takes `count` pages under a tag, in a run if `contiguous` asks for it. -/
def allocate (count : Word) (contiguous compaction : Bool) (tag : Tag) :
    Action Pool (Except Refusal Page) := do
  let available ← .peek Pool.freePages
  if count = 0 then
    return .error .zeroPages
  else if available < count then
    return .error (.outOfMemory count available)
  else if contiguous && 1 < count then
    match ← seekRun count compaction with
    | none => return .error (.noContiguousRun count available)
    | some start =>
      setFree (← (← .peek Pool.free).turnTo start)
      grant
  else
    grant
where
  /-- Takes the pages and counts the request. -/
  grant : Action Pool (Except Refusal Page) := do
    let first ← takeRing tag count.toNat
    countAllocation
    return .ok first

end PageFrames.Pool
