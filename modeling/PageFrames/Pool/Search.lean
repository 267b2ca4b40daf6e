/-
# The search for a run

A request for contiguous pages needs a run: pages with consecutive numbers.  The search follows
the free list from its head and extends the run it is in as long as the next page has the next
number; any other page starts a new run.  It is over when the run is long enough, or when as many
pages have been looked at as are free, so it does not go on from the tail to the head again.

Since the list is in the order in which pages were given back, a run of the table can be hidden
from the search.  `Pool.seekRun` rebuilds the list in ascending order when the first search finds
nothing, and searches once more; then a run is found if the table has one.
-/
import PageFrames.Pool.Basic

namespace PageFrames.Pool

/-- Extends the run that began with `start`, has `length` pages and ends with `last`, looking at
`rest` more pages at most. -/
def extendRun (table : Table) (count : Nat) (start last : Page) (length : Nat) :
    (rest : Nat) → Except Fault (Option Page)
  | 0 => .ok (if count ≤ length then some start else none)
  | rest + 1 =>
    if count ≤ length then
      .ok (some start)
    else do
      let next := (← table.row last).next
      if next = (← last.succExact) then
        extendRun table count start next (length + 1) rest
      else
        extendRun table count next next 1 rest

/-- The first page of the first run of `count` pages on the free list. -/
def firstRun (pool : Pool) (count : Word) : Except Fault (Option Page) :=
  match pool.free.head with
  | none => .ok none
  | some head => extendRun pool.table count.toNat head head 1 (pool.freePages.toNat - 1)

/-- The first page of a run of `count` pages.  Where the free list shows none and `compaction`
allows it, the list is rebuilt first. -/
def seekRun (count : Word) (compaction : Bool) : Action Pool (Option Page) := do
  match ← .look (·.firstRun count) with
  | some start => return some start
  | none =>
    if compaction then
      .emit .warn s!"no run of {count} contiguous pages on the free list"
      compact
      .look (·.firstRun count)
    else
      return none

end PageFrames.Pool
