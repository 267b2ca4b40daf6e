/-
# Giving pages back

The pages of an allocation are given back together, from any one of them: its ring is followed
once round, each page is marked free and put on a list of its own, and that list is moved to the
tail of the free list.

A release can be checked.  The check goes round the ring before anything is changed, and ends
with a fault if it meets a page that is not in use or does not come back within as many pages as
there are rows.  Without the check the handle is taken on trust.  Even then the way round the
ring ends: each page passed loses its compound link, so a page that is passed for the second
time leads to `Page.nil`, which has no row.  One page more than there are rows, and one for that
row, is therefore as far as it goes.
-/
import PageFrames.Pool.Basic

namespace PageFrames.Pool

/-! ## 1. The check -/

/-- Checks the pages from `page` on until `first` comes.  `bound` is the number of pages that
may still be passed. -/
def checkFrom (table : Table) (first : Page) : (bound : Nat) → (page : Page) → Except Fault Unit
  | bound, page => do
    let row ← table.row page
    if row.isFree then
      throw (.notAllocated row.address)
    match bound with
    | 0 => throw (.corruptedChain first)
    | bound + 1 =>
      if row.compound = first then
        return ()
      else
        checkFrom table first bound row.compound

/-- Checks that all the pages of the allocation of `first` are in use. -/
def checkRing (pool : Pool) (first : Page) : Except Fault Unit :=
  if first.toNat < pool.table.size then
    checkFrom pool.table first pool.table.size first
  else
    .error (.foreignPage first)

/-! ## 2. The release -/

/-- Gathers the pages from `page` on, until `first` comes, on a list.  It answers with the list
and the number of pages passed. -/
def gather (first : Page) :
    (bound : Nat) → (page : Page) → (chain : FreeList) → Action Table (FreeList × Nat)
  | 0, _, _ => .fault .endlessWalk
  | bound + 1, page, chain => do
    let next := (← Table.read page).compound
    Table.update page .released
    let chain ← chain.push page
    if next = first then
      return (chain, 1)
    else
      let (chain, count) ← gather first bound next chain
      return (chain, count + 1)

/-- Gives back the allocation of `first`, and answers with the number of its pages. -/
def release (first : Page) (checked : Bool) : Action Pool Word := do
  if checked then
    .look (·.checkRing first)
  let (chain, count) ← onTable (gather first ((← .peek (·.table.size)) + 2) first .empty)
  onFree fun free => return ((), ← free.append chain)
  countReleased count.toUInt64
  return count.toUInt64

/-! ## 3. The length of an allocation -/

/-- The number of pages of the allocation of `first`. -/
def compoundLength (pool : Pool) (first : Page) : Except Fault Nat :=
  pool.table.ringLength Descriptor.compound first

end PageFrames.Pool
