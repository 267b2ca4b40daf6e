/-
# Walks along the links

Three walks follow handles from row to row.  They are asked of tables in any condition, so each
is bounded by the number of rows in its own way, and each ends with a fault at the first handle
without a row.

* `Table.ringLength` counts the pages of a ring by going round it.  The count gives up once it
  exceeds the number of rows, which no ring does; then the page it started from is not on a ring.
* `Table.walk` lists the pages from one page on, up to a given number, until the page to stop at
  comes next.
* `Table.allFree` asks whether all the pages of a walk are free.  Nothing bounds this walk but
  the first page in use, so among free pages that lead into a ring without the page it started
  from, it would go round for ever.  More free pages than there are rows prove that this is so,
  and the walk then ends with the fault that says it.
-/
import PageFrames.FreeList.Basic

namespace PageFrames

namespace Table

/-! ## 1. The length of a ring -/

/-- Counts on from `page` until `start` comes, at most `bound` pages. -/
def countTo (succ : Descriptor → Page) (table : Table) (start : Page) :
    (bound : Nat) → (page : Page) → Except Fault Nat
  | 0, _ => .ok 0
  | bound + 1, page =>
    if page = start then
      .ok 0
    else do
      let row ← table.row page
      return (← countTo succ table start bound (succ row)) + 1

/-- The number of pages of the ring through `start`, where `succ` names the page after each.  If
there is no such ring, one more than the number of rows. -/
def ringLength (succ : Descriptor → Page) (table : Table) (start : Page) : Except Fault Nat := do
  let row ← table.row start
  return (← countTo succ table start table.size (succ row)) + 1

/-! ## 2. The pages of a list -/

/-- The pages of a list from `page` on until `stop` comes next, at most `bound` of them. -/
def walk (table : Table) (stop : Page) : (bound : Nat) → (page : Page) → Except Fault (List Page)
  | 0, _ => .ok []
  | bound + 1, page => do
    let next := (← table.row page).next
    if next = stop then
      return [page]
    else
      return page :: (← walk table stop bound next)

/-- Whether the pages of a list from `page` on until `stop` comes next are all free.  A walk of
`bound` free pages that has not ended is taken never to end. -/
def allFree (table : Table) (stop : Page) : (bound : Nat) → (page : Page) → Except Fault Bool
  | 0, _ => .error .endlessWalk
  | bound + 1, page => do
    let row ← table.row page
    if !row.isFree then
      return false
    else if row.next = stop then
      return true
    else
      allFree table stop bound row.next

end Table

namespace FreeList

/-- The number of pages of the list. -/
def length (list : FreeList) (table : Table) : Except Fault Nat :=
  match list.head with
  | none => .ok 0
  | some head => table.ringLength Descriptor.next head

/-- The pages of the list from the head on, at most `bound` of them. -/
def pages (list : FreeList) (table : Table) (bound : Nat) : Except Fault (List Page) :=
  match list.head with
  | none => .ok []
  | some head => table.walk head bound head

/-- Whether all the pages of the list are free. -/
def allFree (list : FreeList) (table : Table) : Except Fault Bool :=
  match list.head with
  | none => .ok true
  | some head => table.allFree head (table.size + 1) head

end FreeList

end PageFrames
