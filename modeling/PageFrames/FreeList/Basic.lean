/-
# Free lists

A free list is a ring of pages threaded through the rows of a table: each row holds the pages
before and after it, and the list itself only remembers its head.  Being a ring, it finds its
tail in front of its head, so adding a page at the tail, taking one out, and moving a whole list
to the tail of another are each a handful of changes to rows.  A list without a head is empty,
which is not the same as a list of one page, whose row links to itself.

An operation on a list works on the table and answers with the list as it is afterwards.  Where
it ends with a fault, the rows changed so far stay changed and the list is the one it was given.
The order in which rows are read and changed is therefore part of what an operation is: a fault
only shows on links that are out of order, but then it shows.
-/
import PageFrames.Table

namespace PageFrames

/-- A ring of pages of a table, given by its first page. -/
structure FreeList where
  head : Option Page := none
  deriving DecidableEq

namespace FreeList

/-- The list without pages. -/
def empty : FreeList := { head := none }

/-- Whether the list has no pages. -/
def isEmpty (list : FreeList) : Bool := list.head.isNone

/-- The list with the same ring and another head, which should be a page of the ring.  The
empty list has no ring to turn. -/
def turnTo (list : FreeList) (page : Page) : Except Fault FreeList :=
  if list.isEmpty then .error .emptyTurn else .ok { head := page }

/-- Adds a page at the tail. -/
def push (list : FreeList) (page : Page) : Action Table FreeList := do
  match list.head with
  | none =>
    Table.setLink page (.toSelf page)
    return { head := page }
  | some head =>
    let tail := (← Table.read head).link.prev
    Table.setLink page ⟨tail, head⟩
    Table.setNext tail page
    Table.setPrev head page
    return list

/-- Takes a page out and joins its neighbours.  If it was the head, the page after it becomes
the head. -/
def erase (list : FreeList) (page : Page) : Action Table FreeList := do
  let ⟨prev, next⟩ := (← Table.read page).link
  if next = page then
    Table.setLink page .none
    return empty
  else
    Table.setNext prev next
    Table.setPrev next prev
    Table.setLink page .none
    return if list.head = some page then { head := next } else list

/-- Takes the head out, if there is one. -/
def pop (list : FreeList) : Action Table (Option Page × FreeList) := do
  match list.head with
  | none => return (none, list)
  | some head => return (some head, ← list.erase head)

/-- Adds all the pages of another list at the tail, in their order.  The other list is used up:
the rows that were its ring are part of this one. -/
def append (list other : FreeList) : Action Table FreeList := do
  match other.head, list.head with
  | none, _ => return list
  | some _, none => return other
  | some first, some head =>
    let tail := (← Table.read head).link.prev
    let last := (← Table.read first).link.prev
    Table.setNext tail first
    Table.setPrev first tail
    Table.setNext last head
    Table.setPrev head last
    return list

end FreeList

end PageFrames
