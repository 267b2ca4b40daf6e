/-
# Two lists over one table

Two free lists can be threaded through one table, as long as no page is on both.  This is the
situation of a release, where the pages given back are gathered on a list of their own before
that list is moved to the tail of the other one.  `ListPair.apply` is the whole repertoire of
changes to such a pair, one list at a time.
-/
import PageFrames.FreeList.Walk

namespace PageFrames

/-- A table and two free lists over it. -/
structure ListPair where
  table : Table
  first : FreeList := .empty
  second : FreeList := .empty

/-- One of the two lists. -/
inductive ListSlot where
  | first
  | second
  deriving DecidableEq

/-- The list beside this one. -/
def ListSlot.other : ListSlot → ListSlot
  | first => second
  | second => first

/-- A change to one list of a pair. -/
inductive ListChange where
  | push (page : Page)
  | erase (page : Page)
  | turnTo (page : Page)
  | pop
  /-- Moves the pages of the other list to the tail of this one. -/
  | append
  deriving DecidableEq

namespace ListPair

/-- The list in a slot. -/
def list (pair : ListPair) : ListSlot → FreeList
  | .first => pair.first
  | .second => pair.second

/-- Puts a list into a slot. -/
def put (slot : ListSlot) (list : FreeList) : Action ListPair Unit :=
  .change fun pair =>
    match slot with
    | .first => { pair with first := list }
    | .second => { pair with second := list }

/-- An action on the table alone. -/
def onTable {α : Type} : Action Table α → Action ListPair α :=
  .onPart fun pair =>
    match pair with
    | ⟨table, first, second⟩ => (table, fun table => ⟨table, first, second⟩)

/-- Makes one change.  It answers with the page it took out, if it takes out the first one. -/
def apply (slot : ListSlot) (change : ListChange) : Action ListPair (Option Page) := do
  let list ← .peek (·.list slot)
  match change with
  | .push page =>
    put slot (← onTable (list.push page))
    return none
  | .erase page =>
    put slot (← onTable (list.erase page))
    return none
  | .turnTo page =>
    put slot (← list.turnTo page)
    return none
  | .pop =>
    let (page, rest) ← onTable list.pop
    put slot rest
    return page
  | .append =>
    let other ← .peek (·.list slot.other)
    put slot.other .empty
    put slot (← onTable (list.append other))
    return none

end ListPair

end PageFrames
