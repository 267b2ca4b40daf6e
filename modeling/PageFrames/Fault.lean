/-
# Faults

A fault ends the operation that raised it, and whatever the operation had done by then stays
done.  It is not an answer to the caller, as a `Refusal` or a `SetupError` is, but the end
of a request that should not have been made, or of one for which there is no memory left.

Faults come from four places: arithmetic whose result does not fit its word, a row asked for
that the table does not have, a promise of the caller that is found broken, and bookkeeping that
is found to disagree with itself.  The last constructor has no place of its own: it stands for
a walk along the links of a damaged list that would go round for ever.
-/
import PageFrames.Refusal
import PageFrames.SpaceKind
import PageFrames.Page

namespace PageFrames

/-- The cause for which an operation ends without an answer. -/
inductive Fault where
  /-- A sum that does not fit its word. -/
  | addOverflow
  /-- A difference that is negative. -/
  | subOverflow
  /-- A product that does not fit its word. -/
  | mulOverflow
  /-- A row that the table does not have. -/
  | indexOutOfBounds (length index : Nat)
  /-- An alignment that is not a power of two. -/
  | oddAlignment
  /-- Bounds that are the wrong way round. -/
  | invertedBounds
  /-- A list without a head, asked to move its head. -/
  | emptyTurn
  /-- A rebuilt free list whose length is not the number of pages counted as free. -/
  | miscountedRebuild (listed : Nat) (counted : Word)
  /-- A new free list whose length is not the number of free rows. -/
  | miscountedSetup (listed : Nat) (counted : Word)
  /-- A free list that ran out while pages were still counted as free. -/
  | freeListExhausted (counted : Word)
  /-- A handle without a row, given to be released. -/
  | foreignPage (page : Page)
  /-- A page that is not in use, met in an allocation to be released. -/
  | notAllocated (address : Addr)
  /-- An allocation whose pages do not link back to the first one. -/
  | corruptedChain (first : Page)
  /-- A refusal, where the caller cannot do without the pages. -/
  | denied (reason : Refusal) (kind : SpaceKind) (region : String)
  /-- An allocator of another kind, offered as the physical one. -/
  | notPhysical (kind : SpaceKind)
  /-- An address without a page, given to be released. -/
  | outsideMemory (address : Addr)
  /-- A walk that never comes to an end. -/
  | endlessWalk
  deriving DecidableEq

namespace Fault

/-- The text of a comparison that should have come out equal. -/
def unequal (note left right : String) : String :=
  "assertion `left == right` failed" ++ note ++ "\n  left: " ++ left ++ "\n right: " ++ right

/-- The sentence that tells the cause. -/
def message : Fault → String
  | addOverflow => "attempt to add with overflow"
  | subOverflow => "attempt to subtract with overflow"
  | mulOverflow => "attempt to multiply with overflow"
  | indexOutOfBounds length index =>
    s!"index out of bounds: the len is {length} but the index is {index}"
  | oddAlignment => "Alignment must be a power of two"
  | invertedBounds => "assertion failed: start <= end"
  | emptyTurn => "assertion failed: !self.is_empty()"
  | miscountedRebuild listed counted => unequal "" (toString listed) (toString counted)
  | miscountedSetup listed counted =>
    unequal ": free list does not match the page table" (toString listed) (toString counted)
  | freeListExhausted counted =>
    s!"free list exhausted with {counted} pages accounted as free"
  | foreignPage page => s!"freeing page {page} which is outside of this allocator"
  | notAllocated address => "freeing page at " ++ address.text ++ " which is not allocated"
  | corruptedChain first => s!"compound chain of page {first} is corrupted"
  | denied reason kind region =>
    reason.message ++ " (" ++ kind.inspect ++ " region " ++ region ++ ")"
  | notPhysical kind => unequal "" kind.inspect SpaceKind.physical.inspect
  | outsideMemory address => "freeing " ++ address.text ++ " outside of physical memory"
  | endlessWalk => "the walk along the links never ends"

end Fault

end PageFrames
