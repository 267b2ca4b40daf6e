/-
# Why an allocation is refused

A request for pages is refused for one of three reasons, looked at in this order: it asks for
no page at all, for more pages than are free, or for a run of pages where the free pages hold
none that is long enough.  The last two say how many pages were free at the time.
-/
import PageFrames.Word

namespace PageFrames

/-- The reason for which a request for pages is refused. -/
inductive Refusal where
  | outOfMemory (requested available : Word)
  | noContiguousRun (requested available : Word)
  | zeroPages
  deriving DecidableEq

namespace Refusal

/-- The sentence that tells the reason. -/
def message : Refusal → String
  | outOfMemory requested available =>
    s!"out of memory: requested {requested} pages, {available} available"
  | noContiguousRun requested available =>
    s!"out of memory: no run of {requested} contiguous pages, {available} available"
  | zeroPages => "requested an allocation of zero pages"

/-- The diagnostic text of the reason. -/
def inspect : Refusal → String
  | outOfMemory requested available => counts "OutOfMemory" requested available
  | noContiguousRun requested available => counts "NoContiguousRun" requested available
  | zeroPages => "ZeroPages"
where
  counts (name : String) (requested available : Word) : String :=
    Text.record name [("requested", toString requested), ("available", toString available)]

end Refusal

end PageFrames
