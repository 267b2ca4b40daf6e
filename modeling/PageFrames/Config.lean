/-
# Configurations

What can be chosen for an allocator as a whole: from how many pages on an allocation or a
release is told in the log, whether a release is checked before it is made, and whether the free
list may be rebuilt for a request that needs a run of pages.
-/
import PageFrames.Word

namespace PageFrames

/-- The choices made for an allocator. -/
structure Config where
  /-- The number of pages from which on allocations and releases are told in the log. -/
  traceThreshold : Word := 8
  /-- Whether a release is checked before it is made. -/
  checkedFree : Bool := true
  /-- Whether the free list may be rebuilt to find a run. -/
  compaction : Bool := true
  deriving DecidableEq

namespace Config

/-- Whether an allocation or a release of so many pages is told in the log. -/
def traces (config : Config) (count : Word) : Bool := config.traceThreshold ≤ count

/-- The text of a truth value. -/
def boolText : Bool → String
  | true => "true"
  | false => "false"

/-- The diagnostic text of a configuration. -/
def inspect (config : Config) : String :=
  Text.record "AllocatorConfig"
    [("trace_threshold", toString config.traceThreshold),
      ("checked_free", boolText config.checkedFree), ("compaction", boolText config.compaction)]

end Config

end PageFrames
