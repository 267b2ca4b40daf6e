/-
# Kinds of address space

The one difference between the two kinds that an allocator acts on: pages of installed memory
may be scattered over an allocation, pages of a mapped range are always contiguous.
-/

namespace PageFrames

/-- The kind of address space that an allocator manages. -/
inductive SpaceKind where
  /-- Installed memory. -/
  | physical
  /-- The mapped range of an address space. -/
  | virtual
  deriving DecidableEq

/-- The name of the kind. -/
def SpaceKind.inspect : SpaceKind → String
  | physical => "Physical"
  | virtual => "Virtual"

end PageFrames
