/-
# Access to memory

The table of an allocator has to be placed in memory, and memory is reached through a map from
addresses to pointers.  Three things are asked of it: through which pointer an address is
reached, to make a region writable, and to fill a region with zeros.

A direct map reaches every address at a fixed distance, and always has everything writable.
-/
import PageFrames.Action
import PageFrames.Region

namespace PageFrames

/-- Access to memory, as a part of a state `σ`. -/
structure MemoryAccess (σ : Type) where
  /-- The pointer through which an address is reached. -/
  pointer : Addr → Word
  /-- Makes a region writable. -/
  setWritable : Region → Action σ Unit
  /-- Fills a region with zeros. -/
  zero : Region → Action σ Unit

/-- A map that reaches every address at the distance `offset`. -/
structure DirectMap where
  offset : Word
  deriving DecidableEq

namespace DirectMap

/-- The map that reaches every address as it is. -/
def identity : DirectMap := ⟨0⟩

/-- The pointer through which an address is reached; past the top it goes on from zero. -/
def pointer (map : DirectMap) (a : Addr) : Word := a + map.offset

/-- There is nothing to be done to make a region writable, which the log is told. -/
def setWritable {σ : Type} (region : Region) : Action σ Unit := do
  let text ← region.text
  .emit .trace s!"direct map: {text} already writable"

/-- Memory, given by the byte behind each pointer, after a region has been filled with zeros. -/
def zero (map : DirectMap) (region : Region) (memory : Word → UInt8) : Word → UInt8 :=
  fun pointer => if pointer - map.pointer region.start < region.size then 0 else memory pointer

/-- Access through the map, in a state that does not show what memory holds. -/
def access {σ : Type} (map : DirectMap) : MemoryAccess σ where
  pointer := map.pointer
  setWritable := setWritable
  zero _ := return ()

/-- The diagnostic text of a direct map. -/
def inspect (map : DirectMap) : String :=
  Text.record "DirectMap" [("offset", toString map.offset)]

end DirectMap

end PageFrames
