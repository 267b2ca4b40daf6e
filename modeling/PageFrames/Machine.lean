/-
# Physical memory with address spaces

The physical memory of a machine together with the address spaces that were set up on it.  The
spaces are numbered in the order in which they were asked for.  One that could not be set up has
its number too, but no allocator.

An action on the machine acts on physical memory (`Machine.onMemory`), on one space
(`Machine.onSpace`), or on both: setting up a space takes pages from physical memory and gives
the space its number (`Machine.setupSpace`).
-/
import PageFrames.Physical

namespace PageFrames

/-- Physical memory and the address spaces set up on it, in order; a failed one is `none`. -/
structure Machine where
  memory : PhysicalMemory
  spaces : Array (Option Allocator) := #[]
  deriving DecidableEq

namespace Machine

variable {α : Type}

/-- The allocator of a space, if the space was set up. -/
def space? (machine : Machine) (number : Nat) : Option Allocator := (machine.spaces[number]?).join

/-- An action on physical memory alone. -/
def onMemory : Action PhysicalMemory α → Action Machine α :=
  .onPart fun machine =>
    match machine with
    | ⟨memory, spaces⟩ => (memory, fun memory => ⟨memory, spaces⟩)

/-- An action on the allocator of a space.  Where there is none, nothing is done. -/
def onSpace (number : Nat) (m : Action Allocator α) : Action Machine (Option α) :=
  ⟨fun machine =>
    match machine.space? number with
    | none => ⟨.ok none, machine, []⟩
    | some allocator =>
      match m.run allocator with
      | ⟨result, allocator, log⟩ =>
        ⟨result.map some,
          { machine with spaces := machine.spaces.setIfInBounds number (some allocator) }, log⟩⟩

/-- Gives the next number to a space. -/
def addSpace (machine : Machine) (allocator : Option Allocator) : Machine :=
  { machine with spaces := machine.spaces.push allocator }

/-- Sets up a space by an action on physical memory.  However the action ends, a number is used
up. -/
def setupSpace (attempt : Action PhysicalMemory (Except SetupError (Allocator × List Word))) :
    Action Machine (Except SetupError (Allocator × List Word)) :=
  ⟨fun machine =>
    match (onMemory attempt).run machine with
    | ⟨.ok (.ok (allocator, counts)), machine, log⟩ =>
      ⟨.ok (.ok (allocator, counts)), machine.addSpace (some allocator), log⟩
    | ⟨result, machine, log⟩ => ⟨result, machine.addSpace none, log⟩⟩

end Machine

end PageFrames
