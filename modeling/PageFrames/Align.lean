/-
# Alignment

An address is moved to a multiple of an alignment, which has to be a power of two, by clearing
its lower bits: downwards as it stands, upwards after the alignment less one has been added.
The alignment is added first and one is taken off the sum, so the upward move needs room for
the whole sum: within one alignment of the top of the address space it ends with a fault, even
for an address that is aligned already.
-/
import PageFrames.Exact

namespace PageFrames.Word

/-- Whether exactly one bit is set. -/
def isPowerOfTwo (a : Word) : Bool := a != 0 && a &&& (a - 1) == 0

/-- The bits below the alignment, or a fault where it is not a power of two. -/
def offsetMask (align : Word) : Except Fault Word :=
  if align.isPowerOfTwo then .ok (align - 1) else .error .oddAlignment

/-- The next multiple of the alignment at or above `value`. -/
def alignUp (value align : Word) : Except Fault Word := do
  let mask ← offsetMask align
  let sum ← value.addExact align
  let sum ← sum.subExact 1
  return sum &&& ~~~mask

/-- The next multiple of the alignment at or below `value`. -/
def alignDown (value align : Word) : Except Fault Word := do
  let mask ← offsetMask align
  return value &&& ~~~mask

/-- Whether `value` is a multiple of the alignment. -/
def isAligned (value align : Word) : Except Fault Bool := do
  let mask ← offsetMask align
  return value &&& mask == 0

end PageFrames.Word
