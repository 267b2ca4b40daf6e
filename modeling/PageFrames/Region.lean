/-
# Memory regions

A region is a start and a size in bytes.  Nothing keeps it from running past the top of the
address space, so its end is optional and its last address may fail to exist: a region that
ends exactly at the top has a last address but no end, one that runs past it has neither.  An
empty region has its start for a last address, though it contains no address.
-/
import PageFrames.Exact

namespace PageFrames

/-- A contiguous range of memory: `size` bytes from `start` on. -/
structure Region where
  start : Addr := 0
  size : Word := 0
  deriving DecidableEq

namespace Region

/-! ## 1. Extent -/

/-- `count` whole pages from `start` on. -/
def ofPages (start : Addr) (count : Word) : Except Fault Region := do
  return ⟨start, ← count.mulExact pageSize⟩

/-- The first address past the end, where there is one. -/
def stop? (r : Region) : Option Addr := r.start.add? r.size

/-- The last address, or the start if the region is empty. -/
def last (r : Region) : Except Fault Addr := r.start.addExact (r.size.subFloor 1)

/-- Whether the region has no bytes. -/
def isEmpty (r : Region) : Bool := r.size == 0

/-- The number of pages that the region touches, partly touched ones included. -/
def pageCount (r : Region) : Except Fault Word := do
  if r.isEmpty then
    return 0
  let span ← (← r.last).pageNum.subExact r.start.pageNum
  span.addExact 1

/-- Whether `a` lies in the region. -/
def contains (r : Region) (a : Addr) : Bool := r.start ≤ a && a - r.start < r.size

/-- A region contains the addresses from its start on and before its end, which need not be
representable. -/
theorem contains_iff {r : Region} {a : Addr} :
    r.contains a = true ↔
      r.start.toNat ≤ a.toNat ∧ a.toNat < r.start.toNat + r.size.toNat := by
  simp only [contains, Bool.and_eq_true, decide_eq_true_eq]
  constructor
  · rintro ⟨h₁, h₂⟩
    rw [UInt64.lt_iff_toNat_lt, UInt64.toNat_sub_of_le _ _ h₁] at h₂
    rw [UInt64.le_iff_toNat_le] at h₁
    omega
  · rintro ⟨h₁, h₂⟩
    have hle : r.start ≤ a := UInt64.le_iff_toNat_le.mpr h₁
    refine ⟨hle, ?_⟩
    rw [UInt64.lt_iff_toNat_lt, UInt64.toNat_sub_of_le _ _ hle]
    omega

/-! ## 2. Texts -/

/-- The first and the last address between brackets; an empty region shows its start twice and
is open to the right. -/
def text (r : Region) : Except Fault String := do
  if r.isEmpty then
    return "[" ++ r.start.text ++ "-" ++ r.start.text ++ ")"
  else
    return "[" ++ r.start.text ++ "-" ++ (← r.last).text ++ "]"

/-- The diagnostic text of a region. -/
def inspect (r : Region) : String :=
  Text.record "MemoryRegion" [("start", r.start.inspect), ("size", toString r.size)]

end Region

end PageFrames
