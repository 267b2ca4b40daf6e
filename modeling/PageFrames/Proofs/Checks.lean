/-
# The checks of a setup

What a setup looks at before it touches any memory is five questions about the region, and two
about the memory for the table, each in this order.  The questions are stated in the natural
numbers (`Region.checks`, `tableChecks`); which of them is answered first in the wrong way decides
about the error (`firstFailure`).
-/
import PageFrames.Proofs.Marking
import PageFrames.Setup

namespace PageFrames

/-! ## 1. Lists of checks -/

/-- The reason of the first check that fails, if one does. -/
def firstFailure (checks : List (Bool × SetupError)) : Option SetupError :=
  (checks.find? Prod.fst).map Prod.snd

section Checks

variable {fails : Bool} {reason : SetupError} {checks : List (Bool × SetupError)}

theorem firstFailure_of_fails (h : fails = true) :
    firstFailure ((fails, reason) :: checks) = some reason := by
  rw [firstFailure, List.find?_cons_of_pos h]
  rfl

theorem firstFailure_of_passes (h : fails = false) :
    firstFailure ((fails, reason) :: checks) = firstFailure checks := by
  rw [firstFailure, firstFailure, List.find?_cons_of_neg (by simp [h])]

/-- Nothing fails if no check does. -/
theorem firstFailure_eq_none_iff : firstFailure checks = none ↔ ∀ c ∈ checks, c.1 = false := by
  simp [firstFailure]

end Checks

namespace Region

variable {region : Region}

/-! ## 2. The region -/

/-- The number of whole pages of the region. -/
def pages (region : Region) : Nat := region.size.toNat / 4096

/-- What can be wrong with a region that is to be managed, in the order of the checks. -/
def checks (region : Region) : List (Bool × SetupError) :=
  [(region.start.toNat % 4096 ≠ 0, .unalignedRegion region.start),
    (region.size.toNat % 4096 ≠ 0, .invalidSize region.size),
    (region.pages = 0, .emptyRegion),
    (2 ^ 64 < region.start.toNat + region.size.toNat, .wrapsAround region.start),
    (2 ^ 32 - 1 ≤ region.pages, .tooManyPages region.pages.toUInt64)]

/-- The number of bytes of a table for the region. -/
def tableSize (region : Region) : Word := (40 * region.pages).toUInt64

theorem pages_lt (region : Region) : region.pages < 2 ^ 52 := by
  have hlt := region.size.toNat_lt
  rw [pages]
  omega

theorem toNat_tableSize (region : Region) : region.tableSize.toNat = 40 * region.pages := by
  have hlt := region.pages_lt
  exact Word.toNat_toUInt64 (by omega)

/-- The whole pages of a region end at the top or before it if the region does. -/
theorem Fits.start_add_pages_le (h : region.Fits) :
    region.start.toNat + region.pages * 4096 ≤ 2 ^ 64 :=
  (Nat.add_le_add_left (Nat.div_mul_le_self _ _) _).trans h

theorem toNat_size_div (region : Region) : (region.size / pageSize).toNat = region.pages :=
  UInt64.toNat_div region.size pageSize

theorem size_div_eq (region : Region) : region.size / pageSize = region.pages.toUInt64 := by
  have hlt := region.pages_lt
  rw [← UInt64.toNat_inj, Word.toNat_toUInt64 (by omega), toNat_size_div]

/-- The number of bytes of a table always fits a word. -/
theorem mulExact_size_div (region : Region) :
    (region.size / pageSize).mulExact Descriptor.size = .ok region.tableSize := by
  rw [Word.mulExact_eq_ok_iff, toNat_size_div, toNat_tableSize]
  exact Nat.mul_comm _ _

/-- Whether a region that is not empty runs past the top shows in its last address. -/
theorem isNone_add?_iff {below : Word} (h : below.toNat + 1 = region.size.toNat) :
    (region.start.add? below).isNone ↔ 2 ^ 64 < region.start.toNat + region.size.toNat := by
  rw [Word.add?]
  have hsize : UInt64.size = 2 ^ 64 := rfl
  split
  · simp only [Option.isNone_some, Bool.false_eq_true, false_iff]
    omega
  · simp only [Option.isNone_none, true_iff]
    omega

/-- **A region is admitted if no check fails,** with the size of its table, and refused for the
first reason that there is.  The arithmetic between the checks never fails: what a sum or a
difference needs has been checked before. -/
theorem admit_eq (region : Region) :
    region.admit = .ok (match firstFailure region.checks with
      | some reason => .error reason
      | none => .ok region.tableSize) := by
  have haligned : ∀ a : Word, a.isAligned pageSize = .ok (decide (a.toNat % 4096 = 0)) := by
    intro a
    have hiff : Addr.pageOffset a = 0 ↔ a.toNat % 4096 = 0 := by
      rw [← UInt64.toNat_inj, Addr.toNat_pageOffset, UInt64.toNat_zero]
    exact congrArg Except.ok (decide_eq_decide.mpr hiff)
  have hcount : region.size / pageSize = 0 ↔ region.pages = 0 := by
    rw [← UInt64.toNat_inj, toNat_size_div, UInt64.toNat_zero]
  have hmany : Page.nil.toUInt64 ≤ region.size / pageSize ↔ 2 ^ 32 - 1 ≤ region.pages := by
    rw [UInt64.le_iff_toNat_le, toNat_size_div]
    rfl
  unfold Region.admit
  rw [haligned, haligned, checks]
  simp only [bind, Except.bind, pure, Except.pure]
  by_cases hstart : region.start.toNat % 4096 = 0
  case neg =>
    rw [firstFailure_of_fails (by simpa using hstart)]
    simp [hstart]
  rw [firstFailure_of_passes (by simpa using hstart)]
  by_cases hmod : region.size.toNat % 4096 = 0
  case neg =>
    rw [firstFailure_of_fails (by simpa using hmod)]
    simp [hstart, hmod]
  rw [firstFailure_of_passes (by simpa using hmod)]
  by_cases hempty : region.pages = 0
  case pos =>
    rw [firstFailure_of_fails (by simpa using hempty)]
    simp [hstart, hmod, hcount, hempty]
  rw [firstFailure_of_passes (by simpa using hempty)]
  have hpos : 1 ≤ region.size.toNat := by
    rw [pages] at hempty
    omega
  obtain ⟨below, hbelow, hnat⟩ := Word.exists_subExact (a := region.size) (b := 1) hpos
  have hlast := isNone_add?_iff hnat
  by_cases hwraps : 2 ^ 64 < region.start.toNat + region.size.toNat
  case pos =>
    rw [firstFailure_of_fails (by simpa using hwraps)]
    simp [hstart, hmod, hcount, hempty, hbelow, hlast.mpr hwraps]
  rw [firstFailure_of_passes (by simpa using hwraps)]
  by_cases hpages : 2 ^ 32 - 1 ≤ region.pages
  case pos =>
    rw [firstFailure_of_fails (by simpa using hpages), ← size_div_eq]
    simp [hstart, hmod, hcount, hempty, hbelow, hlast.not.mpr hwraps, hmany.mpr hpages]
  rw [firstFailure_of_passes (by simpa using hpages)]
  simp [hstart, hmod, hcount, hempty, hbelow, hlast.not.mpr hwraps, hmany.not.mpr hpages,
    mulExact_size_div, firstFailure]

/-- What is known of a region that no check fails for. -/
theorem passes_iff :
    firstFailure region.checks = none ↔
      region.start.toNat % 4096 = 0 ∧ region.size.toNat % 4096 = 0 ∧ region.pages ≠ 0 ∧
        region.Fits ∧ region.pages < 2 ^ 32 - 1 := by
  simp [firstFailure_eq_none_iff, checks, Fits]

/-- **A region that is admitted** passes every check, and its table has the size that is
answered. -/
theorem of_admit {size : Word} (h : region.admit = .ok (.ok size)) :
    firstFailure region.checks = none ∧ size = region.tableSize := by
  rw [admit_eq, Except.ok.injEq] at h
  split at h
  · cases h
  · rename_i hpasses
    exact ⟨hpasses, (Except.ok.inj h).symm⟩

end Region

/-! ## 3. The memory for the table -/

/-- What can be wrong with the memory that was granted for a table of `size` bytes, in the order
of the checks, where memory is reached through the pointers `pointer`. -/
def tableChecks (pointer : Addr → Word) (size : Word) :
    Option Region → List (Bool × SetupError)
  | none => [(true, .metadataUnavailable size)]
  | some metadata =>
    [(metadata.size.toNat < size.toNat, .metadataUnavailable size),
      ((pointer metadata.start).toNat % 8 ≠ 0, .unalignedMetadata metadata.start)]

theorem tableChecks_pass_iff {pointer : Addr → Word} {size : Word} {metadata : Region} :
    firstFailure (tableChecks pointer size (some metadata)) = none ↔
      size.toNat ≤ metadata.size.toNat ∧ (pointer metadata.start).toNat % 8 = 0 := by
  simp [firstFailure_eq_none_iff, tableChecks]

end PageFrames
