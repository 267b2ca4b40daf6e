/-
# Results that fit

Exact arithmetic answers wherever the result fits a word, and the answer is the result in the
natural numbers; a computation made of several steps answers if each of them does.  The greater and
the lesser of two words are those of the natural numbers.

A mask splits a word into two parts that add up to it.  An alignment is a power of two, so the bits
below it are the remainder (`Word.toNat_and_sub_one`), and clearing them leaves a multiple: of an
address without its offset, this is the first address of its page.
-/
import Mathlib.Algebra.GroupWithZero.Nat
import PageFrames.Align

namespace PageFrames

/-! ## 1. Exact arithmetic -/

/-- A computation that answers has gone through an answer. -/
theorem exists_of_bind_eq_ok {α β : Type} {result : Except Fault α} {f : α → Except Fault β}
    {b : β} (h : result >>= f = .ok b) : ∃ a, result = .ok a ∧ f a = .ok b := by
  cases result with
  | error fault => cases h
  | ok a => exact ⟨a, rfl, h⟩

/-- The fault of a computation is the fault of one of its parts. -/
theorem bind_ne_error {α β : Type} {cause : Fault} {result : Except Fault α}
    {f : α → Except Fault β} (h : result ≠ .error cause) (hf : ∀ a, f a ≠ .error cause) :
    result >>= f ≠ .error cause := by
  cases result with
  | error fault =>
    rintro ⟨⟩
    exact h rfl
  | ok a => exact hf a

/-- Where something is missing, there is no other fault than the one that says so. -/
theorem orFault_ne_error {α : Type} {fault cause : Fault} (h : fault ≠ cause) (x : Option α) :
    orFault fault x ≠ .error cause := by
  cases x with
  | none => exact fun he => h (Except.error.inj he)
  | some a => exact nofun

namespace Word

variable {a b value align : Word}

theorem toNat_toUInt64 {n : Nat} (h : n < 2 ^ 64) : n.toUInt64.toNat = n := by
  rw [Nat.toUInt64, UInt64.toNat_ofNat']
  exact Nat.mod_eq_of_lt h

theorem exists_addExact (h : a.toNat + b.toNat < 2 ^ 64) :
    ∃ c, a.addExact b = .ok c ∧ c.toNat = a.toNat + b.toNat := by
  have hsum : (a + b).toNat = a.toNat + b.toNat := by
    rw [UInt64.toNat_add, Nat.mod_eq_of_lt h]
  exact ⟨a + b, addExact_eq_ok_iff.mpr hsum.symm, hsum⟩

theorem addExact_of_le (h : 2 ^ 64 ≤ a.toNat + b.toNat) : a.addExact b = .error .addOverflow := by
  have hle : ¬ a.toNat + b.toNat < UInt64.size := Nat.not_lt.mpr h
  rw [addExact, add?, if_neg hle]
  rfl

theorem exists_subExact (h : b.toNat ≤ a.toNat) :
    ∃ c, a.subExact b = .ok c ∧ c.toNat + b.toNat = a.toNat := by
  have hdiff := UInt64.toNat_sub_of_le _ _ (UInt64.le_iff_toNat_le.mpr h)
  have hsum : (a - b).toNat + b.toNat = a.toNat := by omega
  exact ⟨a - b, subExact_eq_ok_iff.mpr hsum, hsum⟩

theorem exists_mulExact (h : a.toNat * b.toNat < 2 ^ 64) :
    ∃ c, a.mulExact b = .ok c ∧ c.toNat = a.toNat * b.toNat := by
  have hprod : (a * b).toNat = a.toNat * b.toNat := by
    rw [UInt64.toNat_mul, Nat.mod_eq_of_lt h]
  exact ⟨a * b, mulExact_eq_ok_iff.mpr hprod.symm, hprod⟩

/-- Arithmetic ends, whether or not the result fits. -/
theorem addExact_ne_endlessWalk (a b : Word) : a.addExact b ≠ .error .endlessWalk :=
  orFault_ne_error (by decide) _

theorem mulExact_ne_endlessWalk (a b : Word) : a.mulExact b ≠ .error .endlessWalk :=
  orFault_ne_error (by decide) _

theorem toNat_max (a b : Word) : (max a b).toNat = max a.toNat b.toNat := by
  show (if a ≤ b then b else a).toNat = _
  split <;> rename_i h <;> rw [UInt64.le_iff_toNat_le] at h <;> omega

theorem toNat_min (a b : Word) : (min a b).toNat = min a.toNat b.toNat := by
  show (if a ≤ b then a else b).toNat = _
  split <;> rename_i h <;> rw [UInt64.le_iff_toNat_le] at h <;> omega

/-! ## 2. Masks -/

/-- What a mask clears and what it keeps add up to the word. -/
theorem toNat_and_not_add_toNat_and (value mask : Word) :
    (value &&& ~~~mask).toNat + (value &&& mask).toNat = value.toNat := by
  have hapart : (value &&& ~~~mask).toBitVec &&& (value &&& mask).toBitVec = 0 := by
    ext i
    simp only [UInt64.toBitVec_and, UInt64.toBitVec_not, BitVec.getElem_and, BitVec.getElem_not]
    cases mask.toBitVec[i] <;> simp
  have hjoin : (value &&& ~~~mask).toBitVec ||| (value &&& mask).toBitVec = value.toBitVec := by
    ext i
    simp only [UInt64.toBitVec_and, UInt64.toBitVec_not, BitVec.getElem_or, BitVec.getElem_and,
      BitVec.getElem_not]
    cases mask.toBitVec[i] <;> simp
  have hsum := BitVec.toNat_add_of_and_eq_zero hapart
  rw [BitVec.add_eq_or_of_and_eq_zero _ _ hapart, hjoin] at hsum
  exact hsum.symm

/-- One bit is set if the number is a power of two. -/
theorem isPowerOfTwo_iff : align.isPowerOfTwo = true ↔ align.toNat.isPowerOfTwo := by
  by_cases hzero : align = 0
  · subst hzero
    constructor
    · intro h
      cases h
    · intro h
      exact absurd (Nat.pos_of_isPowerOfTwo h) (Nat.lt_irrefl 0)
  · have hne : align.toNat ≠ 0 := fun h => hzero (UInt64.toNat_inj.mp h)
    have hpred : (align - 1).toNat = align.toNat - 1 :=
      UInt64.toNat_sub_of_le _ _ (UInt64.le_iff_toNat_le.mpr (Nat.one_le_iff_ne_zero.mpr hne))
    rw [← Nat.and_sub_one_eq_zero_iff_isPowerOfTwo hne, ← hpred, ← UInt64.toNat_and]
    simp [isPowerOfTwo, hzero, ← UInt64.toNat_inj]

theorem offsetMask_eq_ok (h : align.toNat.isPowerOfTwo) : offsetMask align = .ok (align - 1) := by
  rw [offsetMask, if_pos (isPowerOfTwo_iff.mpr h)]

theorem toNat_sub_one (h : align.toNat.isPowerOfTwo) : (align - 1).toNat = align.toNat - 1 :=
  UInt64.toNat_sub_of_le _ _ (UInt64.le_iff_toNat_le.mpr (Nat.pos_of_isPowerOfTwo h))

/-- **The bits below an alignment are the remainder.** -/
theorem toNat_and_sub_one (h : align.toNat.isPowerOfTwo) :
    (value &&& (align - 1)).toNat = value.toNat % align.toNat := by
  rw [UInt64.toNat_and, toNat_sub_one h]
  obtain ⟨k, hk⟩ := h
  rw [hk, Nat.and_two_pow_sub_one_eq_mod]

/-- **What is left without them is a multiple.** -/
theorem toNat_and_not_sub_one (h : align.toNat.isPowerOfTwo) :
    (value &&& ~~~(align - 1)).toNat = value.toNat / align.toNat * align.toNat := by
  have hsum := toNat_and_not_add_toNat_and value (align - 1)
  have hdiv := Nat.div_add_mod' value.toNat align.toNat
  rw [toNat_and_sub_one h] at hsum
  omega

end Word

theorem isPowerOfTwo_pageSize : pageSize.toNat.isPowerOfTwo := ⟨12, rfl⟩

/-! ## 3. Addresses and their pages -/

namespace Addr

/-- An address without its offset is the first one of its page. -/
theorem toNat_and_pageMask (a : Addr) : (a &&& pageMask).toNat = a.toNat / 4096 * 4096 :=
  Word.toNat_and_not_sub_one isPowerOfTwo_pageSize

/-- Moving an address down to the start of a page clears its offset. -/
theorem alignDown_pageSize (a : Addr) : a.alignDown pageSize = .ok (a &&& pageMask) := rfl

/-- An address moved up to the start of a page is the least such address that is not below it. -/
theorem toNat_of_alignUp_pageSize {a b : Addr} (h : a.alignUp pageSize = .ok b) :
    b.toNat = (a.toNat + 4095) / 4096 * 4096 := by
  obtain ⟨mask, hmask, h⟩ := exists_of_bind_eq_ok h
  obtain ⟨sum, hsum, h⟩ := exists_of_bind_eq_ok h
  obtain ⟨last, hlast, h⟩ := exists_of_bind_eq_ok h
  rw [Word.addExact_eq_ok_iff, toNat_pageSize] at hsum
  rw [Word.subExact_eq_ok_iff, UInt64.toNat_one] at hlast
  obtain rfl : last &&& pageMask = b := by
    cases hmask
    exact Except.ok.inj h
  rw [toNat_and_pageMask, show last.toNat = a.toNat + 4095 by omega]

end Addr

end PageFrames
