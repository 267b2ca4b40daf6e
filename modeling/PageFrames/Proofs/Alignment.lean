/-
# Multiples of an alignment

The move downwards clears the bits below an alignment, which leaves the greatest multiple that is
not above a value, for every value.

The move upwards adds the whole alignment to a value before it takes one off again.  Where that sum
fits a word, the answer is the least multiple that is not below the value; where it does not, the
move ends with a fault.  Most of the values for which it does not fit have no such multiple that is
a word, and can have no answer.  One of them has: the last multiple below the top of the address
space, which is aligned as it stands (`Word.Aligns.missed`).

The bounds of a new bump allocator are moved to the size of a page, so it cannot begin at the last
page of the address space either (`Bump.Creates.missed`).
-/
import Mathlib.Order.Bounds.Basic
import PageFrames.Proofs.Bump

namespace PageFrames

/-! ## 1. The three operations -/

namespace Word

variable {value align : Word}

theorem isGreatest_div_mul (value align : Nat) :
    IsGreatest {m | align ∣ m ∧ m ≤ value} (value / align * align) := by
  refine ⟨⟨Nat.dvd_mul_left _ _, Nat.div_mul_le_self _ _⟩, ?_⟩
  rintro m ⟨hdvd, hle⟩
  calc
    m = m / align * align := (Nat.div_mul_cancel hdvd).symm
    _ ≤ value / align * align := Nat.mul_le_mul_right _ (Nat.div_le_div_right hle)

theorem isLeast_div_mul (value : Nat) {align : Nat} (h : 0 < align) :
    IsLeast {m | align ∣ m ∧ value ≤ m} ((value + (align - 1)) / align * align) := by
  have hmod := Nat.mod_lt (value + (align - 1)) h
  have hdiv := Nat.div_add_mod' (value + (align - 1)) align
  refine ⟨⟨Nat.dvd_mul_left _ _, by omega⟩, ?_⟩
  rintro m ⟨⟨c, rfl⟩, hle⟩
  -- the sum is less than one alignment above the multiple
  have hlt : (value + (align - 1)) / align < c + 1 := by
    rw [Nat.div_lt_iff_lt_mul h, Nat.add_mul, Nat.one_mul, Nat.mul_comm]
    omega
  rw [Nat.mul_comm align]
  exact Nat.mul_le_mul_right _ (Nat.le_of_lt_succ hlt)

/-- An alignment divides the number of words, so a multiple that fits leaves room for all but the
last byte of one alignment more. -/
theorem exists_multiple_iff (h : align.toNat.isPowerOfTwo) :
    (∃ m < 2 ^ 64, align.toNat ∣ m ∧ value.toNat ≤ m) ↔
      value.toNat + align.toNat ≤ 2 ^ 64 := by
  have hlt := align.toNat_lt
  obtain ⟨k, hk⟩ := h
  rw [hk] at hlt ⊢
  have hdvd : 2 ^ k ∣ 2 ^ 64 :=
    Nat.pow_dvd_pow 2 ((Nat.pow_lt_pow_iff_right Nat.one_lt_two).mp hlt).le
  constructor
  · rintro ⟨m, hm, hmult, hle⟩
    -- two multiples are at least one alignment apart
    have hgap : 2 ^ k ≤ 2 ^ 64 - m := Nat.le_of_dvd (by omega) (Nat.dvd_sub hdvd hmult)
    omega
  · intro hle
    have hpos := Nat.two_pow_pos k
    exact ⟨2 ^ 64 - 2 ^ k, by omega, Nat.dvd_sub hdvd (Nat.dvd_refl _), by omega⟩

theorem exists_alignDown (value : Word) (h : align.toNat.isPowerOfTwo) :
    ∃ low, value.alignDown align = .ok low ∧
      IsGreatest {m | align.toNat ∣ m ∧ m ≤ value.toNat} low.toNat := by
  refine ⟨value &&& ~~~(align - 1), ?_, ?_⟩
  · rw [alignDown, offsetMask_eq_ok h]
    rfl
  · rw [toNat_and_not_sub_one h]
    exact isGreatest_div_mul _ _

theorem exists_isAligned (value : Word) (h : align.toNat.isPowerOfTwo) :
    ∃ b, value.isAligned align = .ok b ∧ (b = true ↔ align.toNat ∣ value.toNat) := by
  refine ⟨value &&& (align - 1) == 0, ?_, ?_⟩
  · rw [isAligned, offsetMask_eq_ok h]
    rfl
  · rw [beq_iff_eq, ← UInt64.toNat_inj, toNat_and_sub_one h]
    exact (Nat.dvd_iff_mod_eq_zero).symm

theorem exists_alignUp (h : align.toNat.isPowerOfTwo)
    (hroom : value.toNat + align.toNat < 2 ^ 64) :
    ∃ high, value.alignUp align = .ok high ∧
      IsLeast {m | align.toNat ∣ m ∧ value.toNat ≤ m} high.toNat := by
  have hpos := Nat.pos_of_isPowerOfTwo h
  obtain ⟨sum, hadd, hsum⟩ := exists_addExact hroom
  obtain ⟨last, hsub, hlast⟩ := exists_subExact (a := sum) (b := 1)
    (by rw [UInt64.toNat_one]; omega)
  rw [UInt64.toNat_one] at hlast
  refine ⟨last &&& ~~~(align - 1), ?_, ?_⟩
  · rw [alignUp, offsetMask_eq_ok h]
    simp [bind, Except.bind, hadd, hsub, pure, Except.pure]
  · rw [toNat_and_not_sub_one h, show last.toNat = value.toNat + (align.toNat - 1) by omega]
    exact isLeast_div_mul _ hpos

theorem alignUp_of_le (h : align.toNat.isPowerOfTwo)
    (hroom : 2 ^ 64 ≤ value.toNat + align.toNat) : value.alignUp align = .error .addOverflow := by
  rw [alignUp, offsetMask_eq_ok h]
  simp [bind, Except.bind, addExact_of_le hroom]

/-- What the operations come to, for a value and an alignment. -/
structure Aligns (value align : Word) : Prop where
  down : ∃ low, value.alignDown align = .ok low ∧
    IsGreatest {m : Nat | align.toNat ∣ m ∧ m ≤ value.toNat} low.toNat
  aligned : ∃ b, value.isAligned align = .ok b ∧ (b = true ↔ align.toNat ∣ value.toNat) ∧
    (b = true ↔ value.alignDown align = .ok value)
  up : value.toNat + align.toNat < 2 ^ 64 → ∃ high, value.alignUp align = .ok high ∧
    IsLeast {m : Nat | align.toNat ∣ m ∧ value.toNat ≤ m} high.toNat
  overflow : 2 ^ 64 ≤ value.toNat + align.toNat → value.alignUp align = .error .addOverflow
  /-- One value has a multiple above it, or is one, and is not moved there. -/
  missed : (∃ m < 2 ^ 64, align.toNat ∣ m ∧ value.toNat ≤ m) ∧
    value.alignUp align = .error .addOverflow ↔ value.toNat + align.toNat = 2 ^ 64

/-- **Values are moved to the multiples next to them,** but for the last multiple below the top.
The bits below a power of two are the remainder, so to clear them leaves the multiple below. -/
theorem aligns_of_isPowerOfTwo (value : Word) (h : align.toNat.isPowerOfTwo) :
    value.Aligns align := by
  obtain ⟨low, hdown, hlow⟩ := exists_alignDown value h
  obtain ⟨b, haligned, hb⟩ := exists_isAligned value h
  refine ⟨⟨low, hdown, hlow⟩, ⟨b, haligned, hb, ?_⟩, exists_alignUp h, alignUp_of_le h, ?_⟩
  · rw [hb, hdown, Except.ok.injEq, ← UInt64.toNat_inj]
    constructor
    · intro hdvd
      exact Nat.le_antisymm hlow.1.2 (hlow.2 ⟨hdvd, Nat.le_refl _⟩)
    · intro heq
      exact heq ▸ hlow.1.1
  · rw [exists_multiple_iff h]
    constructor
    · rintro ⟨hle, herror⟩
      refine hle.antisymm (not_lt.mp fun hroom => ?_)
      obtain ⟨high, hup, -⟩ := exists_alignUp h hroom
      rw [herror] at hup
      cases hup
    · intro heq
      exact ⟨heq.le, alignUp_of_le h heq.ge⟩

end Word

/-! ## 2. New bump allocators -/

namespace Bump

open Word

variable {start stop : Addr}

/-- What the creation of a bump allocator comes to. -/
structure Creates (start stop : Addr) : Prop where
  inverted : stop.toNat < start.toNat → create start stop = .error .invertedBounds
  overflow : start.toNat ≤ stop.toNat → 2 ^ 64 ≤ start.toNat + 4096 →
    create start stop = .error .addOverflow
  /-- The range has the whole pages between the bounds, and all of them are left. -/
  created : start.toNat ≤ stop.toNat → start.toNat + 4096 < 2 ^ 64 →
    ∃ bump high, create start stop = .ok bump ∧
      IsLeast {m : Nat | 4096 ∣ m ∧ start.toNat ≤ m} bump.start.toNat ∧
      IsGreatest {m : Nat | 4096 ∣ m ∧ m ≤ stop.toNat} high ∧
      bump.stop.toNat = max high bump.start.toNat ∧ bump.next = bump.start ∧ bump.allocated = 0
  /-- One start has a page above it, or is the start of one, and is not moved there. -/
  missed : start.toNat ≤ stop.toNat ∧ (∃ m < 2 ^ 64, 4096 ∣ m ∧ start.toNat ≤ m) ∧
    (∃ fault, create start stop = .error fault) ↔
      start.toNat ≤ stop.toNat ∧ start.toNat + 4096 = 2 ^ 64

theorem create_of_lt (h : stop.toNat < start.toNat) :
    create start stop = .error .invertedBounds := by
  rw [create, if_pos (UInt64.lt_iff_toNat_lt.mpr h)]
  rfl

theorem create_of_overflow (hle : start.toNat ≤ stop.toNat) (h : 2 ^ 64 ≤ start.toNat + 4096) :
    create start stop = .error .addOverflow := by
  rw [create, if_neg (by rw [UInt64.lt_iff_toNat_lt]; omega),
    alignUp_of_le isPowerOfTwo_pageSize h]
  rfl

/-- **Between bounds that are in order,** and not at the top, there is a range of whole pages. -/
theorem exists_create (hle : start.toNat ≤ stop.toNat) (h : start.toNat + 4096 < 2 ^ 64) :
    ∃ bump high, create start stop = .ok bump ∧
      IsLeast {m : Nat | 4096 ∣ m ∧ start.toNat ≤ m} bump.start.toNat ∧
      IsGreatest {m : Nat | 4096 ∣ m ∧ m ≤ stop.toNat} high ∧
      bump.stop.toNat = max high bump.start.toNat ∧ bump.next = bump.start ∧
      bump.allocated = 0 := by
  obtain ⟨low, hup, hlow⟩ := exists_alignUp isPowerOfTwo_pageSize h
  obtain ⟨high, hdown, hhigh⟩ := exists_alignDown stop isPowerOfTwo_pageSize
  refine ⟨⟨low, max high low, low, 0⟩, high.toNat, ?_, hlow, hhigh, toNat_max high low, rfl, rfl⟩
  rw [create, if_neg (by rw [UInt64.lt_iff_toNat_lt]; omega), hup, hdown]
  rfl

/-- **A bump allocator is created where the bounds allow it,** but for a start at the last page of
the address space, which is not moved to itself. -/
theorem creates (start stop : Addr) : Creates start stop := by
  refine ⟨create_of_lt, create_of_overflow, exists_create, ?_⟩
  have hmultiple : (∃ m < 2 ^ 64, 4096 ∣ m ∧ start.toNat ≤ m) ↔ start.toNat + 4096 ≤ 2 ^ 64 :=
    exists_multiple_iff isPowerOfTwo_pageSize
  rw [hmultiple]
  constructor
  · rintro ⟨hle, hfits, fault, herror⟩
    refine ⟨hle, hfits.antisymm (not_lt.mp fun hroom => ?_)⟩
    obtain ⟨bump, high, hcreate, -⟩ := exists_create hle hroom
    rw [herror] at hcreate
    cases hcreate
  · rintro ⟨hle, heq⟩
    exact ⟨hle, heq.le, _, create_of_overflow hle heq.ge⟩

/-- **Values are moved to the multiples of an alignment next to them,** and the range of a bump
allocator begins and ends at such multiples of the size of a page.  The moves differ from this at
one value only, the last multiple below the top: the whole alignment is added to it before one is
taken off again, and this sum fits no word. -/
theorem aligns_and_creates (value : Word) {align : Word} (h : align.toNat.isPowerOfTwo)
    (start stop : Addr) : value.Aligns align ∧ Creates start stop :=
  ⟨aligns_of_isPowerOfTwo value h, creates start stop⟩

/-- One byte below the last page of the address space, and a range that begins there. -/
theorem aligns_and_creates_top :
    (4096 : Word).toNat.isPowerOfTwo ∧ (0xffffffffffffefff : Word).Aligns 4096 ∧
      Creates 0xffffffffffffefff 0xffffffffffffffff :=
  have h : (4096 : Word).toNat.isPowerOfTwo := ⟨12, rfl⟩
  ⟨h, aligns_and_creates 0xffffffffffffefff h 0xffffffffffffefff 0xffffffffffffffff⟩

/-- The start of the last page is a multiple and is not moved to itself, and no range begins
there. -/
theorem missed_at_top :
    4096 ∣ (0xfffffffffffff000 : Word).toNat ∧
      (0xfffffffffffff000 : Word).isAligned 4096 = .ok true ∧
      (0xfffffffffffff000 : Word).alignUp 4096 = .error .addOverflow ∧
      create 0xfffffffffffff000 0xffffffffffffffff = .error .addOverflow := by
  decide +kernel

end Bump

end PageFrames
