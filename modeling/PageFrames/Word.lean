/-
# Words, addresses and page numbers

Sizes, page counts, counters and addresses are machine words of 64 bits.  Memory is divided
into pages of 4096 bytes, so an address splits into the number of its page (the upper 52 bits)
and its offset in the page (the lower 12), and every address is the first byte of its page plus
its offset.

Nothing in this module can go wrong: what might not fit a word answers `none` here, and the
arithmetic that raises a fault instead is in `PageFrames.Exact`.
-/
import PageFrames.Text.Hex
import PageFrames.Text.Record

namespace PageFrames

/-! ## 1. Words -/

/-- A machine word: sizes, page counts and counters. -/
abbrev Word := UInt64

/-- An address, physical or virtual as the allocator in question has it. -/
abbrev Addr := Word

namespace Word

/-- The sum, where it fits a word. -/
def add? (a b : Word) : Option Word :=
  if a.toNat + b.toNat < UInt64.size then some (a + b) else none

/-- The difference, where it is not negative. -/
def sub? (a b : Word) : Option Word :=
  if b ≤ a then some (a - b) else none

/-- The product, where it fits a word. -/
def mul? (a b : Word) : Option Word :=
  if a.toNat * b.toNat < UInt64.size then some (a * b) else none

/-- The difference, or zero where it would be negative. -/
def subFloor (a b : Word) : Word := if b ≤ a then a - b else 0

theorem add?_eq_some_iff {a b c : Word} :
    a.add? b = some c ↔ a.toNat + b.toNat = c.toNat := by
  unfold add?
  have hc := c.toNat_lt
  split <;> rename_i h
  · rw [Option.some.injEq, ← UInt64.toNat_inj, UInt64.toNat_add, Nat.mod_eq_of_lt h]
  · simp only [UInt64.size] at h
    exact ⟨fun h' => (nomatch h'), fun h' => by omega⟩

theorem sub?_eq_some_iff {a b c : Word} :
    a.sub? b = some c ↔ c.toNat + b.toNat = a.toNat := by
  unfold sub?
  have ha := a.toNat_lt
  split <;> rename_i h
  · rw [Option.some.injEq, ← UInt64.toNat_inj, UInt64.toNat_sub_of_le _ _ h]
    have := UInt64.le_iff_toNat_le.mp h
    omega
  · rw [UInt64.le_iff_toNat_le] at h
    exact ⟨fun h' => (nomatch h'), fun h' => by omega⟩

theorem mul?_eq_some_iff {a b c : Word} :
    a.mul? b = some c ↔ a.toNat * b.toNat = c.toNat := by
  unfold mul?
  have hc := c.toNat_lt
  split <;> rename_i h
  · rw [Option.some.injEq, ← UInt64.toNat_inj, UInt64.toNat_mul, Nat.mod_eq_of_lt h]
  · simp only [UInt64.size] at h
    exact ⟨fun h' => (nomatch h'), fun h' => by omega⟩

theorem toNat_subFloor (a b : Word) : (a.subFloor b).toNat = a.toNat - b.toNat := by
  unfold subFloor
  split <;> rename_i h
  · exact UInt64.toNat_sub_of_le _ _ h
  · rw [UInt64.le_iff_toNat_le] at h
    simp only [UInt64.toNat_zero]
    omega

end Word

/-! ## 2. Pages -/

/-- Length in bits of the offset part of an address. -/
def pageShift : Word := 12

/-- Length of a page in bytes. -/
def pageSize : Word := 4096

/-- The bits of an address that make up its page number. -/
def pageMask : Word := ~~~(pageSize - 1)

/-- The least number of whole pages that hold `size` bytes. -/
def pagesFor (size : Word) : Word :=
  if size % pageSize = 0 then size / pageSize else size / pageSize + 1

namespace Addr

/-- The number of the page that the address lies in. -/
def pageNum (a : Addr) : Word := a >>> pageShift

/-- The offset of the address in its page. -/
def pageOffset (a : Addr) : Word := a &&& (pageSize - 1)

/-- The first address of the page with this number.  A number of more than 52 bits has no page;
its upper bits are dropped. -/
def ofPageNum (num : Word) : Addr := num <<< pageShift

/-- The usual text of an address. -/
def text (a : Addr) : String := Text.hex a.toNat

/-- The diagnostic text of an address. -/
def inspect (a : Addr) : String := Text.variant "Addr" a.text

end Addr

/-! ## 3. The same in the natural numbers -/

theorem toNat_pageSize : pageSize.toNat = 4096 := rfl

theorem Addr.toNat_pageNum (a : Addr) : a.pageNum.toNat = a.toNat / 4096 := by
  rw [pageNum, UInt64.toNat_shiftRight, Nat.shiftRight_eq_div_pow]
  rfl

theorem Addr.toNat_pageOffset (a : Addr) : a.pageOffset.toNat = a.toNat % 4096 := by
  rw [pageOffset, UInt64.toNat_and]
  exact Nat.and_two_pow_sub_one_eq_mod a.toNat 12

theorem toNat_pagesFor (size : Word) : (pagesFor size).toNat = (size.toNat + 4095) / 4096 := by
  have hsize := size.toNat_lt
  have hmod : (size % pageSize).toNat = size.toNat % 4096 := UInt64.toNat_mod size pageSize
  have hdiv : (size / pageSize).toNat = size.toNat / 4096 := UInt64.toNat_div size pageSize
  unfold pagesFor
  split <;> rename_i h
  · rw [h] at hmod
    change 0 = size.toNat % 4096 at hmod
    omega
  · have hne : (size % pageSize).toNat ≠ 0 := fun h' => h (UInt64.toNat_inj.mp h')
    rw [UInt64.toNat_add, hdiv]
    change (size.toNat / 4096 + 1) % 2 ^ 64 = _
    omega

end PageFrames
