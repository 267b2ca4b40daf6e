/-
# Hexadecimal numerals

Addresses are written in base sixteen, almost always with the mark `0x` in front; counts are
written in base ten by core's `toString`.  A numeral is the shortest one: no leading zero but
for zero itself, which is one digit.

The padded forms fill a numeral up to a width.  Zeros go between the mark and the digits, so
the mark counts towards the width; blanks go in front of everything.  A numeral that is
already as wide as asked is left alone, never cut.
-/

namespace PageFrames.Text

/-! ## 1. Digits -/

/-- The lower-case digits of `n` in base sixteen, the most significant one first. -/
def hexDigits (n : Nat) : List Char := Nat.toDigits 16 n

/-- `cs` filled up in front with `c`, to `width` characters at least. -/
def fill (c : Char) (width : Nat) (cs : List Char) : List Char :=
  List.replicate (width - cs.length) c ++ cs

/-! ## 2. Numerals -/

/-- The digits alone, as in `1f000`. -/
def hexBare (n : Nat) : String := .ofList (hexDigits n)

/-- The usual form, as in `0x1f000`. -/
def hex (n : Nat) : String := "0x" ++ hexBare n

/-- The digits alone, filled with zeros. -/
def hexBareZeros (width n : Nat) : String := .ofList (fill '0' width (hexDigits n))

/-- The usual form, filled with zeros behind the mark. -/
def hexZeros (width n : Nat) : String := "0x" ++ hexBareZeros (width - 2) n

/-- The upper-case digits alone. -/
def upperHexBare (n : Nat) : String := .ofList ((hexDigits n).map Char.toUpper)

/-- Upper-case digits behind the mark, which stays in lower case. -/
def upperHex (n : Nat) : String := "0x" ++ upperHexBare n

/-- The upper-case digits alone, filled with blanks. -/
def upperHexBlanks (width n : Nat) : String :=
  .ofList (fill ' ' width ((hexDigits n).map Char.toUpper))

end PageFrames.Text
