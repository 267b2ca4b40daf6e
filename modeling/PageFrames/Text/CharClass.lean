/-
# Classes of characters

A class of characters is given by the closed ranges of code points that it covers, so a class
of a standard can be read as data.
-/

namespace PageFrames.Text

/-- A class of characters, by the first and last code points of its ranges. -/
structure CharClass where
  ranges : Array (Nat × Nat)

namespace CharClass

/-- Whether the character belongs to the class. -/
def contains (chars : CharClass) (c : Char) : Bool :=
  chars.ranges.any fun range => range.1 ≤ c.toNat && c.toNat ≤ range.2

end CharClass

end PageFrames.Text
