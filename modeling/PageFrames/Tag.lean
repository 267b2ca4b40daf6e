/-
# Tags

A tag is a short label that an allocation carries for diagnostics.  A row of the table has room
for a length and fifteen bytes, so a label that is longer in UTF-8 is cut, and the cut is made
between characters: the tag holds the longest run of leading characters that fits.  The bytes
behind the label are zero, so two tags are equal exactly when their labels are.
-/
import PageFrames.Text.Quoted
import PageFrames.Text.Record

namespace PageFrames

/-- A label of at most fifteen bytes, as it is stored in a row. -/
structure Tag where
  /-- How many of the bytes belong to the label. -/
  length : UInt8
  /-- The label in UTF-8, filled up with zeros. -/
  bytes : Vector UInt8 15
  deriving DecidableEq

namespace Tag

/-- The number of bytes that a label can have. -/
def capacity : Nat := 15

/-- The longest run of leading characters that fits into `room` bytes. -/
def fitting (room : Nat) : List Char → List Char
  | [] => []
  | c :: cs => if c.utf8Size ≤ room then c :: fitting (room - c.utf8Size) cs else []

/-- The part of a label that a tag has room for. -/
def kept (label : String) : String := .ofList (fitting capacity label.toList)

/-- The tag of a label, which is cut if need be. -/
def ofLabel (label : String) : Tag :=
  let stored := (kept label).toByteArray
  { length := stored.size.toUInt8
    bytes := Vector.ofFn fun i => stored.data.getD i 0 }

/-- The tag without a label. -/
def empty : Tag := { length := 0, bytes := Vector.replicate 15 0 }

/-- The bytes of the label. -/
def labelBytes (tag : Tag) : ByteArray := ⟨tag.bytes.toArray.extract 0 tag.length.toNat⟩

/-- The label. -/
def label (tag : Tag) : String := (String.fromUTF8? tag.labelBytes).getD ""

/-- Whether there is no label. -/
def isEmpty (tag : Tag) : Bool := tag.length == 0

/-- The diagnostic text of a tag. -/
def inspect (tag : Tag) : String := Text.variant "DebugTag" (Text.quoted tag.label)

/-- What fits takes no more bytes than there is room for. -/
theorem utf8ByteSize_fitting (room : Nat) (cs : List Char) :
    (String.ofList (fitting room cs)).utf8ByteSize ≤ room := by
  induction cs generalizing room with
  | nil => simp [fitting]
  | cons c cs ih =>
    rw [fitting]
    split
    · have hrest := ih (room - c.utf8Size)
      rw [String.ofList_cons, String.utf8ByteSize_append, String.utf8ByteSize_singleton]
      omega
    · simp

theorem exists_fitting_append (room : Nat) (cs : List Char) :
    ∃ rest, fitting room cs ++ rest = cs := by
  induction cs generalizing room with
  | nil => exact ⟨[], rfl⟩
  | cons c cs ih =>
    rw [fitting]
    split
    · obtain ⟨rest, h⟩ := ih (room - c.utf8Size)
      exact ⟨rest, by rw [List.cons_append, h]⟩
    · exact ⟨c :: cs, rfl⟩

end Tag

end PageFrames
