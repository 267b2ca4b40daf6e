/-
# Record texts

The diagnostic text of a value repeats its shape: a record is its name with the labelled
fields in braces, a variant with a payload is its name with the payload in parentheses, and an
optional value is such a variant or the bare word `None`.  Everything is on one line, with one
blank inside each brace.
-/

namespace PageFrames.Text

/-- The fields of a record: label, colon and value, separated by commas. -/
def fields (entries : List (String × String)) : String :=
  ", ".intercalate (entries.map fun entry => entry.1 ++ ": " ++ entry.2)

/-- A record with all its fields shown. -/
def record (name : String) (entries : List (String × String)) : String :=
  name ++ " \x7b " ++ fields entries ++ " \x7d"

/-- A record that has more fields than are shown, which two dots at the end say. -/
def openRecord (name : String) (entries : List (String × String)) : String :=
  name ++ " \x7b " ++ fields entries ++ ", .. \x7d"

/-- A variant with one payload. -/
def variant (name payload : String) : String := name ++ "(" ++ payload ++ ")"

/-- An optional value whose texts are given. -/
def optional : Option String → String
  | some text => variant "Some" text
  | none => "None"

end PageFrames.Text
