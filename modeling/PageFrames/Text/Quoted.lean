/-
# Quoted text

A label in a diagnostic stands between double quotes, written so that the quotes and the
characters between them can be told apart on any terminal.  Six characters have a short escape
of their own.  A character that cannot be made out between its neighbours is written by its
code point in base sixteen: it is drawn onto the character before it, a display may leave it
out, or it has no printed form.  Every other character stands for itself.  A single quote is
not special.
-/
import PageFrames.Text.Hex
import PageFrames.Text.Unprintable
import PageFrames.Text.GraphemeExtend
import PageFrames.Text.DefaultIgnorable

namespace PageFrames.Text

/-- A character by its code point, as in `\u{301}`. -/
def codePoint (c : Char) : List Char :=
  ['\\', 'u', '\x7b'] ++ hexDigits c.toNat ++ ['\x7d']

/-- Whether the character is drawn onto the one before it.  The two halfwidth voicing marks
extend a grapheme as well, but they are letters: each fills a cell of its own and can be read
alone. -/
def joinsPrevious (c : Char) : Bool :=
  graphemeExtend.contains c && c != '\uff9e' && c != '\uff9f'

/-- Whether the character cannot be made out between its neighbours. -/
def isObscure (c : Char) : Bool :=
  joinsPrevious c || defaultIgnorable.contains c || unprintable.contains c

/-- One character of a quoted text. -/
def escape (c : Char) : List Char :=
  match c with
  | '\x00' => ['\\', '0']
  | '\t' => ['\\', 't']
  | '\n' => ['\\', 'n']
  | '\r' => ['\\', 'r']
  | '"' => ['\\', '"']
  | '\\' => ['\\', '\\']
  | c => if isObscure c then codePoint c else [c]

/-- The text between double quotes. -/
def quoted (s : String) : String :=
  .ofList ('"' :: (s.toList.flatMap escape ++ ['"']))

end PageFrames.Text
