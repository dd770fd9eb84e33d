import Courier.Text.Glyph
import Courier.Text.Ascii
/-
Text in double quotes, as log lines and messages show it: a quote and a
backslash are escaped, blanks other than the space have short escapes, and a
character that would not show is written by its code point.
-/
namespace Courier.Quoted

/-- The lower-case hexadecimal digits of a number. -/
def hex (n : Nat) : List Char := Nat.toDigits 16 n

/-- A character inside the quotes. -/
def escape (c : Char) : List Char :=
  if c = '\x00' then ['\\', '0']
  else if c = '\t' then ['\\', 't']
  else if c = '\n' then ['\\', 'n']
  else if c = '\r' then ['\\', 'r']
  else if c = '\x22' then ['\\', '\x22']
  else if c = '\\' then ['\\', '\\']
  else if Glyph.shows c then [c]
  else ['\\', 'u', '\x7b'] ++ hex c.toNat ++ ['\x7d']

/-- A text in its quotes. -/
def quote (s : String) : String := String.ofList ('\x22' :: s.toList.flatMap escape ++ ['\x22'])

end Courier.Quoted
