import Courier.Json.Basic
import Courier.Decimal.Shortest
import Courier.Text.Utf8
/-
The compact text of a JSON value: no blanks, members in key order, short
escapes where JSON has them and `\u00xx` for the other control characters.
Doubles are written with the fewest digits that read back.
-/
namespace Courier.Json

/-- Doubles in JSON text: positional from 1e-5 up to below 1e16, and a positive exponent has
its sign. -/
def floats : FloatFormat := ⟨16, 5, true⟩

def Number.write : Number → List Char
  | .int i => (Ascii.showInt i).toList
  | .double x => floats.write x

/-- A character of a string, escaped if it cannot stand for itself. -/
def escape (c : Char) : List Char :=
  if c = '\x22' then ['\\', '\x22']
  else if c = '\\' then ['\\', '\\']
  else if c = '\x08' then ['\\', 'b']
  else if c = '\x0c' then ['\\', 'f']
  else if c = '\n' then ['\\', 'n']
  else if c = '\r' then ['\\', 'r']
  else if c = '\t' then ['\\', 't']
  else if c.toNat < 32 then
    ['\\', 'u', '0', '0', Ascii.hexLower (c.toNat / 16), Ascii.hexLower (c.toNat % 16)]
  else [c]

/-- A string in its quotes. -/
def writeString (s : String) : List Char := '\x22' :: s.toList.flatMap escape ++ ['\x22']

mutual
/-- The compact text of a value. -/
def write : Json → List Char
  | .null => ['n', 'u', 'l', 'l']
  | .bool true => ['t', 'r', 'u', 'e']
  | .bool false => ['f', 'a', 'l', 's', 'e']
  | .number n => Number.write n
  | .string s => writeString s
  | .array items => '[' :: writeItems true items
  | .object entries => '{' :: writeEntries true entries

/-- Items up to the closing bracket; a comma stands before each but the first. -/
def writeItems : Bool → List Json → List Char
  | _, [] => [']']
  | first, item :: rest =>
    (if first then [] else [',']) ++ (write item ++ writeItems false rest)

/-- Members up to the closing brace; a comma stands before each but the first. -/
def writeEntries : Bool → List (String × Json) → List Char
  | _, [] => ['}']
  | first, (key, value) :: rest =>
    (if first then [] else [',']) ++
      (writeString key ++ (':' :: (write value ++ writeEntries false rest)))
end

/-- The compact text of a value. -/
def text (value : Json) : String := String.ofList (write value)

/-- The compact text of a value as bytes. -/
def bytes (value : Json) : Bytes := Utf8.encode value.text

/-- A value as a form or multipart field: a string as it is, null as nothing, the rest as
JSON text. -/
def field : Json → String
  | .string s => s
  | .null => ""
  | value => value.text

end Courier.Json
