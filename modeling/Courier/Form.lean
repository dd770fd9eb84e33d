import Courier.Text.Percent
import Courier.Text.Split
import Courier.Json.Printer
/-
Form-encoded text: name and value pairs as `a=1&b=2`, a blank written as a
plus. Reading is lenient: empty pieces between ampersands are skipped, a name
without an equals sign has an empty value, and bytes that are no text are
replaced.

A JSON value becomes pairs if it is an object of scalars and lists of scalars,
a list giving one pair for each of its items. There are two such flattenings:
the strict one (`pairs`) refuses null and deeper values, the one for the
fields of a request (`fields`) writes them as JSON text.
-/
namespace Courier.Form

/-! ## Text -/

/-- Bytes that stand for themselves. -/
def keeps (b : UInt8) : Bool :=
  Percent.isAlphanumeric b || Percent.isOneOf ['*', '-', '.', '_'] b

def encodeByte (b : UInt8) : List Char :=
  if b = 0x20 then ['+'] else if keeps b then [Char.ofNat b.toNat] else Percent.escape b

def encode (s : String) : List Char := (Utf8.encode s).flatMap encodeByte

def writePair (pair : String × String) : List Char := encode pair.1 ++ ['='] ++ encode pair.2

/-- Pairs as form-encoded text. -/
def write (pairs : List (String × String)) : List Char := Split.join ['&'] (pairs.map writePair)

/-- A name or value: a plus is a blank, escapes are read. -/
def decode (bytes : Bytes) : String :=
  Utf8.decodeLossy (Percent.decode (bytes.map fun b => if b = 0x2B then 0x20 else b))

def readPair (bytes : Bytes) : String × String :=
  match Split.once? 0x3D bytes with
  | some (name, value) => (decode name, decode value)
  | none => (decode bytes, "")

/-- The pairs of a form-encoded text. -/
def read (bytes : Bytes) : List (String × String) :=
  ((Split.segments 0x26 bytes).filter (fun piece => !piece.isEmpty)).map readPair

/-! ## Values -/

/-- Why a value is no form. -/
inductive Flaw
  | notAMap
  | unsupportedPair
  | unsupportedValue
  deriving DecidableEq

def Flaw.message : Flaw → String
  | notAMap => "top-level serializer supports only maps and structs"
  | unsupportedPair => "unsupported pair"
  | unsupportedValue => "unsupported value"

/-- Doubles in forms: as in JSON text, but a positive exponent has no sign. -/
def floats : FloatFormat := ⟨16, 5, false⟩

/-- The text of a scalar. -/
def scalar? : Json → Option String
  | .string s => some s
  | .bool true => some "true"
  | .bool false => some "false"
  | .number (.int i) => some (Ascii.showInt i)
  | .number (.double x) => some (String.ofList (floats.write x))
  | _ => none

/-- The pairs of one member of an object. -/
def member (entry : String × Json) : Except Flaw (List (String × String)) :=
  let one := fun value : Json =>
    match scalar? value with
    | some s => .ok (entry.1, s)
    | none => .error .unsupportedValue
  match entry.2 with
  | .array items => items.mapM one
  | value => (one value).map ([·])

/-- The pairs of a value that is null, an empty list, or an object of scalars and lists of
scalars. -/
def pairs : Json → Except Flaw (List (String × String))
  | .null => .ok []
  | .array [] => .ok []
  | .array _ => .error .unsupportedPair
  | .object entries => (entries.mapM member).map List.flatten
  | _ => .error .notAMap

/-- The form-encoded text of a value. -/
def text (value : Json) : Except Flaw String := (pairs value).map fun ps => String.ofList (write ps)

/-- The pairs that are read back from the form-encoded text of a value. -/
def queryPairs (value : Json) : Except Flaw (List (String × String)) :=
  (text value).map fun s => read (Utf8.encode s)

/-- The fields that a map of values is sent as: a list gives one field for each item. -/
def fields (m : SortedMap Json) : List (String × String) :=
  m.entries.flatMap fun entry =>
    match entry.2 with
    | .array items => items.map fun item => (entry.1, item.field)
    | value => [(entry.1, value.field)]

end Courier.Form
