import Courier.Text.Utf8
import Courier.Text.Ascii
/-
Header fields. Names are tokens and are kept in lower case; a field has one
value or several, in the order in which they were added. Fields keep the order
in which their names first came.

A value may hold any byte but controls (a tab is allowed); it can be read as
text only if it is visible ASCII.
-/
namespace Courier

/-- Which part of a header field was refused. -/
inductive HeaderFlaw
  | name (name : String)
  | value (name : String)
  deriving DecidableEq

def HeaderFlaw.message : HeaderFlaw → String
  | name n => "invalid header name '" ++ n ++ "': invalid HTTP header name"
  | value n => "invalid value for header '" ++ n ++ "': failed to parse header value"

namespace Header

/-- A character that a header name may hold. -/
def isToken (c : Char) : Bool :=
  Ascii.isAlphanumeric c ||
    ['!', '#', '$', '%', '&', '\x27', '*', '+', '-', '.', '^', '_', '\x60', '|', '~'].contains c

/-- The longest header name, in bytes. -/
def maxNameLength : Nat := 65535

/-- A header name in lower case, if it is one. -/
def name? (text : String) : Option String :=
  let characters := text.toList
  if characters.isEmpty || !characters.all isToken || maxNameLength < characters.length then none
  else some (Ascii.lower text)

/-- A byte that a header value may hold. -/
def isValueByte (b : UInt8) : Bool := (0x20 ≤ b && b ≠ 0x7F) || b = 0x09

/-- The bytes of a text, if they can be a header value. -/
def value? (text : String) : Option Bytes :=
  let bytes := Utf8.encode text
  if bytes.all isValueByte then some bytes else none

/-- A byte that a readable header value may hold. -/
def isVisible (b : UInt8) : Bool := (0x20 ≤ b && b < 0x7F) || b = 0x09

/-- The text of a header value that is visible ASCII. -/
def visible? (value : Bytes) : Option String :=
  if value.all isVisible then some (String.ofList (value.map fun b => Char.ofNat b.toNat))
  else none

/-- A field as it is sent, or which part of it is refused. -/
def check (name value : String) : Except HeaderFlaw (String × Bytes) :=
  match name? name, value? value with
  | none, _ => .error (.name name)
  | some _, none => .error (.value name)
  | some n, some v => .ok (n, v)

end Header

/-- Header fields: names in lower case, each with its values. -/
structure Headers where
  fields : List (String × List Bytes)
  deriving DecidableEq

namespace Headers

def empty : Headers := ⟨[]⟩

instance : Inhabited Headers := ⟨empty⟩

/-- The values of a field whose name is given in lower case. -/
def valuesOf (h : Headers) (name : String) : List Bytes :=
  match h.fields.find? (·.1 == name) with
  | some (_, values) => values
  | none => []

/-- All values under a name in any case. -/
def getAll (h : Headers) (name : String) : List Bytes :=
  match Header.name? name with
  | some n => h.valuesOf n
  | none => []

/-- The first value under a name in any case. -/
def first? (h : Headers) (name : String) : Option Bytes := (h.getAll name).head?

/-- The first value under a name in any case, if it can be read. -/
def text? (h : Headers) (name : String) : Option String := (h.first? name).bind Header.visible?

def contains (h : Headers) (name : String) : Bool := h.fields.any (·.1 == name)

/-- Gives a field one value in place of all that it had. -/
def insert (h : Headers) (name : String) (value : Bytes) : Headers :=
  if h.contains name then
    ⟨h.fields.map fun field => if field.1 == name then (name, [value]) else field⟩
  else ⟨h.fields ++ [(name, [value])]⟩

/-- Adds a value to those that a field has. -/
def append (h : Headers) (name : String) (value : Bytes) : Headers :=
  if h.contains name then
    ⟨h.fields.map fun field => if field.1 == name then (name, field.2 ++ [value]) else field⟩
  else ⟨h.fields ++ [(name, [value])]⟩

/-- Gives a field a value unless it has one. -/
def insertDefault (h : Headers) (name : String) (value : Bytes) : Headers :=
  if h.contains name then h else h.insert name value

/-- Drops a field. -/
def erase (h : Headers) (name : String) : Headers := ⟨h.fields.filter (·.1 != name)⟩

/-- Every value with the name of its field, in order. -/
def pairs (h : Headers) : List (String × Bytes) :=
  h.fields.flatMap fun field => field.2.map fun value => (field.1, value)

end Headers

end Courier
