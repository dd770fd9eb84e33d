import Courier.Json.Reader
import Courier.Json.Printer
import Courier.Text.Quoted
/-
Reading a JSON text as a value of a given shape. A shape says what is wanted
at each place: a number within a range, a text, a list, a dictionary, a record
with named fields, or anything. A reading that fails says where: the path from
the root to the value at which the first mistake was met, with a question mark
for a key that was never read.

Lists and objects may be nested 127 deep.
-/
namespace Courier.Json

/-! ## Shapes -/

mutual
/-- What is wanted at a place in a document. -/
inductive Shape
  | any
  | unsigned (bits : Nat)
  | signed (bits : Nat)
  | boolean
  | text
  | list (item : Shape)
  | dictionary (value : Shape)
  | optional (shape : Shape)
  | record (name : String) (fields : List Field)

/-- A field of a record, with the value it has when it is not given, if it has one. -/
inductive Field
  | mk (name : String) (shape : Shape) (default? : Option Json)
end

namespace Field

def name : Field → String
  | mk name _ _ => name

def shape : Field → Shape
  | mk _ shape _ => shape

def default? : Field → Option Json
  | mk _ _ default? => default?

end Field

/-- Whether null stands for the absence of a value. -/
def Shape.isOptional : Shape → Bool
  | .optional _ => true
  | _ => false

/-- The shape of a value that is present. -/
def Shape.present : Shape → Shape
  | .optional shape => shape.present
  | shape => shape

/-- How a message names what is wanted. -/
def Shape.expected : Shape → String
  | .any => "any value"
  | .unsigned bits => "u" ++ Ascii.showNat bits
  | .signed bits => "i" ++ Ascii.showNat bits
  | .boolean => "a boolean"
  | .text => "a string"
  | .list _ => "a sequence"
  | .dictionary _ => "a map"
  | .optional shape => shape.expected
  | .record name _ => "struct " ++ name

/-! ## Mistakes -/

/-- What stood where something else was wanted. -/
inductive Found
  | null
  | bool (b : Bool)
  | number (n : Number)
  | text (s : String)
  | list
  | object

def Found.message : Found → String
  | null => "null"
  | bool b => "boolean `" ++ (if b then "true" else "false") ++ "`"
  | number (.int i) => "integer `" ++ Ascii.showInt i ++ "`"
  | number (.double x) => "floating point `" ++ String.ofList (floats.write x) ++ "`"
  | text s => "string " ++ Quoted.quote s
  | list => "sequence"
  | object => "map"

/-- Why a text could not be read as a value of the shape wanted. -/
inductive Mistake
  | flaw (flaw : Flaw)
  | wrongType (found : Found) (expected : String)
  | outOfRange (i : Int) (expected : String)
  | tooFewItems (count : Nat) (record : String) (fields : Nat)
  | missingField (name : String)
  | duplicateField (name : String)

def Mistake.message : Mistake → String
  | flaw f => f.message
  | wrongType found expected => "invalid type: " ++ found.message ++ ", expected " ++ expected
  | outOfRange i expected =>
    "invalid value: integer `" ++ Ascii.showInt i ++ "`, expected " ++ expected
  | tooFewItems count record fields =>
    "invalid length " ++ Ascii.showNat count ++ ", expected struct " ++ record ++ " with " ++
      Ascii.showNat fields ++ (if fields = 1 then " element" else " elements")
  | missingField name => "missing field `" ++ name ++ "`"
  | duplicateField name => "duplicate field `" ++ name ++ "`"

/-- A step from a value to one inside it. -/
inductive Step
  | key (name : String)
  | index (i : Nat)
  | unreadKey

/-- The steps from the root, written after one another: keys with a dot before all but the
first step, positions in brackets. -/
def writeSteps : Bool → List Step → String
  | _, [] => ""
  | _, .index i :: rest => "[" ++ Ascii.showNat i ++ "]" ++ writeSteps false rest
  | first, .key name :: rest => (if first then "" else ".") ++ name ++ writeSteps false rest
  | first, .unreadKey :: rest => (if first then "" else ".") ++ "?" ++ writeSteps false rest

/-- The text of a path; that of the root is a dot. -/
def writePath (path : List Step) : String :=
  if path.isEmpty then "." else writeSteps true path

/-- A mistake and the place where it was met. -/
structure Misread where
  path : List Step
  mistake : Mistake

namespace Misread

/-- The same mistake, seen from the value around it. -/
def under (step : Step) (m : Misread) : Misread := { m with path := step :: m.path }

def here (mistake : Mistake) : Misread := ⟨[], mistake⟩

end Misread

/-! ## Reading -/

/-- A reader: a value and the bytes after it, or where and why there is none. -/
abbrev Read (α : Type) := Bytes → Except Misread (α × Bytes)

namespace Shape

/-- A result of the token reader, its flaw reported here. -/
def lift {α : Type} : Except Flaw α → Except Misread α
  | .ok a => .ok a
  | .error flaw => .error (.here (.flaw flaw))

/-- A result of the token reader, its flaw reported one step further in. -/
def liftUnder {α : Type} (step : Step) : Except Flaw α → Except Misread α
  | .ok a => .ok a
  | .error flaw => .error ⟨[step], .flaw flaw⟩

/-- A reading of a value inside, its mistake seen from outside. -/
def within {α : Type} (step : Step) : Except Misread (α × Bytes) → Except Misread (α × Bytes)
  | .ok r => .ok r
  | .error m => .error (m.under step)

open Reader (byte)

/-- Reports that what stands here is not what is wanted. -/
def mismatch {α : Type} (expected : String) : Read α
  | [] => .error (.here (.flaw .expectedValue))
  | b :: rest =>
    let wrong : Found → Except Misread (α × Bytes) := fun found =>
      .error (.here (.wrongType found expected))
    if b = byte 'n' then do let _ ← lift (Reader.literal ['u', 'l', 'l'] rest); wrong .null
    else if b = byte 't' then do
      let _ ← lift (Reader.literal ['r', 'u', 'e'] rest); wrong (.bool true)
    else if b = byte 'f' then do
      let _ ← lift (Reader.literal ['a', 'l', 's', 'e'] rest); wrong (.bool false)
    else if b = byte '-' then do
      let (n, _) ← lift (Reader.number true rest); wrong (.number n)
    else if Reader.isDigit b then do
      let (n, _) ← lift (Reader.number false (b :: rest)); wrong (.number n)
    else if b = byte '\x22' then do
      let (s, _) ← lift (Reader.string rest); wrong (.text s)
    else if b = byte '[' then wrong .list
    else if b = byte '\x7b' then wrong .object
    else .error (.here (.flaw .expectedValue))

/-- Reads an integer between two bounds. -/
def readInteger (expected : String) (low high : Int) (bytes : Bytes) :
    Except Misread (Json × Bytes) :=
  let check : Number × Bytes → Except Misread (Json × Bytes)
    | (.int i, rest) =>
      if low ≤ i && i ≤ high then .ok (.int i, rest)
      else .error (.here (.outOfRange i expected))
    | (.double x, _) => .error (.here (.wrongType (.number (.double x)) expected))
  match bytes with
  | b :: rest =>
    if b = byte '-' then lift (Reader.number true rest) >>= check
    else if Reader.isDigit b then lift (Reader.number false bytes) >>= check
    else mismatch expected bytes
  | [] => mismatch expected bytes

/-- Reads items up to the closing bracket, which is left. Each round takes bytes off, so
`fuel` rounds suffice for that many bytes. -/
def readItems (readItem : Read Json) : Nat → Nat → Read (List Json)
  | 0, _, _ => .error (.here (.flaw .endOfList))
  | fuel + 1, i, bytes => do
    match ← lift (Reader.nextItem (i = 0) bytes) with
    | none => .ok ([], bytes)
    | some at_ =>
      let (item, rest) ← within (.index i) (readItem at_)
      let (items, rest) ← readItems readItem fuel (i + 1) rest
      .ok (item :: items, rest)

/-- Reads members up to the closing brace, which is left; of several values under one key the
last counts. -/
def readMembers (readValue : Read Json) :
    Nat → Bool → List (String × Json) → Read (List (String × Json))
  | 0, _, _, _ => .error (.here (.flaw .endOfObject))
  | fuel + 1, first, entries, bytes => do
    match ← liftUnder .unreadKey (Reader.nextKey first bytes) with
    | none => .ok (entries, bytes)
    | some at_ =>
      let (key, rest) ← liftUnder .unreadKey (Reader.string at_)
      let rest ← lift (Reader.colon rest)
      let (value, rest) ← within (.key key) (readValue rest)
      readMembers readValue fuel false (Entries.insert key value entries) rest

/-- Reads the members of a record up to the closing brace; members that are no field of it are
skipped. -/
def readFields (readValue : Shape → Read Json) (fields : List Field) :
    Nat → Bool → List (String × Json) → Read (List (String × Json))
  | 0, _, _, _ => .error (.here (.flaw .endOfObject))
  | fuel + 1, first, given, bytes => do
    match ← liftUnder .unreadKey (Reader.nextKey first bytes) with
    | none => .ok (given, bytes)
    | some at_ =>
      let (key, rest) ← liftUnder .unreadKey (Reader.string at_)
      match fields.find? (·.name == key) with
      | none =>
        let rest ← lift (Reader.colon rest)
        let rest ← liftUnder (.key key) (Reader.skip rest)
        readFields readValue fields fuel false given rest
      | some field =>
        if given.any (·.1 == key) then .error (.here (.duplicateField key))
        else
          let rest ← lift (Reader.colon rest)
          let (value, rest) ← within (.key key) (readValue field.shape rest)
          readFields readValue fields fuel false ((key, value) :: given) rest

/-- The fields of a record from those that were given: a field that was not has its default,
or is absent if it is optional. -/
def complete (given : List (String × Json)) : List Field → Except Misread (List (String × Json))
  | [] => .ok []
  | field :: rest => do
    let value ← match given.find? (·.1 == field.name), field.default? with
      | some (_, value), _ => .ok value
      | none, some value => .ok value
      | none, none =>
        if field.shape.isOptional then .ok .null
        else .error (.here (.missingField field.name))
    .ok ((field.name, value) :: (← complete given rest))

/-- Reads a record from a list of its fields; only a field with a default may be left out. -/
def readRow (readValue : Shape → Read Json) (record : String) (count : Nat) :
    Nat → Bool → List Field → Read (List (String × Json))
  | _, _, [], bytes => .ok ([], bytes)
  | i, first, field :: rest, bytes => do
    match ← lift (Reader.nextItem first bytes), field.default? with
    | some at_, _ =>
      let (value, bytes) ← within (.index i) (readValue field.shape at_)
      let (row, bytes) ← readRow readValue record count (i + 1) false rest bytes
      .ok ((field.name, value) :: row, bytes)
    | none, some value =>
      let (row, bytes) ← readRow readValue record count (i + 1) first rest bytes
      .ok ((field.name, value) :: row, bytes)
    | none, none => .error (.here (.tooFewItems i record count))

/-- Reads a list whose opening bracket has been read. -/
def readList (readItem : Read Json) (bytes : Bytes) : Except Misread (Json × Bytes) := do
  let (items, rest) ← readItems readItem (bytes.length + 1) 0 bytes
  .ok (.array items, ← lift (Reader.closeList rest))

/-- Reads an object whose opening brace has been read. -/
def readObject (readValue : Read Json) (bytes : Bytes) : Except Misread (Json × Bytes) := do
  let (entries, rest) ← readMembers readValue (bytes.length + 1) true [] bytes
  .ok (.object entries, Reader.closeObject rest)

/-- Reads a value of a shape. The values in a list or an object are read by `inner?`, which is
missing where nothing may be nested any deeper. -/
def readWith (inner? : Option (Shape → Read Json)) (wanted : Shape) (bytes : Bytes) :
    Except Misread (Json × Bytes) :=
  let nested := fun go : (Shape → Read Json) → Except Misread (Json × Bytes) =>
    match inner? with
    | some inner => go inner
    | none => .error (.here (.flaw .tooDeep))
  match Reader.skipBlanks bytes with
  | [] => .error (.here (.flaw .endOfValue))
  | b :: rest =>
    if wanted.isOptional && b = byte 'n' then do
      .ok (.null, ← lift (Reader.literal ['u', 'l', 'l'] rest))
    else
      match wanted.present with
      | .any =>
        if b = byte 'n' then do .ok (.null, ← lift (Reader.literal ['u', 'l', 'l'] rest))
        else if b = byte 't' then do
          .ok (.bool true, ← lift (Reader.literal ['r', 'u', 'e'] rest))
        else if b = byte 'f' then do
          .ok (.bool false, ← lift (Reader.literal ['a', 'l', 's', 'e'] rest))
        else if b = byte '-' then do
          let (n, rest) ← lift (Reader.number true rest)
          .ok (.number n, rest)
        else if Reader.isDigit b then do
          let (n, rest) ← lift (Reader.number false (b :: rest))
          .ok (.number n, rest)
        else if b = byte '\x22' then do
          let (s, rest) ← lift (Reader.string rest)
          .ok (.string s, rest)
        else if b = byte '[' then nested fun inner => readList (inner .any) rest
        else if b = byte '\x7b' then nested fun inner => readObject (inner .any) rest
        else .error (.here (.flaw .expectedValue))
      | .unsigned bits => readInteger wanted.expected 0 (Int.pow 2 bits - 1) (b :: rest)
      | .signed bits =>
        readInteger wanted.expected (-Int.pow 2 (bits - 1)) (Int.pow 2 (bits - 1) - 1)
          (b :: rest)
      | .boolean =>
        if b = byte 't' then do .ok (.bool true, ← lift (Reader.literal ['r', 'u', 'e'] rest))
        else if b = byte 'f' then do
          .ok (.bool false, ← lift (Reader.literal ['a', 'l', 's', 'e'] rest))
        else mismatch wanted.expected (b :: rest)
      | .text =>
        if b = byte '\x22' then do
          let (s, rest) ← lift (Reader.string rest)
          .ok (.string s, rest)
        else mismatch wanted.expected (b :: rest)
      | .list item =>
        if b = byte '[' then nested fun inner => readList (inner item) rest
        else mismatch wanted.expected (b :: rest)
      | .dictionary value =>
        if b = byte '\x7b' then nested fun inner => readObject (inner value) rest
        else mismatch wanted.expected (b :: rest)
      | .record name fields =>
        if b = byte '[' then nested fun inner => do
          let (row, rest) ← readRow inner name fields.length 0 true fields rest
          .ok (ofEntries row, ← lift (Reader.closeList rest))
        else if b = byte '\x7b' then nested fun inner => do
          let (given, rest) ← readFields inner fields (rest.length + 1) true [] rest
          .ok (ofEntries (← complete given fields), Reader.closeObject rest)
        else mismatch wanted.expected (b :: rest)
      | .optional _ => mismatch wanted.expected (b :: rest)

/-- Reads a value with at most so many lists and objects nested in each other. -/
def readNested : Nat → Shape → Read Json
  | 0, shape, bytes => readWith none shape bytes
  | depth + 1, shape, bytes => readWith (some (readNested depth)) shape bytes

/-- How deep lists and objects may be nested. -/
def maxDepth : Nat := 127

/-- Reads a value of a shape from the front of a text. What follows it is not looked at. -/
def read (shape : Shape) (bytes : Bytes) : Except Misread Json :=
  (readNested maxDepth shape bytes).map (·.1)

end Shape

/-- The value that a text holds, if it is one JSON value and nothing else but blanks. -/
def parse? (bytes : Bytes) : Option Json :=
  match Shape.readNested Shape.maxDepth .any bytes with
  | .ok (value, rest) => if (Reader.skipBlanks rest).isEmpty then some value else none
  | .error _ => none

end Courier.Json
