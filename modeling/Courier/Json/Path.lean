import Courier.Json.Basic
import Courier.Text.Ascii
import Courier.Text.Split
/-
Dot paths such as `data.items.0.id`: each segment is a key of an object or a
position in an array. Empty segments mean nothing, so the empty path finds
the value itself.
-/
namespace Courier.Json

/-- A position as it may be written in a path: decimal digits, also with a plus before them or
zeros in front, and below 2^64. -/
def position? (segment : List Char) : Option Nat :=
  let digits := match segment with
    | '+' :: rest => rest
    | other => other
  if digits.isEmpty || !digits.all Ascii.isDigit then none
  else
    let n := Ascii.ofDecimal digits
    if n < UInt64.size then some n else none

/-- One step of a lookup. -/
def step? (segment : List Char) : Json → Option Json
  | .object entries => Entries.get? (String.ofList segment) entries
  | .array items => (position? segment).bind fun i => items[i]?
  | _ => none

/-- What a dot path finds in a value. -/
def at? (path : String) (value : Json) : Option Json :=
  ((Split.segments '.' path.toList).filter (!·.isEmpty)).foldlM (fun v s => step? s v) value

end Courier.Json
