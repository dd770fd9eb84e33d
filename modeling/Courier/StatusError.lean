import Courier.Response
/-
The error that a failed response becomes. It shows a summary of the body: the
whole text, or no more than a number of characters. A cut summary is missing
if the body is empty or what would be shown is not printable.
-/
namespace Courier

/-- How much of a body a summary shows. -/
inductive Truncation
  | disabled
  | limit (length : Nat)
  deriving DecidableEq

namespace Truncation

/-- A length of zero means no truncation. -/
def ofLength : Nat → Truncation
  | 0 => disabled
  | n + 1 => limit (n + 1)

/-- What is in force unless something else is set. -/
def default : Truncation := limit 120

end Truncation

namespace Summary

/-- A control character. -/
def isControl (c : Char) : Bool := c.toNat < 32 || (127 ≤ c.toNat && c.toNat < 160)

/-- A character that a cut summary may show. -/
def isPrintable (c : Char) : Bool :=
  (!isControl c || c = '\n' || c = '\r' || c = '\t') && c ≠ Utf8.replacement

/-- At most `length` characters of a body. -/
def cut? (body : Bytes) (length : Nat) : Option String :=
  if body.isEmpty then none
  else
    let text := (Utf8.decodeLossy body).toList
    let shown := text.take length
    if !shown.all isPrintable then none
    else if length < text.length then some (String.ofList shown ++ " (truncated...)")
    else some (String.ofList shown)

/-- The summary of a body. -/
def of? (body : Bytes) : Truncation → Option String
  | .disabled => if body.isEmpty then none else some (Utf8.decodeLossy body)
  | .limit length => cut? body length

end Summary

/-- A failed response with its summary. -/
structure StatusError where
  response : Response
  summary : Option String
  deriving DecidableEq

namespace StatusError

/-- The error that a response is, if it failed. -/
def of? (response : Response) (truncation : Truncation) : Option StatusError :=
  if response.failed then some ⟨response, Summary.of? response.body truncation⟩ else none

def status (e : StatusError) : Nat := e.response.status

def message (e : StatusError) : String :=
  "HTTP request returned status code " ++ Ascii.showNat e.status ++
    match e.summary with
    | some summary => ":\n" ++ summary ++ "\n"
    | none => ""

end StatusError

end Courier
