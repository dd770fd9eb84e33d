import Courier.Request
/-
Ready-made answers to requests.
-/
namespace Courier.Fake

/-- An answer with a text. -/
def text (s : String) : Response := .make 200 .empty (Utf8.encode s)

/-- Shows the method, the URL and the body of the request. -/
def echo (q : Request) : Response := text (q.method.name ++ " " ++ q.url.text ++ "|" ++ q.text)

/-- Shows what the request carries. -/
def data (q : Request) : Response := .ofJson (.ofMap q.data) 201

/-- Shows a header of the request. -/
def header (name : String) (q : Request) : Response := text ((q.header? name).getD "")

/-- The number that digits with an optional plus sign write, if it is below 65536. -/
def status? (digits : List Char) : Option Nat :=
  let digits := if digits.head? = some '+' then digits.drop 1 else digits
  let n := Ascii.ofDecimal digits
  if !digits.isEmpty && digits.all Ascii.isDigit && n < 65536 then some n else none

/-- Answers with the status that the path names after its last slash. -/
def pathStatus (q : Request) : Response :=
  let last := (Split.segments '/' q.url.pathText.toList).getLast?.getD []
  .ofStatus ((status? last).getD 400)

end Courier.Fake
