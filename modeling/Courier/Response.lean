import Courier.Headers
import Courier.Method
import Courier.Url.Basic
import Courier.Json.Path
import Courier.Json.Shape
/-
Responses. Cookies and transfer statistics are attached after the exchange.
-/
namespace Courier

/-- What is known about one transfer. Statuses and counts are plain numbers. -/
structure TransferStats where
  method : Method
  effectiveUrl : Url
  status : Option Nat
  redirects : Nat
  deriving DecidableEq

structure Response where
  status : Nat
  headers : Headers
  body : Bytes
  cookies : SortedMap String
  stats : Option TransferStats
  deriving DecidableEq

namespace Response

/-- A response as it is received. -/
def make (status : Nat) (headers : Headers) (body : Bytes) : Response :=
  ⟨status, headers, body, .empty, none⟩

/-- An empty response. -/
def ofStatus (status : Nat) : Response := make status .empty []

/-- A response that holds a JSON value. -/
def ofJson (value : Json) (status : Nat) : Response :=
  make status (Headers.empty.insert "content-type" (Utf8.encode "application/json")) value.bytes

/-- Adds a header value; one that no header may have changes nothing. -/
def withHeader (r : Response) (name value : String) : Response :=
  match Header.check name value with
  | .ok (n, v) => { r with headers := r.headers.append n v }
  | .error _ => r

/-- The first value of a header, if it can be read. -/
def header? (r : Response) (name : String) : Option String := r.headers.text? name

/-- The body as text, what cannot be read replaced. -/
def text (r : Response) : String := Utf8.decodeLossy r.body

/-! ## Status classes -/

/-- The status is exactly 200. -/
def ok (r : Response) : Bool := r.status = 200

def successful (r : Response) : Bool := 200 ≤ r.status && r.status < 300

def redirect (r : Response) : Bool := 300 ≤ r.status && r.status < 400

def clientError (r : Response) : Bool := 400 ≤ r.status && r.status < 500

def serverError (r : Response) : Bool := 500 ≤ r.status

def failed (r : Response) : Bool := r.clientError || r.serverError

/-! ## JSON -/

/-- The value that the body holds, if it is JSON and nothing else. -/
def jsonValue? (r : Response) : Option Json := Json.parse? r.body

/-- What a dot path finds in the value that the body holds. -/
def jsonAt? (r : Response) (path : String) : Option Json := r.jsonValue?.bind (Json.at? path)

/-! ## Cookies -/

def cookie? (r : Response) (name : String) : Option String := r.cookies.get? name

/-- Adds cookies to those attached before. -/
def attachCookies (r : Response) (cookies : SortedMap String) : Response :=
  { r with cookies := r.cookies.insertAll cookies.entries }

def attachStats (r : Response) (stats : TransferStats) : Response :=
  { r with stats := some stats }

end Response

namespace Cookie

/-- Blanks around a name or a value. -/
def isBlank (c : Char) : Bool := c = ' ' || c = '\t'

def trim (text : List Char) : List Char :=
  ((text.dropWhile isBlank).reverse.dropWhile isBlank).reverse

/-- The cookie that a `Set-Cookie` value sets: what stands before its first semicolon, split at
the first equals sign; a cookie without a name is none. -/
def ofSetCookie? (value : String) : Option (String × String) := do
  let pair := value.toList.takeWhile (· ≠ ';')
  let (name, content) ← Split.once? '=' pair
  let name := trim name
  if name.isEmpty then none else some (String.ofList name, String.ofList (trim content))

/-- The cookies that a response sets; of several under one name the last counts. -/
def ofHeaders (headers : Headers) : SortedMap String :=
  .ofList (((headers.getAll "set-cookie").filterMap Header.visible?).filterMap ofSetCookie?)

/-- The `Cookie` header that sends cookies back. -/
def header (cookies : SortedMap String) : String :=
  "; ".intercalate (cookies.entries.map fun cookie => cookie.1 ++ "=" ++ cookie.2)

end Cookie

end Courier
