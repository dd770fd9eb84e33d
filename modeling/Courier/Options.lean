import Courier.Json.Merge
import Courier.Multipart
import Courier.Text.Base64
/-
The options of a request and how option sets are merged. Headers, query,
cookies, JSON, form fields and parts are united, the later set winning where
both say something; every other option is replaced as a whole when the later
set has it.

Headers are set under their name in lower case, in place of every spelling of
that name, so one name has one value.
-/
namespace Courier

inductive Auth
  | basic (username password : String)
  | digest (username password : String)
  deriving DecidableEq

/-- The header that basic authentication sends; digest authentication needs an answer first. -/
def Auth.header? : Auth → Option String
  | basic username password =>
    some ("Basic " ++
      String.ofList (Base64.encode (Utf8.encode (username ++ ":" ++ password))))
  | digest _ _ => none

/-- What happens to redirect responses. -/
inductive Redirects
  | disabled
  | follow (max : Nat)
  deriving DecidableEq

/-- Where response bodies are written to besides. -/
inductive Sink
  | buffer (name : String)
  | file (name : String)
  deriving DecidableEq

/-- Durations are whole milliseconds; `onStats` names the listener that is told the transfer
statistics. -/
structure Options where
  headers : SortedMap String
  query : SortedMap String
  cookies : SortedMap String
  json : Option Json
  formParams : Option (SortedMap Json)
  multipart : List Part
  body : Option Bytes
  connectTimeout : Option Nat
  timeout : Option Nat
  auth : Option Auth
  allowRedirects : Option Redirects
  verify : Option Bool
  sink : Option Sink
  onStats : Option String

namespace Options

/-- No options at all. -/
def empty : Options where
  headers := .empty
  query := .empty
  cookies := .empty
  json := none
  formParams := none
  multipart := []
  body := none
  connectTimeout := none
  timeout := none
  auth := none
  allowRedirects := none
  verify := none
  sink := none
  onStats := none

instance : Inhabited Options := ⟨empty⟩

/-! ## Headers -/

/-- Headers without those under a name in any case. -/
def dropHeader (headers : SortedMap String) (name : String) : SortedMap String :=
  headers.filter fun key _ => !Ascii.sameIgnoringCase key name

/-- Headers with one value under a name, in place of every spelling of it. -/
def putHeader (headers : SortedMap String) (name value : String) : SortedMap String :=
  (dropHeader headers name).insert (Ascii.lower name) value

def setHeader (o : Options) (name value : String) : Options :=
  { o with headers := putHeader o.headers name value }

def removeHeader (o : Options) (name : String) : Options :=
  { o with headers := dropHeader o.headers name }

/-- The value of the first header whose name is the given one in any case. -/
def headerValue? (o : Options) (name : String) : Option String :=
  (o.headers.entries.find? fun header => Ascii.sameIgnoringCase header.1 name).map (·.2)

/-! ## Merging -/

/-- Of two optional values the later one, if there is one. -/
def later {α : Type} (base overlay : Option α) : Option α := overlay.or base

/-- Of two optional values the union, if both are there, else the one that is. -/
def united {α : Type} (union : α → α → α) : (base overlay : Option α) → Option α
  | some base, some overlay => some (union base overlay)
  | base, overlay => later base overlay

/-- Members of both maps, those under one key merged. -/
def mergeMaps (base overlay : SortedMap Json) : SortedMap Json :=
  overlay.entries.foldl (fun merged entry =>
    merged.insert entry.1 <|
      match merged.get? entry.1 with
      | some existing => Json.merge existing entry.2
      | none => entry.2) base

/-- The options with later ones merged over them. -/
def merge (o overlay : Options) : Options where
  headers := overlay.headers.entries.foldl (fun headers h => putHeader headers h.1 h.2) o.headers
  query := o.query.insertAll overlay.query.entries
  cookies := o.cookies.insertAll overlay.cookies.entries
  json := united Json.merge o.json overlay.json
  formParams := united mergeMaps o.formParams overlay.formParams
  multipart := o.multipart ++ overlay.multipart
  body := later o.body overlay.body
  connectTimeout := later o.connectTimeout overlay.connectTimeout
  timeout := later o.timeout overlay.timeout
  auth := later o.auth overlay.auth
  allowRedirects := later o.allowRedirects overlay.allowRedirects
  verify := later o.verify overlay.verify
  sink := later o.sink overlay.sink
  onStats := later o.onStats overlay.onStats

end Options

end Courier
