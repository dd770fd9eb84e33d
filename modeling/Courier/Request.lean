import Courier.Options
import Courier.Failure
import Courier.Url.Parser
import Courier.Url.Query
/-
Requests as they are sent: the URL with its query, the header fields and the
encoded body, besides the options that they were built from. The body comes
from the parts, else from the form fields, else from the JSON value, else it
is the raw body; the first three label it with their media type. URLs are read
with `Url.parse`, which follows the URL standard but for hosts in other scripts,
see `Host.read`; what is made of a URL does not depend on who read it
(`Request.buildWith`).

The data of a request is what it carries, read back according to the label.
-/
namespace Courier

structure Request where
  method : Method
  url : Url
  headers : Headers
  body : Bytes
  options : Options

namespace Request

/-! ## Building -/

/-- Header fields with one more set, in place of what its name had. -/
def putHeader (headers : Headers) (name value : String) : Except Failure Headers :=
  match Header.check name value with
  | .ok (n, v) => .ok (headers.insert n v)
  | .error flaw => .error (.invalidRequest (.header flaw))

/-- Header fields labelled with a media type, unless they are labelled already. -/
def label (headers : Headers) (type : MediaType) : Headers :=
  headers.insertDefault "content-type" (Utf8.encode type.name)

/-- The header fields that the options ask for. -/
def headersOf (o : Options) : Except Failure Headers := do
  let headers ← o.headers.entries.foldlM (fun headers h => putHeader headers h.1 h.2) .empty
  let headers ←
    if o.cookies.isEmpty then .ok headers
    else putHeader headers "cookie" (Cookie.header o.cookies)
  match o.auth.bind Auth.header? with
  | some value => putHeader headers "authorization" value
  | none => .ok headers

/-- The body that the options ask for, and the header fields labelled to match. -/
def encodeBody (boundary : String) (o : Options) (headers : Headers) :
    Except Failure (Headers × Bytes) :=
  if !o.multipart.isEmpty then do
    let headers ← putHeader headers "content-type" (Multipart.mediaType boundary)
    .ok (headers, Multipart.body boundary o.multipart)
  else
    match o.formParams, o.json with
    | some form, _ =>
      .ok (label headers .form, Utf8.encode (String.ofList (Form.write (Form.fields form))))
    | none, some value => .ok (label headers .json, value.bytes)
    | none, none => .ok (headers, o.body.getD [])

/-- The request that options describe to a URL that `parse` reads; `boundary` separates the parts
if there are any. -/
def buildWith (parse : String → Except UrlFlaw Url) (boundary : String) (method : Method)
    (url : String) (o : Options) : Except Failure Request := do
  let url ← (parse url).mapError Failure.invalidUrl
  let url := if o.query.isEmpty then url else url.appendQuery o.query.entries
  let headers ← headersOf o
  let (headers, body) ← encodeBody boundary o headers
  .ok ⟨method, url, headers, body, o⟩

/-- The request that options describe. -/
def build (boundary : String) (method : Method) (url : String) (o : Options) :
    Except Failure Request :=
  buildWith Url.parse boundary method url o

/-! ## Looking at a request -/

/-- The first value of a header, if it can be read. -/
def header? (q : Request) (name : String) : Option String := q.headers.text? name

/-- The header is there and can be read, and has the value if one is given. -/
def hasHeader (q : Request) (name : String) (value? : Option String) : Bool :=
  match q.header? name, value? with
  | some actual, some expected => actual == expected
  | some _, none => true
  | none, _ => false

/-- The request with a header set, both in its header fields and in its options. -/
def withHeader (q : Request) (name value : String) : Except Failure Request := do
  let headers ← putHeader q.headers name value
  .ok { q with headers, options := q.options.setHeader name value }

/-- The request with a header set, or as it is if no header may be so. -/
def settingHeader (name value : String) (q : Request) : Request :=
  (q.withHeader name value).toOption.getD q

/-- The request with a text added to the value of a header, or as it is if no header may be so. -/
def extendingHeader (name added : String) (q : Request) : Request :=
  q.settingHeader name ((q.header? name).getD "" ++ added)

/-- The body as text, what cannot be read replaced. -/
def text (q : Request) : String := Utf8.decodeLossy q.body

/-- A text occurs in another. -/
def occursIn (part text : List Char) : Bool :=
  match text with
  | [] => part.isEmpty
  | _ :: rest => part.isPrefixOf text || occursIn part rest

def isJson (q : Request) : Bool :=
  match q.header? "content-type" with
  | some type => occursIn "json".toList type.toList
  | none => false

def isForm (q : Request) : Bool := q.hasHeader "content-type" (some MediaType.form.name)

def isMultipart (q : Request) : Bool :=
  match q.header? "content-type" with
  | some type => "multipart/form-data".toList.isPrefixOf type.toList
  | none => false

/-- Pairs as a map of texts; of several values under one name the last counts. -/
def textMap (pairs : List (String × String)) : SortedMap Json :=
  .ofList (pairs.map fun pair => (pair.1, .string pair.2))

/-- What the request carries: the fields of a form, the members of a JSON object, the parts of
a multipart body as text, or else the query. -/
def data (q : Request) : SortedMap Json :=
  if q.isForm then textMap (Form.read q.body)
  else if q.isJson then
    match Json.parse? q.body with
    | some (.object entries) => .ofList entries
    | _ => .empty
  else if q.isMultipart then
    textMap (q.options.multipart.map fun p => (p.name, Utf8.decodeLossy p.contents))
  else textMap q.url.queryPairs

end Request

end Courier
