import Courier.Dispatch
import Courier.Service.Logging
import Courier.Url.Template
/-
Drafts: requests in the making. A draft collects the base URL, options, body
format, policies, middleware, hooks and stubs; sending takes a snapshot of all
of it. A body and parts that are staged go with the next request only, if the
body format has a place for them, and are gone after it in any case.

Data that is sent along goes into the query for `GET` and `HEAD`; else it is
encoded as the body format says.
-/
namespace Courier

/-- How data becomes a body. -/
inductive BodyFormat
  | json
  | form
  | multipart
  | raw
  deriving DecidableEq

structure Draft where
  serial : Nat
  baseUrl : String
  urlParameters : SortedMap String
  format : BodyFormat
  stagedBody : Option Bytes
  stagedParts : List Part
  options : Options
  retry : RetryPolicy
  throwing : ThrowPolicy
  middleware : List Stage
  hooks : List Hook
  stubs : List Matcher
  preventsStray : Bool
  recorders : List Recorder
  environment : Environment
  mode : Mode

namespace Draft

/-! ## Configuration -/

def withHeader (d : Draft) (name value : String) : Draft :=
  { d with options := d.options.setHeader name value }

def withHeaders (d : Draft) (headers : List (String × String)) : Draft :=
  headers.foldl (fun d header => d.withHeader header.1 header.2) d

def accept (d : Draft) (type : String) : Draft := d.withHeader "Accept" type

def contentType (d : Draft) (type : String) : Draft := d.withHeader "Content-Type" type

def withToken (d : Draft) (token : String) : Draft :=
  d.withHeader "Authorization" ("Bearer " ++ token)

def withUserAgent (d : Draft) (agent : String) : Draft := d.withHeader "User-Agent" agent

def asJson (d : Draft) : Draft := { d with format := .json }.contentType MediaType.json.name

def asForm (d : Draft) : Draft := { d with format := .form }.contentType MediaType.form.name

/-- The media type is set when the request is built, for it names the boundary. -/
def asMultipart (d : Draft) : Draft := { d with format := .multipart }

def withFormat (d : Draft) (format : BodyFormat) : Draft := { d with format := format }

/-- Stages a body for the next request. -/
def withBody (d : Draft) (body : Bytes) (type : String) : Draft :=
  { d with format := .raw, stagedBody := some body }.contentType type

/-- Stages a part for the next request. -/
def attach (d : Draft) (part : Part) : Draft :=
  { d with stagedParts := d.stagedParts ++ [part] }.asMultipart

def withOptions (d : Draft) (o : Options) : Draft := { d with options := d.options.merge o }

def withAuth (d : Draft) (auth : Auth) : Draft :=
  { d with options := { d.options with auth := some auth } }

def withCookies (d : Draft) (cookies : List (String × String)) : Draft :=
  { d with options := { d.options with cookies := d.options.cookies.insertAll cookies } }

def withQuery (d : Draft) (query : List (String × String)) : Draft :=
  { d with options := { d.options with query := d.options.query.insertAll query } }

def withUrlParameters (d : Draft) (parameters : List (String × String)) : Draft :=
  { d with urlParameters := d.urlParameters.insertAll parameters }

def withRedirects (d : Draft) (redirects : Redirects) : Draft :=
  { d with options := { d.options with allowRedirects := some redirects } }

def withoutVerifying (d : Draft) : Draft :=
  { d with options := { d.options with verify := some false } }

def withSink (d : Draft) (sink : Sink) : Draft :=
  { d with options := { d.options with sink := some sink } }

def withTimeout (d : Draft) (ms : Nat) : Draft :=
  { d with options := { d.options with timeout := some ms } }

def withConnectTimeout (d : Draft) (ms : Nat) : Draft :=
  { d with options := { d.options with connectTimeout := some ms } }

/-- Names the listener of the transfer statistics. -/
def onStats (d : Draft) (listener : String) : Draft :=
  { d with options := { d.options with onStats := some listener } }

def withRetry (d : Draft) (policy : RetryPolicy) : Draft := { d with retry := policy }

def throwOnFailure (d : Draft) : Draft := { d with throwing := d.throwing.raising }

def throwIf (d : Draft) (guard : Response → Bool) : Draft :=
  { d with throwing := d.throwing.withGuard guard }

def throwUnless (d : Draft) (guard : Response → Bool) : Draft := d.throwIf fun r => !guard r

/-- Names the listener of what is raised. -/
def throwWith (d : Draft) (listener : String) : Draft :=
  { d with throwing := d.throwing.withListener listener }

def withStage (d : Draft) (stage : Stage) : Draft :=
  { d with middleware := d.middleware ++ [stage] }

/-- Logs attempts, the summaries cut as errors are. -/
def withLogging (d : Draft) : Draft := d.withStage (loggingStage .outcomes .shared)

def beforeSending (d : Draft) (hook : Hook) : Draft := { d with hooks := d.hooks ++ [hook] }

def withStub (d : Draft) (m : Matcher) : Draft := { d with stubs := d.stubs ++ [m] }

def preventStray (d : Draft) (prevent : Bool) : Draft := { d with preventsStray := prevent }

/-- The draft as one whose requests are handles, all else as it is. -/
def intoAsync (d : Draft) : Draft where
  serial := d.serial
  baseUrl := d.baseUrl
  urlParameters := d.urlParameters
  format := d.format
  stagedBody := d.stagedBody
  stagedParts := d.stagedParts
  options := d.options
  retry := d.retry
  throwing := d.throwing
  middleware := d.middleware
  hooks := d.hooks
  stubs := d.stubs
  preventsStray := d.preventsStray
  recorders := d.recorders
  environment := d.environment
  mode := .async

def withMode (d : Draft) : Mode → Draft
  | .blocking => { d with mode := .blocking }
  | .async => d.intoAsync

/-! ## Sending -/

/-- The draft without what was staged. -/
def cleared (d : Draft) : Draft := { d with stagedBody := none, stagedParts := [] }

/-- The options with what was staged, if the body format has a place for it. -/
def withStaged (d : Draft) (o : Options) : Options :=
  match d.format with
  | .raw => { o with body := d.stagedBody.or o.body }
  | .multipart => { o with multipart := o.multipart ++ d.stagedParts }
  | .json | .form => o

/-- The snapshot that is sent. -/
def dispatch (d : Draft) (m : Method) (url : String) (o : Options) : Dispatch where
  method := m
  url := Url.expand d.urlParameters (Url.underBase d.baseUrl url)
  options := d.withStaged (d.options.merge o)
  middleware := d.middleware
  hooks := d.hooks
  recorders := d.recorders
  stubs := d.stubs
  preventsStray := d.preventsStray
  retry := d.retry
  throwing := d.throwing
  mode := d.mode
  draft := d.serial
  environment := d.environment

/-- Sends a request. Nothing happens before the act is run. -/
def send (d : Draft) (m : Method) (url : String) (o : Options) : Act Outcome × Draft :=
  ((d.dispatch m url o).run, d.cleared)

/-- The members that data is sent as: those of an object, and none of null. -/
def members : Json → Except Failure (SortedMap Json)
  | .object entries => .ok (.ofList entries)
  | .null => .ok .empty
  | value => .error (.invalidRequest (.dataNotAMap value))

/-- The options that carry the data of a request. -/
def dataOptions (d : Draft) (m : Method) (data : Json) : Except Failure Options :=
  if m.sendsDataAsQuery then
    match Form.queryPairs data with
    | .ok pairs => .ok { Options.empty with query := .ofList pairs }
    | .error flaw => .error (.unwritableForm flaw)
  else
    match d.format with
    | .json => .ok { Options.empty with json := some data }
    | .form => (members data).map fun ms => { Options.empty with formParams := some ms }
    | .multipart => (members data).map fun ms =>
      { Options.empty with
        multipart := ms.entries.map fun entry => Part.ofText entry.1 entry.2.field }
    | .raw => .ok { Options.empty with body := some data.bytes }

/-- Sends a request with data. Data that cannot be sent is the failure of the request, and
nothing is dispatched. -/
def sendData (d : Draft) (m : Method) (url : String) (data : Json) : Act Outcome × Draft :=
  match d.dataOptions m data with
  | .ok o => d.send m url o
  | .error f => (pure (.error f), d.cleared)

end Draft

end Courier
