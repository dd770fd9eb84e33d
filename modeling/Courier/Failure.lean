import Courier.StatusError
import Courier.Form
/-
What can go wrong with a request, by cause.
-/
namespace Courier

inductive ConnectionFailureKind
  | connect
  | timeout
  | tls
  | other
  deriving DecidableEq

def ConnectionFailureKind.name : ConnectionFailureKind → String
  | connect => "connect"
  | timeout => "timeout"
  | tls => "tls"
  | other => "other"

structure ConnectionFailure where
  kind : ConnectionFailureKind
  message : String
  deriving DecidableEq

/-- Why a URL is no target of a connection. -/
inductive TargetFlaw
  | nothing
  | invalidCharacter
  | invalidAuthority
  | invalidFormat
  | schemeTooLong
  | tooLong
  deriving DecidableEq

def TargetFlaw.message : TargetFlaw → String
  | nothing => "empty string"
  | invalidCharacter => "invalid uri character"
  | invalidAuthority => "invalid authority"
  | invalidFormat => "invalid format"
  | schemeTooLong => "scheme too long"
  | tooLong => "uri too long"

/-- Why a request cannot be made or sent. -/
inductive RequestFlaw
  | unsupportedMethod (name : String)
  | header (flaw : HeaderFlaw)
  | dataNotAMap (value : Json)
  | digestUnsupported
  | unverifiedUnsupported
  | target (url : String) (flaw : TargetFlaw)
  | other (message : String)

def RequestFlaw.message : RequestFlaw → String
  | unsupportedMethod name => "unsupported HTTP method: " ++ Ascii.upper name
  | header flaw => flaw.message
  | dataNotAMap value => "request data must serialize to a map, got " ++ value.text
  | digestUnsupported => "digest authentication is not supported by HyperTransport"
  | unverifiedUnsupported =>
    "disabling certificate verification is not supported by HyperTransport"
  | target url flaw => "invalid URI '" ++ url ++ "': " ++ flaw.message
  | other message => message

inductive Failure
  | connection (failure : ConnectionFailure)
  | http (error : StatusError)
  | strayRequest (method : Method) (url : String)
  | sequenceExhausted
  | invalidRequest (flaw : RequestFlaw)
  | unreadableJson (path message : String)
  | unwritableForm (flaw : Form.Flaw)
  | invalidUrl (flaw : UrlFlaw)
  | tooManyRedirects (count max : Nat)
  | invalidRedirect (message : String)
  | sink (message : String)
  | runtime (message : String)

/-- A response or what went wrong. -/
abbrev Outcome := Except Failure Response

namespace Failure

def message : Failure → String
  | connection failure => "connection error (" ++ failure.kind.name ++ "): " ++ failure.message
  | http error => error.message
  | strayRequest _ url => "attempted request to [" ++ url ++ "] without a matching fake"
  | sequenceExhausted => "out of responses: the response sequence is empty"
  | invalidRequest flaw => "invalid request: " ++ flaw.message
  | unreadableJson path message => "JSON deserialization error at '" ++ path ++ "': " ++ message
  | unwritableForm flaw => "form serialization error: " ++ flaw.message
  | invalidUrl flaw => "invalid URL: " ++ flaw.message
  | tooManyRedirects count max =>
    "too many redirects (" ++ Ascii.showNat count ++ " exceeded max of " ++ Ascii.showNat max ++ ")"
  | invalidRedirect message => "invalid redirect: " ++ message
  | sink message => "sink write failed: " ++ message
  | runtime message => "runtime error: " ++ message

/-- The failure of an attempt that took too long. -/
def timedOut (message : String) : Failure := .connection ⟨.timeout, message⟩

/-- A JSON text that could not be read as what was wanted. -/
def ofMisread (m : Json.Misread) : Failure :=
  .unreadableJson (Json.writePath m.path) m.mistake.message

def isConnection : Failure → Bool
  | connection _ => true
  | _ => false

def isTimeout : Failure → Bool
  | connection failure => failure.kind = .timeout
  | _ => false

def isStrayRequest : Failure → Bool
  | strayRequest _ _ => true
  | _ => false

/-- The response inside, if a response is what failed. -/
def response? : Failure → Option Response
  | http error => some error.response
  | _ => none

/-- The status of the response inside. -/
def status? (f : Failure) : Option Nat := f.response?.map (·.status)

end Failure

namespace Response

/-- The body read as a value of a shape. -/
def json (r : Response) (shape : Json.Shape) : Except Failure Json :=
  (shape.read r.body).mapError Failure.ofMisread

/-- The response, unless it failed. -/
def throwIfFailed (r : Response) (truncation : Truncation) : Outcome :=
  match StatusError.of? r truncation with
  | some error => .error (.http error)
  | none => .ok r

end Response

end Courier
