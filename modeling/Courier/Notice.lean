import Courier.Failure
import Courier.Request
import Courier.Text.Quoted
/-
What happens while requests are sent, as those who listen are told it: the
events of an attempt, the calls of the functions that were handed in, the
waits, the transfer statistics and the log records.
-/
namespace Courier

/-- Whether the caller waits for the response or gets a handle on it. -/
inductive Mode
  | blocking
  | async
  deriving DecidableEq

/-- The events of an attempt. -/
inductive Event
  | sending (q : Request)
  | received (q : Request) (r : Response)
  | connectionFailed (q : Request) (f : ConnectionFailure)

/-! ## Log records -/

inductive LogLevel
  | debug
  | info
  | warn
  deriving DecidableEq

def LogLevel.name : LogLevel → String
  | debug => "DEBUG"
  | info => "INFO"
  | warn => "WARN"

/-- What is logged about an attempt. -/
inductive LogEntry
  | sending (headers : List (String × String)) (bodyLength : Nat)
  | failed (status : Nat) (summary : String)
  | completed (status : Nat) (redirects : Nat)
  | unconnected (f : ConnectionFailure)
  | stray
  | errored (message : String)

namespace LogEntry

def level : LogEntry → LogLevel
  | sending _ _ => .debug
  | completed _ _ => .info
  | _ => .warn

def message : LogEntry → String
  | sending _ _ => "sending request"
  | failed _ _ => "attempt returned a failed response"
  | completed _ _ => "attempt completed"
  | unconnected _ => "attempt could not connect"
  | stray => "no fake matched the request and stray requests are prevented"
  | errored _ => "attempt failed"

/-- Header fields as a log record shows them. -/
def showHeaders (headers : List (String × String)) : String :=
  let pairs := headers.map fun h => "(" ++ Quoted.quote h.1 ++ ", " ++ Quoted.quote h.2 ++ ")"
  "[" ++ ", ".intercalate pairs ++ "]"

end LogEntry

/-- An entry with the attempt that it is about. -/
structure LogRecord where
  entry : LogEntry
  method : Method
  url : Url
  attempt : Nat

/-! ## Notices -/

/-- One thing that happened. Labels and listeners are the names under which functions were
handed in. -/
inductive Notice
  | event (e : Event)
  | tested (f : Failure)
  | guarded (r : Response)
  | raised (listener : String) (e : StatusError)
  | delayComputed (attempt : Nat) (f : Failure)
  | slept (ms : Nat) (mode : Mode)
  | transferred (listener : String) (stats : TransferStats)
  | matched (label : String) (hit : Bool)
  | hooked (label : String) (q : Request)
  | transported (q : Request)
  | entered (label : String) (url : Url)
  | left (label : String) (outcome : Outcome)
  | logged (record : LogRecord)

end Courier
