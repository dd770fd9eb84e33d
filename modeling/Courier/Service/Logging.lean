import Courier.Service
/-
The stage that logs attempts. It numbers the requests of a dispatch that reach
it, logs each outcome, and at the debug level the request as well, with the
values of headers that carry credentials left out.
-/
namespace Courier

/-- How much is logged. -/
inductive LogDetail
  | outcomes
  | requests
  deriving DecidableEq

/-- Where the logged summaries of failed responses are cut: as errors are, or at a place of
their own. -/
inductive LogTruncation
  | shared
  | own (truncation : Truncation)
  deriving DecidableEq

namespace Logging

/-- Headers whose values are not logged. -/
def isSecret (name : String) : Bool :=
  ["authorization", "cookie", "proxy-authorization"].contains name

/-- Header fields as they are logged. -/
def redacted (h : Headers) : List (String × String) :=
  h.pairs.map fun field =>
    (field.1,
      if isSecret field.1 then "[redacted]"
      else (Header.visible? field.2).getD "[binary]")

/-- What is logged about an outcome. -/
def entry (truncation : Truncation) : Outcome → LogEntry
  | .ok r =>
    match StatusError.of? r truncation with
    | some e => .failed r.status (e.summary.getD "")
    | none => .completed r.status ((r.stats.map (·.redirects)).getD 0)
  | .error (.connection f) => .unconnected f
  | .error (.strayRequest _ _) => .stray
  | .error f => .errored f.message

end Logging

/-- Logs the attempts that pass. -/
def loggingStage (detail : LogDetail) (truncation : LogTruncation) : Stage :=
  Service.above fun height inner q => do
    let attempt := (← Run.countCall height) + 1
    let log := fun entry : LogEntry => Run.note (.logged ⟨entry, q.method, q.url, attempt⟩)
    if detail = .requests then
      log (.sending (Logging.redacted q.headers) q.body.length)
    let outcome ← inner q
    let truncation ← match truncation with
      | .shared => Run.effect .truncation
      | .own truncation => pure truncation
    log (Logging.entry truncation outcome)
    pure outcome

end Courier
