import Courier.Service
import Courier.Url.Pattern
/-
The stage that fakes answers. The first matcher that accepts a request answers
it; the matchers after it are not asked. A request that no matcher accepts is
stray: it is refused if stray requests are prevented, else sent on.
-/
namespace Courier

/-- A test of requests with the stubs that answer those which pass. One with a label tells how
the test came out. -/
structure Matcher where
  label? : Option String
  accepts : Request → Bool
  stub : Request → Stub

/-- A stub may stand for itself, whatever the request. -/
instance : Coe Stub (Request → Stub) := ⟨fun stub _ => stub⟩

namespace Matcher

/-- Accepts every request. -/
def any (stub : Stub) : Matcher := ⟨none, fun _ => true, stub⟩

/-- Accepts the requests whose URL fits a pattern. -/
def ofPattern (pattern : String) (stub : Stub) : Matcher :=
  ⟨none, fun q => Pattern.matchesUrl pattern q.url.text, stub⟩

end Matcher

/-- The stub of the first matcher that accepts a request. -/
def findStub (q : Request) : List Matcher → Run (Option Stub)
  | [] => pure none
  | m :: rest => do
    let hit := m.accepts q
    if let some label := m.label? then
      Run.note (.matched label hit)
    if hit then pure (some (m.stub q)) else findStub q rest

/-- The answer of a stub. -/
def Stub.resolve (q : Request) : Stub → Run Outcome
  | .canned c => pure (c.resolve q)
  | .sequence number => do
    match ← Run.effect (.takeCanned number) with
    | some c => pure (c.resolve q)
    | none => pure (.error .sequenceExhausted)

/-- Delivers a faked response: the body to the sink, the statistics to their listener. -/
def deliverFake (q : Request) (r : Response) : Run Outcome := do
  let written ← match q.options.sink with
    | some sink => Run.effect (.writeSink sink r.body)
    | none => pure (.ok ())
  match written with
  | .error message => pure (.error (.sink message))
  | .ok () =>
    let stats : TransferStats := ⟨q.method, q.url, some r.status, 0⟩
    if let some listener := q.options.onStats then
      Run.note (.transferred listener stats)
    pure (.ok (r.attachStats stats))

/-- Answers what a matcher accepts; the rest is refused or sent on. -/
def fakingStage (matchers : List Matcher) (preventsStray : Bool) : Stage :=
  Service.above fun _ inner q => do
    match ← findStub q matchers with
    | some stub =>
      match ← stub.resolve q with
      | .ok r => deliverFake q r
      | .error f => pure (.error f)
    | none =>
      if preventsStray then pure (.error (.strayRequest q.method q.url.text))
      else inner q

end Courier
