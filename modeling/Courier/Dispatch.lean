import Courier.Retry
import Courier.Service.Fakes
import Courier.Service.Recording
import Courier.Service.Sending
/-
A dispatch sends one request, in as many attempts as its retry policy allows.
It is a snapshot: nothing that happens to the draft or the client after it was
made changes it. Each attempt builds the request anew from the options, which
the retry test may have rewritten, and sends it through the middleware, off to
the hooks, the recorders and the fakes, and down to the transport.

Only a failed response is judged: it is put to the retry test, it may raise,
and either another attempt follows after a delay or the response is given back
as it is or as a failure. Any other outcome ends the dispatch.
-/
namespace Courier

/-- What the dispatches of a client share: the transport, and whether anyone listens to events. -/
structure Environment where
  transport : Transport
  announces : Bool

structure Dispatch where
  method : Method
  url : String
  options : Options
  middleware : List Stage
  hooks : List Hook
  recorders : List Recorder
  stubs : List Matcher
  preventsStray : Bool
  retry : RetryPolicy
  throwing : ThrowPolicy
  mode : Mode
  /-- The draft that is told the request last sent. -/
  draft : Nat
  environment : Environment

namespace Dispatch

/-! ## One attempt -/

/-- The stages that every request passes, in order. -/
def stages (d : Dispatch) : List Stage :=
  d.middleware ++
    [sendingStage d.draft d.environment.announces d.hooks, recordingStage d.recorders,
      fakingStage d.stubs d.preventsStray]

/-- The service that the attempts go through. -/
def service (d : Dispatch) : Service :=
  compose d.stages (Service.ofTransport d.environment.transport)

/-- Tells an event to those who listen, if anyone does. -/
def publish (d : Dispatch) (e : Event) : Run Unit :=
  if d.environment.announces then Run.note (.event e) else pure ()

/-- What an attempt leaves of the outcome of its request: cookies are attached, and the event is
published. `sent?` is the request as it was sent off, if it was. -/
def settle (d : Dispatch) (q : Request) (sent? : Option Request) : Outcome → Run Outcome
  | .ok r => do
    let r := r.attachCookies (Cookie.ofHeaders r.headers)
    if let some sent := sent? then
      d.publish (.received sent r)
    pure (.ok r)
  | .error (.connection f) => do
    d.publish (.connectionFailed (sent?.getD q) f)
    pure (.error (.connection f))
  | .error f => pure (.error f)

/-- Builds the request and sends it. -/
def attempt (d : Dispatch) (o : Options) : Run Outcome := do
  let boundary ← Run.effect .freshBoundary
  match Request.build boundary d.method d.url o with
  | .error f => pure (.error f)
  | .ok q =>
    let outcome ← d.service.call q
    let sent? ← Run.takeSent
    d.settle q sent? outcome

/-! ## Judging an outcome -/

/-- The response to be judged, or the outcome that ends the dispatch. -/
def judged? : Outcome → Except Failure Response
  | .ok r => .ok r
  | .error (.http e) => .ok e.response
  | .error f => .error f

/-- What comes of an attempt: the outcome if it is the last one, and what another one would have
to start from, if one is wanted. -/
structure Judgement where
  outcome : Outcome
  again? : Option (StatusError × Options)

/-- Puts a failed response to the retry test, which may rewrite the options. -/
def test (d : Dispatch) (e : StatusError) (o : Options) : Run (Bool × Options) :=
  match d.retry.test? with
  | some test => do
    Run.note (.tested (.http e))
    pure (test (.http e) o)
  | none => pure (true, o)

/-- Whether a failed response raises. The listener is told if it does. -/
def raises (d : Dispatch) (e : StatusError) : Run Bool := do
  if !d.throwing.onFailure then pure false
  else
    let accepted ← match d.throwing.guard? with
      | some guard => do
        Run.note (.guarded e.response)
        pure (guard e.response)
      | none => pure true
    if accepted then
      if let some listener := d.throwing.listener? then
        Run.note (.raised listener e)
    pure accepted

/-- The delay before the attempt that follows the given one. -/
def delay (d : Dispatch) (attempt : Nat) (e : StatusError) : Run Nat := do
  if d.retry.computesDelay attempt then
    Run.note (.delayComputed attempt (.http e))
  pure (d.retry.delayFor attempt (.http e))

/-- Judges a failed response. -/
def judgeFailed (d : Dispatch) (o : Options) (e : StatusError) : Run Judgement := do
  let (again, o) ← d.test e o
  let raised ← d.raises e
  let fails := raised || (1 < d.retry.maxAttempts && d.retry.throwOnExhaustion)
  pure ⟨if fails then .error (.http e) else .ok e.response, if again then some (e, o) else none⟩

/-- Judges the outcome of an attempt. -/
def judge (d : Dispatch) (o : Options) (outcome : Outcome) : Run Judgement :=
  match judged? outcome with
  | .error f => pure ⟨.error f, none⟩
  | .ok r => do
    match StatusError.of? r (← Run.effect .truncation) with
    | none => pure ⟨.ok r, none⟩
    | some e => d.judgeFailed o e

/-! ## All attempts

The caller either waits for the attempts and for the delays between them, or gets them as one act
that waits when it is run. -/

/-- The attempts from the one with number `n` on, the caller waiting; `left` more are allowed after
it. -/
def attemptsBlocking (d : Dispatch) : (left n : Nat) → Options → Run Outcome
  | 0, _, o => do
    let judgement ← d.judge o (← d.attempt o)
    pure judgement.outcome
  | left + 1, n, o => do
    let judgement ← d.judge o (← d.attempt o)
    match judgement.again? with
    | none => pure judgement.outcome
    | some (e, o) => do
      let ms ← d.delay n e
      Run.effect (.sleep ms .blocking)
      attemptsBlocking d left (n + 1) o

/-- All of the dispatch, the caller waiting. -/
def runBlocking (d : Dispatch) : Act Outcome :=
  (d.attemptsBlocking (d.retry.maxAttempts - 1) 1 d.options).run' Progress.start

/-- The attempts from the one with number `n` on, nobody waiting; `left` more are allowed after
it. -/
def attemptsAsync (d : Dispatch) : (left n : Nat) → Options → Run Outcome
  | 0, _, o => do
    let outcome ← d.attempt o
    let judgement ← d.judge o outcome
    pure judgement.outcome
  | left + 1, n, o => do
    let outcome ← d.attempt o
    let judgement ← d.judge o outcome
    match judgement.again? with
    | none => pure judgement.outcome
    | some (e, o) => do
      Run.effect (.sleep (← d.delay n e) .async)
      attemptsAsync d left (n + 1) o

/-- All of the dispatch, nobody waiting. -/
def runAsync (d : Dispatch) : Act Outcome :=
  (d.attemptsAsync (d.retry.maxAttempts - 1) 1 d.options).run' Progress.start

/-- All of the dispatch. -/
def run (d : Dispatch) : Act Outcome :=
  match d.mode with
  | .blocking => d.runBlocking
  | .async => d.runAsync

end Dispatch

end Courier
