import Courier.Service.Fakes
import Courier.Service.Logging
import Courier.Service.Recording
import Courier.Service.Sending
/-
Instances of services. Before an instance is called it has to say that it is
ready, which is good for one call: one that allows only so many requests at a
time takes its place then. A copy is an instance of its own and has to be asked
itself, whatever the one it was made from has said. A call gives a future at
once; what it stands for is done when somebody waits for it.

What an instance keeps for itself is a value of some type `σ`. All that several
of them share is in the monad `m`, and so are failures that end everything.
-/
namespace Courier

/-- What an instance says when it is asked whether it can be called. -/
inductive Readiness
  | ready
  | pending
  | failed (f : Failure)

def Readiness.isReady : Readiness → Bool
  | ready => true
  | _ => false

/-- How instances of a service are asked, called and copied, at a height in the stack. -/
structure Instances (m : Type → Type) (σ : Type) where
  height : Nat
  poll : σ → m (Readiness × σ)
  call : Request → σ → m (m Outcome × σ)
  copy : σ → σ

/-- What a stage makes of a request when it is called: a future of its own, or a call of the service
inside and what follows on its outcome. -/
inductive Errand
  | answer (future : Run Outcome)
  | forward (q : Request) (resume : Outcome → Run Outcome)

/-- The stages of this library. -/
inductive BuiltIn
  | sending (draft : Nat) (announces : Bool) (hooks : List Hook)
  | recording (recorders : List Recorder)
  | faking (matchers : List Matcher) (preventsStray : Bool)
  | logging (detail : LogDetail) (truncation : LogTruncation)

namespace BuiltIn

/-- The stage around a service that is always ready. -/
def stage : BuiltIn → Stage
  | sending draft announces hooks => sendingStage draft announces hooks
  | recording recorders => recordingStage recorders
  | faking matchers preventsStray => fakingStage matchers preventsStray
  | logging detail truncation => loggingStage detail truncation

/-- The stage at a height is called with a request. -/
def errand (height : Nat) (q : Request) : BuiltIn → Run Errand
  | sending draft announces hooks => do
    announce draft announces q
    pure (.forward (← Hook.applyAll hooks q) pure)
  | recording recorders => pure <| .forward q fun outcome => do
    recorders.forM fun recorder => Run.effect (.record recorder q outcome.toOption)
    pure outcome
  | faking matchers preventsStray => do
    match ← findStub q matchers with
    | some stub => pure <| .answer do
      match ← stub.resolve q with
      | .ok r => deliverFake q r
      | .error f => pure (.error f)
    | none =>
      if preventsStray then pure (.answer (pure (.error (.strayRequest q.method q.url.text))))
      else pure (.forward q pure)
  | logging detail truncation => do
    let attempt := (← Run.countCall height) + 1
    let log := fun entry : LogEntry => Run.note (.logged ⟨entry, q.method, q.url, attempt⟩)
    if detail = .requests then
      log (.sending (Logging.redacted q.headers) q.body.length)
    pure <| .forward q fun outcome => do
      let truncation ← match truncation with
        | .shared => Run.effect .truncation
        | .own truncation => pure truncation
      log (Logging.entry truncation outcome)
      pure outcome

/-- Whether the stage calls a copy of the instance inside, made when the stage itself is called, and
calls it only when its future is waited for. The others call the instance that they hold, at
once. -/
def callsCopy : BuiltIn → Bool
  | logging _ _ => true
  | _ => false

end BuiltIn

namespace Instances

variable {m : Type → Type} {σ : Type} [Monad m]

/-- Instances that are always ready and keep nothing. -/
def ofService (s : Service) : Instances Run Unit where
  height := s.height
  poll _ := pure (.ready, ())
  call q _ := pure (s.call q, ())
  copy _ := ()

/-- A stage around instances. Asked whether it is ready, it asks the instance inside. -/
def around [MonadLiftT Run m] (part : BuiltIn) (inner : Instances m σ) : Instances m σ where
  height := inner.height + 1
  poll := inner.poll
  call q s := do
    match ← liftM (part.errand (inner.height + 1) q) with
    | .answer future => pure (liftM future, s)
    | .forward q resume =>
      if part.callsCopy then
        let other := inner.copy s
        pure (do
          let (future, _) ← inner.call q other
          liftM (resume (← future)), s)
      else
        let (future, s) ← inner.call q s
        pure (do liftM (resume (← future)), s)
  copy := inner.copy

/-- A stack of stages on instances, the first stage outermost. -/
def stack [MonadLiftT Run m] (parts : List BuiltIn) (inner : Instances m σ) : Instances m σ :=
  parts.foldr around inner

/-- Each instance keeps whether it has said that it is ready since it was last called, and sounds an
alarm when it is called and has not. -/
def guarded (alarm : m Unit) (inner : Instances m σ) : Instances m (σ × Bool) where
  height := inner.height
  poll s := do
    let (readiness, kept) ← inner.poll s.1
    pure (readiness, (kept, s.2 || readiness.isReady))
  call q s := do
    unless s.2 do alarm
    let (future, kept) ← inner.call q s.1
    pure (future, (kept, false))
  copy s := (inner.copy s.1, false)

/-- Every call sounds the alarm. -/
def alarming (alarm : m Unit) (inner : Instances m σ) : Instances m σ :=
  { inner with call := fun q s => do alarm; inner.call q s }

end Instances

/-- What somebody does who holds instances of a service and futures of their calls, both counted in
the order in which they came: ask an instance, copy it, call it, or wait for a future, which is gone
then. -/
inductive Caller (α : Type)
  | done (a : α)
  | poll (i : Nat) (next : Readiness → Caller α)
  | copy (i : Nat) (next : Caller α)
  | call (i : Nat) (q : Request) (next : Caller α)
  | wait (i : Nat) (next : Outcome → Caller α)

namespace Caller

variable {m : Type → Type} {σ α : Type} [Monad m]

/-- What comes of it. Beside each instance stands whether it has said that it is ready since it was
last called; one that has not is never called, the caller rather stops. -/
def run (service : Instances m σ) : Caller α → List (σ × Bool) → List (m Outcome) → m (Option α)
  | done a, _, _ => pure (some a)
  | poll i next, held, futures =>
    match held[i]? with
    | some (s, ready) => do
      let (readiness, s) ← service.poll s
      (next readiness).run service (held.set i (s, ready || readiness.isReady)) futures
    | none => pure none
  | copy i next, held, futures =>
    match held[i]? with
    | some (s, _) => next.run service (held ++ [(service.copy s, false)]) futures
    | none => pure none
  | call i q next, held, futures =>
    match held[i]? with
    | some (s, true) => do
      let (future, s) ← service.call q s
      next.run service (held.set i (s, false)) (futures ++ [future])
    | _ => pure none
  | wait i next, held, futures =>
    match futures[i]? with
    | some future => do
      let outcome ← future
      (next outcome).run service held (futures.eraseIdx i)
    | none => pure none

/-- Asks the instance so often, calls it when it is ready, and waits for the outcome. -/
def oneshot (q : Request) : Nat → Caller (Option Outcome)
  | 0 => done none
  | patience + 1 => poll 0 fun
    | .ready => call 0 q (wait 0 fun outcome => done (some outcome))
    | .pending => oneshot q patience
    | .failed f => done (some (.error f))

end Caller

end Courier
