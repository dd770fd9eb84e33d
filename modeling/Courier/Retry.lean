import Courier.Failure
import Courier.Options
/-
How often a request is attempted, how long to wait in between, and whether a
failed response raises. Only failed responses are ever retried.
-/
namespace Courier

/-- A number of attempts, or one delay for each retry. Delays are milliseconds. -/
inductive Tries
  | count (n : Nat)
  | backoff (delays : List Nat)
  deriving DecidableEq

/-- The delay after an attempt, where no backoff entry says it. -/
inductive Delay
  | fixed (ms : Nat)
  | computed (delay : Nat → Failure → Nat)

/-- The delay that grows by a step with each attempt and with the status of the response. -/
def Delay.growing (perAttempt perStatus : Nat) : Delay :=
  .computed fun attempt failure => attempt * perAttempt + failure.status?.getD 0 * perStatus

/-- The test that a failed attempt is put to before it is retried. It may rewrite the options
that the next attempt is built from. -/
abbrev RetryTest := Failure → Options → Bool × Options

/-- A retry test by rule: which statuses are retried (or, where none are given, whether anything
is), which options are merged for the next attempt and which headers it goes without. -/
structure RetryRule where
  statuses? : Option (List Nat)
  always : Bool
  merged : Options
  dropped : List String

def RetryRule.test (rule : RetryRule) : RetryTest := fun failure o =>
  let again :=
    match rule.statuses? with
    | some statuses => failure.status?.any statuses.contains
    | none => rule.always
  (again, rule.dropped.foldl Options.removeHeader (o.merge rule.merged))

structure RetryPolicy where
  tries : Tries
  delay : Delay
  throwOnExhaustion : Bool
  test? : Option RetryTest

namespace RetryPolicy

/-- The policy with these tries, no delay and no test, which raises when it is exhausted. -/
def ofTries (tries : Tries) : RetryPolicy := ⟨tries, .fixed 0, true, none⟩

/-- A single attempt. -/
def once : RetryPolicy := ofTries (.count 1)

/-- Attempts are counted in 32 bits. -/
def attemptLimit : Nat := UInt32.size - 1

/-- The number of attempts allowed, at least one. -/
def maxAttempts (p : RetryPolicy) : Nat :=
  match p.tries with
  | .count n => max n 1
  | .backoff delays => min (delays.length + 1) attemptLimit

/-- The delay after an attempt, counted from one, that failed. -/
def delayFor (p : RetryPolicy) (attempt : Nat) (failure : Failure) : Nat :=
  let fallback :=
    match p.delay with
    | .fixed ms => ms
    | .computed delay => delay attempt failure
  match p.tries with
  | .backoff delays => delays[attempt - 1]?.getD fallback
  | .count _ => fallback

/-- Whether the delay after an attempt is computed. -/
def computesDelay (p : RetryPolicy) (attempt : Nat) : Bool :=
  match p.tries, p.delay with
  | .backoff delays, .computed _ => delays.length ≤ attempt - 1
  | .count _, .computed _ => true
  | _, .fixed _ => false

end RetryPolicy

/-- When a failed response raises: never, always, or when the guard accepts it. The listener is
told before it does. -/
structure ThrowPolicy where
  onFailure : Bool
  guard? : Option (Response → Bool)
  listener? : Option String

namespace ThrowPolicy

def never : ThrowPolicy := ⟨false, none, none⟩

def raising (p : ThrowPolicy) : ThrowPolicy := { p with onFailure := true }

def withGuard (p : ThrowPolicy) (guard : Response → Bool) : ThrowPolicy :=
  { p with onFailure := true, guard? := some guard }

def withListener (p : ThrowPolicy) (listener : String) : ThrowPolicy :=
  { p with onFailure := true, listener? := some listener }

end ThrowPolicy

end Courier
