import Courier.Client
import Courier.World
/-
Batches of requests that are under way at the same time. Each request has a
key: a name, or the number of the unnamed request. A batch is run in turns: a
turn starts a request or lets one that is under way perform its next effect.
At most as many requests as the limit says are started before the first that
is not settled yet; the results stand in the order of the requests, whatever
the order of the turns.

Which turns are taken is left open but for one case: requests that run side by
side. Each goes on until it has to wait for the world, and the others go on
meanwhile.
-/
namespace Courier

inductive BatchKey
  | named (name : String)
  | numbered (i : Nat)
  deriving DecidableEq

def BatchKey.text : BatchKey → String
  | named name => name
  | numbered i => Ascii.showNat i

/-- Requests with their keys; `unnamed` counts those without a name. -/
structure Batch where
  entries : List (BatchKey × Act Outcome)
  unnamed : Nat
  limit : Option Nat

/-- The outcomes of a batch. -/
structure BatchResults where
  entries : List (BatchKey × Outcome)

namespace Batch

def empty : Batch := ⟨[], 0, none⟩

def size (b : Batch) : Nat := b.entries.length

/-- Adds a request under a key. -/
def add (b : Batch) (key : BatchKey) (request : Act Outcome) : Batch :=
  { b with entries := b.entries ++ [(key, request)] }

/-- Adds a request under the next number. -/
def push (b : Batch) (request : Act Outcome) : Batch :=
  { b.add (.numbered b.unnamed) request with unnamed := b.unnamed + 1 }

/-- Limits how many requests are under way at the same time; it is at least one. -/
def withLimit (b : Batch) (limit : Nat) : Batch := { b with limit := some (max limit 1) }

/-! ## Running one after another -/

/-- All requests in order, each after the one before it is settled. -/
def run (b : Batch) : Act BatchResults := do
  let outcomes ← b.entries.mapM fun entry => do
    let outcome ← entry.2
    pure (entry.1, outcome)
  pure ⟨outcomes⟩

/-! ## Running in turns -/

/-- The requests of a batch that is under way, each with whether it was started and what is left
of it. -/
abbrev Underway := List (Bool × Act Outcome)

/-- No request was started. -/
def underway (b : Batch) : Underway := b.entries.map fun entry => (false, entry.2)

/-- The outcome of a request that is settled. -/
def settled? : Bool × Act Outcome → Option Outcome
  | (true, .done outcome) => some outcome
  | _ => none

/-- Whether the request at a place may be started: it is the first that is not, and it lies
within the limit of the first request that is not settled. -/
def mayStart (limit : Option Nat) (u : Underway) (i : Nat) : Bool :=
  (u.take i).all (·.1) &&
    match limit with
    | some limit => i < (u.takeWhile fun entry => (settled? entry).isSome).length + limit
    | none => true

/-- The turn of the request at a place. -/
def turn (limit : Option Nat) (i : Nat) (u : Underway) (w : World) : Underway × World :=
  match u[i]? with
  | some (false, act) => if mayStart limit u i then (u.set i (true, act), w) else (u, w)
  | some (true, .perform e next) =>
    let (reply, after) := w.answer e
    (u.set i (true, next reply), after)
  | _ => (u, w)

/-- Turns in the order of a schedule. -/
def turns (limit : Option Nat) (schedule : List Nat) (u : Underway) (w : World) :
    Underway × World :=
  schedule.foldl (fun state i => turn limit i state.1 state.2) (u, w)

/-- The outcomes, if all requests are settled. -/
def results? (b : Batch) (u : Underway) : Option BatchResults :=
  ((b.entries.zip u).mapM fun pair =>
    (settled? pair.2).map fun outcome => (pair.1.1, outcome)).map BatchResults.mk

/-! ## Running side by side -/

end Batch

namespace World

/-- Whether the reply to an effect has to be waited for. -/
def defers (w : World) : Effect → Bool
  | .writeSink (.file _) _ => true
  | .exchange _ _ => true
  | .sleep _ _ => !w.notesWaits
  | _ => false

/-- An act goes on until it has to wait for a reply. -/
def advance (w : World) : Act Outcome → Act Outcome × World
  | .done outcome => (.done outcome, w)
  | .perform e next =>
    if w.defers e then (.perform e next, w)
    else
      let (reply, after) := w.answer e
      after.advance (next reply)

/-- An act gets the reply that it waits for, and goes on. -/
def resume (w : World) : Act Outcome → Act Outcome × World
  | .done outcome => (.done outcome, w)
  | .perform e next =>
    let (reply, after) := w.answer e
    after.advance (next reply)

/-- Acts go on, each in its turn. -/
def resumeAll (w : World) : List (Act Outcome) → List (Act Outcome) × World
  | [] => ([], w)
  | act :: acts =>
    let (act, after) := w.resume act
    let (acts, after) := after.resumeAll acts
    (act :: acts, after)

end World

namespace Batch

/-- The requests behind the first that is not settled go on, as far as the limit allows. -/
def goOn (limit : Option Nat) (w : World) (acts : List (Act Outcome)) :
    List (Act Outcome) × World :=
  match limit with
  | none => w.resumeAll acts
  | some limit =>
    let (ahead, after) := w.resumeAll (acts.take (limit - 1))
    (ahead ++ acts.drop (limit - 1), after)

/-- Settles a request; while it waits, those behind it go on. -/
def settle (limit : Option Nat) (w : World) (behind : List (Act Outcome)) :
    Act Outcome → Outcome × List (Act Outcome) × World
  | .done outcome => (outcome, behind, w)
  | .perform e next =>
    let (behind, w) := if w.defers e then goOn limit w behind else (behind, w)
    let (reply, after) := w.answer e
    settle limit after behind (next reply)

/-- Settles requests under their keys, the first one first. -/
def settleAll (limit : Option Nat) :
    List BatchKey → World → List (Act Outcome) → List (BatchKey × Outcome) × World
  | key :: keys, w, act :: behind =>
    let (act, w) := w.resume act
    let (outcome, behind, w) := settle limit w behind act
    let (outcomes, w) := settleAll limit keys w behind
    ((key, outcome) :: outcomes, w)
  | _, w, _ => ([], w)

/-- All requests side by side. -/
def runTogether (b : Batch) (w : World) : BatchResults × World :=
  let (outcomes, w) := settleAll b.limit (b.entries.map (·.1)) w (b.entries.map (·.2))
  (⟨outcomes⟩, w)

end Batch

namespace BatchResults

def size (r : BatchResults) : Nat := r.entries.length

/-- The outcome of the first request under a key. -/
def get? (r : BatchResults) (key : BatchKey) : Option Outcome :=
  (r.entries.find? fun entry => entry.1 = key).map (·.2)

end BatchResults

end Courier
