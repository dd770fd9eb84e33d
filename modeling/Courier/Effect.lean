import Courier.Notice
import Courier.Sequence
/-
What sending a request does to the world outside, one effect at a time. An
`Act` is a tree of effects with their possible replies; it does nothing by
itself. It is run by answering its effects in order, so acts can be kept, run
later, and run in turns with other acts.

* `Act.bind_assoc`, `Act.bind_done`: acts follow one another as they should.
-/
namespace Courier

/-- Who keeps the exchanges of a client: its own history, or a recorder that was handed in. -/
inductive Recorder
  | history
  | external
  deriving DecidableEq

/-- A request as it goes over a connection. -/
structure WireRequest where
  method : Method
  url : Url
  headers : Headers
  body : Bytes
  deriving DecidableEq

/-- What comes of sending a request over a connection: an answer, a failure, or nothing until
the time is up. -/
inductive Reception
  | answered (r : Response)
  | lost (f : ConnectionFailure)
  | expired

/-- One thing that is done to the world outside. -/
inductive Effect
  | note (n : Notice)
  | freshBoundary
  | truncation
  | remember (draft : Nat) (q : Request)
  | record (recorder : Recorder) (q : Request) (r? : Option Response)
  | takeCanned (sequence : Nat)
  | writeSink (sink : Sink) (bytes : Bytes)
  | sleep (ms : Nat) (mode : Mode)
  | exchange (w : WireRequest) (timeout : Nat)

/-- What an effect is answered with. -/
abbrev Effect.Reply : Effect → Type
  | note _ => Unit
  | freshBoundary => String
  | truncation => Truncation
  | remember _ _ => Unit
  | record _ _ _ => Unit
  | takeCanned _ => Option Canned
  | writeSink _ _ => Except String Unit
  | sleep _ _ => Unit
  | exchange _ _ => Reception

/-- Effects to be performed one after another, each depending on the replies so far. -/
inductive Act (α : Type) : Type
  | done (a : α)
  | perform (e : Effect) (next : e.Reply → Act α)

namespace Act

variable {α β γ : Type}

/-- One act after another. -/
def bind : Act α → (α → Act β) → Act β
  | done a, f => f a
  | perform e next, f => perform e fun reply => (next reply).bind f

instance : Monad Act where
  pure := done
  bind := bind

/-- A single effect. -/
def effect (e : Effect) : Act e.Reply := perform e done

/-- Tells those who listen. -/
def note (n : Notice) : Act Unit := effect (.note n)

theorem bind_done (act : Act α) : act.bind done = act := by
  induction act with
  | done => rfl
  | perform e next ih => simp only [bind, ih]

theorem bind_assoc (act : Act α) (f : α → Act β) (g : β → Act γ) :
    (act.bind f).bind g = act.bind fun a => (f a).bind g := by
  induction act with
  | done => rfl
  | perform e next ih => simp only [bind, ih]

instance : LawfulMonad Act := LawfulMonad.mk' Act bind_done (fun _ _ => rfl) bind_assoc

end Act

end Courier
