import Courier.Effect
/-
Services answer requests; stages are put around a service and make another
one. A dispatch sends its attempts through one stack of stages, and what it
keeps from call to call is its own: the request that was last sent, and how
often each stage was called.

* `compose_append`: a stack can be put up in parts.
-/
namespace Courier

/-- What a dispatch keeps while it runs: the request last sent in the attempt, and the calls of
the services so far, by their height in the stack. -/
structure Progress where
  sent : Option Request
  calls : Nat → Nat

/-- Nothing was sent and no service was called. -/
def Progress.start : Progress := ⟨none, fun _ => 0⟩

/-- Steps of a dispatch. -/
abbrev Run := StateT Progress Act

namespace Run

/-- Performs an effect. -/
def effect (e : Effect) : Run e.Reply := fun p => (Act.effect e).bind fun reply => .done (reply, p)

/-- Tells those who listen. -/
def note (n : Notice) : Run Unit := effect (.note n)

/-- Runs an act. -/
def act {α : Type} (a : Act α) : Run α := fun p => a.bind fun result => .done (result, p)

/-- Counts a call of the service at a height; the result is the number of calls before it. -/
def countCall (height : Nat) : Run Nat := fun p =>
  .done (p.calls height,
    { p with calls := fun h => if h = height then p.calls height + 1 else p.calls h })

/-- Keeps a request as the one last sent. -/
def keepSent (q : Request) : Run Unit := fun p => .done ((), { p with sent := some q })

/-- Takes the request last sent. -/
def takeSent : Run (Option Request) := fun p => .done (p.sent, { p with sent := none })

end Run

/-- Something that answers requests, at a height in the stack. -/
structure Service where
  height : Nat
  call : Request → Run Outcome

/-- A service around another. -/
abbrev Stage := Service → Service

/-- What answers the requests that no stage answers. -/
abbrev Transport := Request → Act Outcome

namespace Service

/-- The service below all stages. -/
def ofTransport (t : Transport) : Service := ⟨0, fun q => Run.act (t q)⟩

/-- The service on top of another, given its own height and the call of that one. -/
def above (call : Nat → (Request → Run Outcome) → Request → Run Outcome) : Stage := fun inner =>
  ⟨inner.height + 1, call (inner.height + 1) inner.call⟩

end Service

/-- A stack of stages on a service, the first stage outermost. -/
def compose (stages : List Stage) (inner : Service) : Service :=
  stages.foldr (fun stage service => stage service) inner

theorem compose_append (outer rest : List Stage) (inner : Service) :
    compose (outer ++ rest) inner = compose outer (compose rest inner) := by
  simp [compose]

end Courier
