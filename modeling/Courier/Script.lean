import Courier.Criteria
import Courier.Service
/-
Scripted transports: they answer without a network, by the first route whose
criteria are met. They tell of every request that reaches them, and they know
neither sinks nor statistics.
-/
namespace Courier

structure Script where
  routes : List (ExchangeCriteria × Outcome)
  fallback : Outcome

namespace Script

/-- What a request is answered with. -/
def answer (s : Script) (q : Request) : Outcome :=
  match s.routes.find? fun route => route.1.accepts q none with
  | some route => route.2
  | none => s.fallback

/-- The transport that follows the script. -/
def transport (s : Script) : Transport := fun q => do
  Act.note (.transported q)
  pure (s.answer q)

end Script

end Courier
