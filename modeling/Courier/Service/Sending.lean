import Courier.Service
/-
The stage that sends requests off: it keeps the request that reaches it,
announces it, and hands it to the hooks, which may put another request in its
place.
-/
namespace Courier

/-- A function that sees a request before it is sent and may replace it. One with a label tells
that it was called. -/
structure Hook where
  label? : Option String
  replace : Request → Option Request

namespace Hook

/-- The request after one hook. -/
def apply (hook : Hook) (q : Request) : Run Request := do
  if let some label := hook.label? then
    Run.note (.hooked label q)
  pure ((hook.replace q).getD q)

/-- The request after the hooks, each seeing what the one before left. -/
def applyAll (hooks : List Hook) (q : Request) : Run Request :=
  hooks.foldlM (fun q hook => hook.apply q) q

end Hook

/-- Keeps and announces the request for a draft; `announces` says whether anyone listens. -/
def announce (draft : Nat) (announces : Bool) (q : Request) : Run Unit := do
  Run.keepSent q
  Run.effect (.remember draft q)
  if announces then
    Run.note (.event (.sending q))

/-- The stage that sends the requests of a draft off. -/
def sendingStage (draft : Nat) (announces : Bool) (hooks : List Hook) : Stage :=
  Service.above fun _ inner q => do
    announce draft announces q
    inner (← Hook.applyAll hooks q)

end Courier
