import Courier.Service
/-
Middleware: what a caller puts around the sending of requests. It is written as
a plan: answer at once, tell those who listen, or call the service inside and
go on from its outcome. It may see how often it was called before.
-/
namespace Courier

/-- What middleware does with a request. -/
inductive Plan
  | answer (outcome : Outcome)
  | note (n : Notice) (rest : Plan)
  | call (q : Request) (resume : Outcome → Plan)

/-- Carries a plan out on the service inside. -/
def Plan.run (inner : Request → Run Outcome) : Plan → Run Outcome
  | answer outcome => pure outcome
  | note n rest => do
    Run.note n
    rest.run inner
  | call q resume => do
    let outcome ← inner q
    (resume outcome).run inner

/-- A plan for each request, given the number of requests before it in the same dispatch. -/
abbrev Middleware := (earlier : Nat) → Request → Plan

namespace Middleware

/-- The middleware as a stage. -/
def stage (m : Middleware) : Stage := Service.above fun height inner q => do
  let earlier ← Run.countCall height
  (m earlier q).run inner

/-- Rewrites requests. -/
def mapRequest (f : Request → Request) : Middleware := fun _ q => .call (f q) .answer

/-- Rewrites responses; failures stay as they are. -/
def mapResponse (g : Response → Response) : Middleware := fun _ q =>
  .call q fun outcome => .answer (outcome.map g)

/-- Turns failed responses into failures. -/
def raising (truncation : Truncation) : Middleware := fun _ q =>
  .call q fun outcome => .answer (outcome.bind fun r => r.throwIfFailed truncation)

/-- Answers without calling the service inside. -/
def answering (outcome : Outcome) : Middleware := fun _ _ => .answer outcome

/-- Tells when a request goes in and when its outcome comes out. -/
def tracing (label : String) : Middleware := fun _ q =>
  .note (.entered label q.url) <|
    .call q fun outcome => .note (.left label outcome) (.answer outcome)

end Middleware

end Courier
