import Courier.Failure
import Courier.Request
/-
Answers that are made up instead of fetched, and queues of them. A queue hands
out its answers in the order in which they were added, each once. When it is
empty it fails, unless a fallback was set, which it then repeats.

* `Sequence.next_push_of_empty`: what is added to an empty queue is handed out
  next.
-/
namespace Courier

/-- An answer that is made up: a response, one that depends on the request, or a failure to
connect. -/
inductive Canned
  | response (r : Response)
  | callback (answer : Request → Response)
  | failure (f : ConnectionFailure)

/-- What a request is answered with. -/
def Canned.resolve (q : Request) : Canned → Outcome
  | response r => .ok r
  | callback answer => .ok (answer q)
  | failure f => .error (.connection f)

/-- A queue of answers and what is repeated when it is empty, if anything is. -/
structure Sequence where
  queue : List Canned
  fallback : Option Canned

namespace Sequence

/-- The queue that is empty and fails. -/
def empty : Sequence := ⟨[], none⟩

instance : Inhabited Sequence := ⟨empty⟩

def length (s : Sequence) : Nat := s.queue.length

/-- Adds an answer at the end. -/
def push (s : Sequence) (c : Canned) : Sequence := { s with queue := s.queue ++ [c] }

/-- Sets what is repeated when the queue is empty. -/
def whenEmpty (s : Sequence) (r : Response) : Sequence := { s with fallback := some (.response r) }

/-- Takes the first answer, or repeats the fallback. -/
def next (s : Sequence) : Option Canned × Sequence :=
  match s.queue with
  | c :: rest => (some c, { s with queue := rest })
  | [] => (s.fallback, s)

theorem next_push_of_empty {s : Sequence} (h : s.queue = []) (c : Canned) :
    (s.push c).next = (some c, s) := by
  cases s
  simp_all [push, next]

end Sequence

/-- What a stub answers with: one answer for good, or the queue of a number. -/
inductive Stub
  | canned (c : Canned)
  | sequence (number : Nat)

end Courier
