import Courier.Directory
import Courier.Effect
import Courier.Multipart
/-
The world in which requests are sent: who listens and what they were told, the
recorded exchanges, the answer queues, the sinks and the network. An act
is run in a world by letting the world answer its effects one after another.

* `World.run_bind`: an act that follows another starts in the world which that
  one leaves behind.
* `World.notices_note`: whoever listens is told everything, in order.
-/
namespace Courier

/-- A request and the response to it, if there was one. -/
structure Recorded where
  request : Request
  response : Option Response

/-- What comes of the exchanges on a network, given those that went before. -/
abbrev Network := List WireRequest → WireRequest → Reception

/-- The network on which no connection can be made. -/
def Network.unreachable : Network := fun _ _ => .lost ⟨.connect, "client error (Connect)"⟩

structure World where
  notices : List Notice
  boundaries : Nat
  /-- The nanoseconds of the clock when a boundary is made, by the number of boundaries before. -/
  clock : Nat → Nat
  truncation : Truncation
  /-- The latest request of each draft, the last one first. -/
  sent : List (Nat × Request)
  history : List Recorded
  external : List Recorded
  /-- The answer queues by number. -/
  sequences : List Sequence
  buffers : SortedMap Bytes
  files : Directory
  /-- Waits are noted down instead of waited for. -/
  notesWaits : Bool
  delays : List Nat
  exchanges : List WireRequest
  network : Network

namespace World

/-- The world before anything happened. -/
def initial (truncation : Truncation) (notesWaits : Bool) (network : Network) : World where
  notices := []
  boundaries := 0
  clock := fun _ => 0
  truncation := truncation
  sent := []
  history := []
  external := []
  sequences := []
  buffers := .empty
  files := .empty
  notesWaits := notesWaits
  delays := []
  exchanges := []
  network := network

/-! ## Stores -/

def tell (w : World) (n : Notice) : World := { w with notices := w.notices ++ [n] }

/-- The queue of a number; one that was never made is empty. -/
def sequence (w : World) (number : Nat) : Sequence := w.sequences[number]?.getD .empty

def setSequence (w : World) (number : Nat) (s : Sequence) : World :=
  { w with sequences := w.sequences.set number s }

/-- The number of a new, empty queue. -/
def newSequence (w : World) : Nat × World :=
  (w.sequences.length, { w with sequences := w.sequences ++ [.empty] })

/-- The request that a draft sent last. -/
def lastSent? (w : World) (draft : Nat) : Option Request :=
  (w.sent.find? fun entry => entry.1 == draft).map (·.2)

/-- The contents of a buffer; one that was never written is empty. -/
def buffer (w : World) (name : String) : Bytes := (w.buffers.get? name).getD []

/-- Writes a body to a sink in place of what it held. -/
def write (w : World) (sink : Sink) (bytes : Bytes) : Except String Unit × World :=
  match sink with
  | .buffer name => (.ok (), { w with buffers := w.buffers.insert name bytes })
  | .file path =>
    match w.files.write path bytes with
    | .error flaw => (.error flaw.message, w)
    | .ok files => (.ok (), { w with files := files })

def append (w : World) (recorder : Recorder) (recorded : Recorded) : World :=
  match recorder with
  | .history => { w with history := w.history ++ [recorded] }
  | .external => { w with external := w.external ++ [recorded] }

/-! ## Running -/

/-- The reply to an effect, and the world after it. -/
def answer (w : World) : (e : Effect) → e.Reply × World
  | .note n => ((), w.tell n)
  | .freshBoundary =>
    (Multipart.boundary ⟨w.clock w.boundaries, w.boundaries⟩,
      { w with boundaries := w.boundaries + 1 })
  | .truncation => (w.truncation, w)
  | .remember draft q => ((), { w with sent := (draft, q) :: w.sent })
  | .record recorder q r? => ((), w.append recorder ⟨q, r?⟩)
  | .takeCanned number =>
    let (canned?, rest) := (w.sequence number).next
    (canned?, w.setSequence number rest)
  | .writeSink sink bytes => w.write sink bytes
  | .sleep ms mode =>
    if w.notesWaits then
      ((), { w with delays := w.delays ++ [ms], notices := w.notices ++ [.slept ms mode] })
    else ((), w)
  | .exchange wire _ =>
    (w.network w.exchanges wire, { w with exchanges := w.exchanges ++ [wire] })

/-- The result of an act, and the world after it. -/
def run {α : Type} (w : World) : Act α → α × World
  | .done a => (a, w)
  | .perform e next =>
    let (reply, after) := w.answer e
    after.run (next reply)

theorem run_bind {α β : Type} (w : World) (act : Act α) (f : α → Act β) :
    w.run (act.bind f) = (w.run act).2.run (f (w.run act).1) := by
  induction act generalizing w with
  | done => rfl
  | perform e next ih => simp only [Act.bind, run, ih]

theorem notices_note (w : World) (n : Notice) :
    (w.run (Act.note n)).2.notices = w.notices ++ [n] := rfl

end World

end Courier
