import Courier.Batch
/-
Sessions: a client at work in its world, with the drafts, the handles and the
answer queues that were given names. A handle is a request that was made and
not yet run; a name that is given anew stands for the newer thing, while those
who hold the older one keep it.
-/
namespace Courier

structure Session where
  client : Client
  world : World
  drafts : List (String × Draft)
  handles : List (String × Act Outcome)
  /-- The number of the queue that each name stands for. -/
  queues : List (String × Nat)

namespace Session

/-- A session in which nothing was done yet. -/
def new (client : Client) (world : World) : Session := ⟨client, world, [], [], []⟩

/-- Runs an act. -/
def perform {α : Type} (s : Session) (act : Act α) : α × Session :=
  let (result, world) := s.world.run act
  (result, { s with world := world })

/-- Runs the requests of a batch side by side. -/
def runBatch (s : Session) (b : Batch) : BatchResults × Session :=
  let (results, world) := b.runTogether s.world
  (results, { s with world := world })

/-- What was told since the last time, and the session without it. -/
def takeNotices (s : Session) : List Notice × Session :=
  (s.world.notices, { s with world := { s.world with notices := [] } })

/-! ## Drafts and handles -/

def draft? (s : Session) (name : String) : Option Draft := s.drafts.lookup name

def setDraft (s : Session) (name : String) (d : Draft) : Session :=
  { s with drafts := (name, d) :: s.drafts }

/-- A new draft without a name. -/
def newDraft (s : Session) : Draft × Session :=
  let (draft, client) := s.client.request
  (draft, { s with client := client })

def handle? (s : Session) (name : String) : Option (Act Outcome) := s.handles.lookup name

def setHandle (s : Session) (name : String) (act : Act Outcome) : Session :=
  { s with handles := (name, act) :: s.handles }

/-! ## Queues -/

/-- Gives a name to a new queue; the number of the queue comes with the session. -/
def newQueue (s : Session) (name : String) : Nat × Session :=
  let (number, world) := s.world.newSequence
  (number, { s with world := world, queues := (name, number) :: s.queues })

/-- The queue that a name stands for, a new one if it stands for none yet. -/
def queue (s : Session) (name : String) : Nat × Session :=
  match s.queues.lookup name with
  | some number => (number, s)
  | none => s.newQueue name

/-- Changes the queue of a name; the result is the queue after it. -/
def changeQueue (s : Session) (name : String) (change : Sequence → Sequence) :
    Sequence × Session :=
  let (number, s) := s.queue name
  let changed := change (s.world.sequence number)
  (changed, { s with world := s.world.setSequence number changed })

/-- Answers the requests whose URL fits a pattern from a new queue of the given name. -/
def fakeQueue (s : Session) (pattern name : String) : Session :=
  let (queue, s) := s.newQueue name
  { s with client := s.client.fakeUrl pattern (.sequence queue) }

/-! ## Settings of the world -/

def setTruncation (s : Session) (t : Truncation) : Session :=
  { s with world := { s.world with truncation := t } }

def clearExternal (s : Session) : Session := { s with world := { s.world with external := [] } }

end Session

end Courier
