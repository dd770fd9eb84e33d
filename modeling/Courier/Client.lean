import Courier.Draft
/-
Clients make drafts. What is registered with a client (options, middleware and
stubs for all requests, whether stray requests are prevented and whether a
history is kept) holds for the drafts made from then on.

Faking an answer turns the history on.
-/
namespace Courier

structure Client where
  environment : Environment
  /-- A recorder was handed in besides the history. -/
  hasRecorder : Bool
  stubs : List Matcher
  preventsStray : Bool
  recording : Bool
  options : Options
  middleware : List Stage
  /-- The number of drafts made so far. -/
  drafts : Nat

namespace Client

/-- A client with nothing registered. -/
def new (environment : Environment) (hasRecorder : Bool) : Client where
  environment := environment
  hasRecorder := hasRecorder
  stubs := []
  preventsStray := false
  recording := false
  options := .empty
  middleware := []
  drafts := 0

/-! ## Registering -/

/-- Merges options into those of all requests. -/
def globalOptions (c : Client) (o : Options) : Client := { c with options := c.options.merge o }

/-- Adds a stage to those of all requests. -/
def globalStage (c : Client) (stage : Stage) : Client :=
  { c with middleware := c.middleware ++ [stage] }

/-- Adds a matcher behind those there are. -/
def stub (c : Client) (m : Matcher) : Client :=
  { c with stubs := c.stubs ++ [m], recording := true }

/-- Answers every request with an empty response. -/
def fake (c : Client) : Client := c.stub (.any (.canned (.response (.ofStatus 200))))

/-- Answers the requests whose URL fits a pattern. -/
def fakeUrl (c : Client) (pattern : String) (s : Stub) : Client := c.stub (.ofPattern pattern s)

def preventStray (c : Client) : Client := { c with preventsStray := true }

def allowStray (c : Client) : Client := { c with preventsStray := false }

def record (c : Client) : Client := { c with recording := true }

/-! ## Drafts -/

/-- The recorders of a draft that is made now. -/
def recorders (c : Client) : List Recorder :=
  (if c.recording then [.history] else []) ++ (if c.hasRecorder then [.external] else [])

/-- A draft with the settings that every draft starts from: it sends JSON. -/
def plainDraft (c : Client) : Draft :=
  Draft.asJson
    { serial := c.drafts
      baseUrl := ""
      urlParameters := .empty
      format := .json
      stagedBody := none
      stagedParts := []
      options := .empty
      retry := .once
      throwing := .never
      middleware := []
      hooks := []
      stubs := c.stubs
      preventsStray := c.preventsStray
      recorders := c.recorders
      environment := c.environment
      mode := .blocking }

/-- A new draft. -/
def request (c : Client) : Draft × Client :=
  let draft := c.plainDraft.withOptions c.options
  ({ draft with middleware := draft.middleware ++ c.middleware },
    { c with drafts := c.drafts + 1 })

end Client

end Courier
