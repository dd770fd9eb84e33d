import Courier.Proofs.Independence
import Courier.Proofs.Modes
import Courier.Proofs.Steps
import Courier.Session
/-
Handles that are kept while the session goes on. A handle is the request as its
draft was when it was sent, a draft starts from the client as it was when the
draft was made, and nothing happens before a handle is awaited
(`Session.handle?_operateAll`, `Session.draft?_operateAll`).

So as long as nothing is done but to register, configure and make more handles,
a handle that is awaited later does the same as one that is awaited at once.
What it shares with the rest of the session are the stores of the world. Where
those that it is answered from are as they were, each of its steps is one that
it would have taken before (`World.grants_of_agree`).

A handle that nobody awaits makes no difference to anything
(`Session.operateAll_without`).
-/
namespace Courier

/-! ## Registering -/

/-- What is registered with a client. -/
inductive Client.Call
  | globalOptions (o : Options)
  | globalStage (stage : Stage)
  | stub (m : Matcher)
  | fake
  | fakeUrl (pattern : String) (s : Stub)
  | preventStray
  | allowStray
  | record

def Client.call (c : Client) : Call → Client
  | .globalOptions o => c.globalOptions o
  | .globalStage stage => c.globalStage stage
  | .stub m => c.stub m
  | .fake => c.fake
  | .fakeUrl pattern s => c.fakeUrl pattern s
  | .preventStray => c.preventStray
  | .allowStray => c.allowStray
  | .record => c.record

namespace Session

/-! ## What is done in a session -/

/-- What is done in a session. A request is sent for a handle, or is awaited at once. Anything else
may happen to the world meanwhile. -/
inductive Call
  | register (c : Client.Call)
  | request (draft : String)
  | configure (draft : String) (change : Draft → Draft)
  | send (draft : String) (verb : Draft.Verb) (handle? : Option String)
  | await (handle : String)
  | changeQueue (queue : String) (change : Sequence → Sequence)
  | fakeQueue (pattern queue : String)
  | elsewhere (change : World → World)

/-- What comes of a call, if a request was run, and the session after it. What has no name is left
alone. -/
def operate (s : Session) : Call → Option Outcome × Session
  | .register c => (none, { s with client := s.client.call c })
  | .request draft => (none, s.newDraft.2.setDraft draft s.newDraft.1)
  | .configure draft change =>
    match s.draft? draft with
    | none => (none, s)
    | some d => (none, s.setDraft draft (change d))
  | .send draft verb handle? =>
    match s.draft? draft with
    | none => (none, s)
    | some d =>
      let s := s.setDraft draft (d.ask verb).2
      match handle?, d.mode with
      | some handle, .async => (none, s.setHandle handle (d.ask verb).1)
      | _, _ => (some (s.perform (d.ask verb).1).1, (s.perform (d.ask verb).1).2)
  | .await handle =>
    match s.handle? handle with
    | none => (none, s)
    | some act => (some (s.perform act).1, (s.perform act).2)
  | .changeQueue queue change => (none, (s.changeQueue queue change).2)
  | .fakeQueue pattern queue => (none, s.fakeQueue pattern queue)
  | .elsewhere change => (none, { s with world := change s.world })

/-- One call after another. -/
def operateAll (s : Session) : List Call → List (Option Outcome) × Session
  | [] => ([], s)
  | c :: calls =>
    ((s.operate c).1 :: ((s.operate c).2.operateAll calls).1, ((s.operate c).2.operateAll calls).2)

/-- The handle that a call gives a name to. -/
def Call.gives? : Call → Option String
  | .send _ _ handle? => handle?
  | _ => none

/-- The handle that a call is about. -/
def Call.handle? : Call → Option String
  | .send _ _ handle? => handle?
  | .await handle => some handle
  | _ => none

/-- What a call makes of the draft of a name. -/
def Call.onDraft (name : String) : Call → Draft → Draft
  | .configure draft change => if draft = name then change else id
  | .send draft _ _ => if draft = name then Draft.cleared else id
  | _ => id

variable {s : Session} {c : Call} {calls : List Call} {name handle : String} {d : Draft}
  {act : Act Outcome}

/-! ## What is kept -/

theorem draft?_setDraft (s : Session) (draft name : String) (d : Draft) :
    (s.setDraft draft d).draft? name = if draft = name then some d else s.draft? name := by
  by_cases h : draft = name
  · simp [draft?, setDraft, h]
  · have hne : (name == draft) = false := by simpa using Ne.symm h
    simp [draft?, setDraft, List.lookup_cons, hne, h]

theorem handle?_setHandle (s : Session) (handle name : String) (act : Act Outcome) :
    (s.setHandle handle act).handle? name = if handle = name then some act else s.handle? name := by
  by_cases h : handle = name
  · simp [handle?, setHandle, h]
  · have hne : (name == handle) = false := by simpa using Ne.symm h
    simp [handle?, setHandle, List.lookup_cons, hne, h]

theorem changeQueue_eq (s : Session) (queue : String) (change : Sequence → Sequence) :
    ∃ world queues, (s.changeQueue queue change).2 =
      { s with world := world, queues := queues } := by
  unfold changeQueue Session.queue
  cases s.queues.lookup queue with
  | none => exact ⟨_, _, rfl⟩
  | some number => exact ⟨_, s.queues, rfl⟩

theorem ask_snd (d : Draft) (verb : Draft.Verb) : (d.ask verb).2 = d.cleared := by
  cases verb with
  | send m url o => rfl
  | sendData m url data =>
    simp only [Draft.ask, Draft.sendData]
    split <;> rfl

/-- What a request does to the drafts, run or not, is to take from its draft what was staged. -/
theorem operate_send {draft : String} (h : s.draft? draft = some d) (verb : Draft.Verb)
    (handle? : Option String) :
    ∃ world handles, (s.operate (.send draft verb handle?)).2 =
      { s.setDraft draft d.cleared with world := world, handles := handles } := by
  simp only [operate, h, ask_snd]
  split
  · exact ⟨s.world, _, rfl⟩
  · exact ⟨_, s.handles, rfl⟩

/-- A handle stays as it is until its name is given anew. -/
theorem handle?_operate (hgives : c.gives? ≠ some handle) (h : s.handle? handle = some act) :
    (s.operate c).2.handle? handle = some act := by
  cases c with
  | configure draft change =>
    simp only [operate]
    split <;> exact h
  | send draft verb given? =>
    simp only [operate]
    split
    · exact h
    · next d _ =>
      cases given? with
      | none => exact h
      | some given =>
        have hne : given ≠ handle := fun heq => hgives (congrArg some heq)
        cases d.mode with
        | blocking => exact h
        | async => rwa [handle?_setHandle, if_neg hne]
  | await given =>
    simp only [operate]
    split <;> exact h
  | changeQueue queue change =>
    obtain ⟨world, queues, heq⟩ := s.changeQueue_eq queue change
    rw [operate, heq]
    exact h
  | _ => exact h

theorem handle?_operateAll (hgives : ∀ c ∈ calls, c.gives? ≠ some handle)
    (h : s.handle? handle = some act) :
    (s.operateAll calls).2.handle? handle = some act := by
  induction calls generalizing s with
  | nil => exact h
  | cons c calls ih =>
    exact ih (fun c' hmem => hgives c' (List.mem_cons_of_mem c hmem))
      (handle?_operate (hgives c List.mem_cons_self) h)

/-- A draft is what is made of it by name, whatever else is done. -/
theorem draft?_operate (hrequest : c ≠ .request name) (h : s.draft? name = some d) :
    (s.operate c).2.draft? name = some (c.onDraft name d) := by
  cases c with
  | request draft =>
    have hne : draft ≠ name := fun heq => hrequest (congrArg Call.request heq)
    simp only [operate]
    rw [draft?_setDraft, if_neg hne]
    exact h
  | configure draft change =>
    simp only [operate, Call.onDraft]
    by_cases heq : draft = name
    · subst heq
      simp [h, draft?_setDraft]
    · rw [if_neg heq]
      split
      · exact h
      · rwa [draft?_setDraft, if_neg heq]
  | send draft verb given? =>
    cases hdraft : s.draft? draft with
    | none =>
      have hne : draft ≠ name := by
        rintro rfl
        simp [h] at hdraft
      simpa [operate, hdraft, Call.onDraft, hne] using h
    | some d' =>
      obtain ⟨world, handles, heq⟩ := operate_send hdraft verb given?
      have hkept : (s.operate (.send draft verb given?)).2.draft? name =
          (s.setDraft draft d'.cleared).draft? name := by
        rw [heq]
        rfl
      rw [hkept, draft?_setDraft, Call.onDraft]
      by_cases hname : draft = name
      · subst hname
        obtain rfl : d' = d := Option.some.inj (hdraft.symm.trans h)
        simp
      · simpa [hname] using h
  | await given =>
    simp only [operate]
    split <;> exact h
  | changeQueue queue change =>
    obtain ⟨world, queues, heq⟩ := s.changeQueue_eq queue change
    rw [operate, heq]
    exact h
  | _ => exact h

theorem draft?_operateAll (hrequest : .request name ∉ calls) (h : s.draft? name = some d) :
    (s.operateAll calls).2.draft? name = some (calls.foldl (fun d c => c.onDraft name d) d) := by
  induction calls generalizing s d with
  | nil => exact h
  | cons c calls ih =>
    obtain ⟨hfirst, hrest⟩ := not_or.mp (mt List.mem_cons.mpr hrequest)
    exact ih hrest (draft?_operate (Ne.symm hfirst) h)

/-! ## Calls that do nothing yet -/

/-- A call that runs no request and leaves the world alone. -/
inductive Still (s : Session) : Call → Prop
  | register (c : Client.Call) : Still s (.register c)
  | request (draft : String) : Still s (.request draft)
  | configure (draft : String) (change : Draft → Draft) : Still s (.configure draft change)
  | send {draft d} (verb : Draft.Verb) (handle : String) :
      s.draft? draft = some d → d.mode = .async →
      Still s (.send draft verb (some handle))

/-- Such calls, one after another. -/
inductive AllStill : Session → List Call → Prop
  | nil {s : Session} : AllStill s []
  | cons {s : Session} {c calls} :
      Still s c → AllStill (s.operate c).2 calls → AllStill s (c :: calls)

/-- A request of an asynchronous draft is kept as it is, and nothing happens. -/
theorem operate_handle {draft : String} (hdraft : s.draft? draft = some d)
    (hasync : d.mode = .async) (verb : Draft.Verb) (handle : String) :
    s.operate (.send draft verb (some handle)) =
      (none, (s.setDraft draft d.cleared).setHandle handle (d.ask verb).1) := by
  simp only [operate, hdraft, hasync, ask_snd]

theorem Still.world_operate (h : s.Still c) : (s.operate c).2.world = s.world := by
  cases h with
  | register c => rfl
  | request draft => rfl
  | configure draft change =>
    simp only [operate]
    split <;> rfl
  | send verb handle hdraft hasync =>
    rw [operate_handle hdraft hasync]
    rfl

theorem AllStill.world_operateAll (h : s.AllStill calls) :
    (s.operateAll calls).2.world = s.world := by
  induction h with
  | nil => rfl
  | cons hc _ ih => exact ih.trans hc.world_operate

/-- Awaiting a handle is running it in the world as it is then. -/
theorem operate_await (h : s.handle? handle = some act) :
    s.operate (.await handle) =
      (some (s.world.run act).1, { s with world := (s.world.run act).2 }) := by
  simp only [operate, h, perform]

/-! ## Handles that nobody awaits -/

/-- The sessions differ in nothing but what a handle stands for. -/
def SameBut (handle : String) (s s' : Session) : Prop :=
  ∃ handles, s' = { s with handles := handles } ∧ ∀ name, name ≠ handle →
    handles.lookup name = s.handle? name

theorem SameBut.setHandle {s' : Session} (h : SameBut handle s s') (name : String)
    (act : Act Outcome) :
    SameBut handle (s.setHandle name act) (s'.setHandle name act) := by
  obtain ⟨handles, rfl, hkept⟩ := h
  refine ⟨(name, act) :: handles, rfl, fun other hne => ?_⟩
  rw [handle?_setHandle]
  by_cases hname : name = other
  · simp [hname]
  · have hother : (other == name) = false := by simpa using Ne.symm hname
    simpa [List.lookup_cons, hother, hname] using hkept other hne

/-- A call that is not about a handle does the same without it. -/
theorem SameBut.operate {s' : Session} (h : SameBut handle s s') (hc : c.handle? ≠ some handle) :
    (s'.operate c).1 = (s.operate c).1 ∧ SameBut handle (s.operate c).2 (s'.operate c).2 := by
  obtain ⟨handles, rfl, hkept⟩ := id h
  cases c with
  | configure draft change =>
    have hget : Session.draft? { s with handles := handles } draft = s.draft? draft := rfl
    simp only [Session.operate, hget]
    cases s.draft? draft with
    | none => exact ⟨rfl, h⟩
    | some d => exact ⟨rfl, handles, rfl, hkept⟩
  | send draft verb given? =>
    have hget : Session.draft? { s with handles := handles } draft = s.draft? draft := rfl
    simp only [Session.operate, hget]
    cases s.draft? draft with
    | none => exact ⟨rfl, h⟩
    | some d =>
      have hset : SameBut handle (s.setDraft draft (d.ask verb).2)
          (Session.setDraft { s with handles := handles } draft (d.ask verb).2) :=
            ⟨handles, rfl, hkept⟩
      cases given? with
      | none => exact ⟨rfl, handles, rfl, hkept⟩
      | some given =>
        cases hmode : d.mode with
        | blocking =>
          simp only [hmode]
          exact ⟨rfl, handles, rfl, hkept⟩
        | async =>
          simp only [hmode, true_and]
          exact hset.setHandle given _
  | await given =>
    have hne : given ≠ handle := fun heq => hc (congrArg some heq)
    have hget : Session.handle? { s with handles := handles } given = s.handle? given :=
      hkept given hne
    simp only [Session.operate, hget]
    cases s.handle? given with
    | none => exact ⟨rfl, h⟩
    | some act => exact ⟨rfl, handles, rfl, hkept⟩
  | changeQueue queue change =>
    simp only [Session.operate, Session.changeQueue, Session.queue]
    refine ⟨trivial, ?_⟩
    cases s.queues.lookup queue with
    | none => exact ⟨handles, rfl, hkept⟩
    | some number => exact ⟨handles, rfl, hkept⟩
  | _ => exact ⟨rfl, handles, rfl, hkept⟩

theorem SameBut.operateAll {s' : Session} (h : SameBut handle s s')
    (hcalls : ∀ c ∈ calls, c.handle? ≠ some handle) :
    (s'.operateAll calls).1 = (s.operateAll calls).1 ∧
      SameBut handle (s.operateAll calls).2 (s'.operateAll calls).2 := by
  induction calls generalizing s s' with
  | nil => exact ⟨rfl, h⟩
  | cons c calls ih =>
    obtain ⟨hresult, hnext⟩ := h.operate (hcalls c List.mem_cons_self)
    obtain ⟨hresults, hlast⟩ := ih hnext fun c' hmem => hcalls c' (List.mem_cons_of_mem c hmem)
    exact ⟨by rw [Session.operateAll, Session.operateAll, hresult, hresults], hlast⟩

end Session

/-! ## What a handle shares -/

namespace World

/-- `v.AnswersLike w act`: the settings that an act is answered from and the stores that it reads
when it is alone in `w` are the same in `v`. -/
structure AnswersLike (v w : World) (act : Act Outcome) : Prop where
  truncation : v.truncation = w.truncation
  network : v.network = w.network
  stores : ∀ e store, w.Performs act e → e.Reads w.network store → v.Agree w store

variable {w v : World}

theorem AnswersLike.gives {e : Effect} {next : e.Reply → Act Outcome}
    (h : v.AnswersLike w (.perform e next)) :
    w.Gives ⟨e, (v.answer e).1⟩ :=
  gives_of_agree h.truncation h.network fun store hreads =>
    h.stores e store ⟨[], w, next, .nil, .start⟩ hreads

theorem AnswersLike.answer {e : Effect} {next : e.Reply → Act Outcome}
    (h : v.AnswersLike w (.perform e next)) :
    (v.answer e).2.AnswersLike (w.answer e).2 (next (v.answer e).1) where
  truncation :=
    (v.spares_answer e).truncation.trans (h.truncation.trans (w.spares_answer e).truncation.symm)
  network := (v.spares_answer e).network.trans (h.network.trans (w.spares_answer e).network.symm)
  stores := by
    rintro e' store ⟨t, x, next', hgrants, hleads⟩ hreads
    rw [(w.spares_answer e).network] at hreads
    exact (h.stores e' store ⟨_, x, next', .cons h.gives hgrants, .perform hleads⟩ hreads).answer

/-- An act takes no steps in the one world that it might not take in the other. -/
theorem AnswersLike.grants {act : Act Outcome} (h : v.AnswersLike w act) :
    ∃ x, w.Grants (v.steps act) x := by
  induction act generalizing w v with
  | done out => exact ⟨w, .nil⟩
  | perform e next ih =>
    obtain ⟨x, hx⟩ := ih _ h.answer
    exact ⟨x, .cons h.gives hx⟩

end World

namespace Session

variable {s : Session} {calls : List Call} {name : String} {d : Draft}

/-- The session after some calls. -/
def after (s : Session) (calls : List Call) : Session := (s.operateAll calls).2

/-- The session after a draft was sent for a handle. -/
def sent (s : Session) (name : String) (verb : Draft.Verb) (handle : String) : Session :=
  (s.operate (.send name verb (some handle))).2

/-- What a handle comes to if it is awaited now, and the world after it. -/
def awaiting (s : Session) (handle : String) : Option Outcome × World :=
  ((s.operate (.await handle)).1, (s.operate (.await handle)).2.world)

/-- The draft starts from what is registered with a client, and from nothing else. -/
structure StartsFrom (c : Client) (d : Draft) : Prop where
  options : d.options = c.plainDraft.options.merge c.options
  middleware : d.middleware = c.middleware
  stubs : d.stubs = c.stubs
  preventsStray : d.preventsStray = c.preventsStray
  history : .history ∈ d.recorders ↔ c.recording = true

theorem startsFrom_request (c : Client) : StartsFrom c c.request.1 where
  options := rfl
  middleware := rfl
  stubs := rfl
  preventsStray := rfl
  history := by
    change .history ∈ c.recorders ↔ _
    simp [Client.recorders]

/-- To send an asynchronous draft for a handle does nothing but take from the draft what was staged,
and whatever is done but to await the handle is as if it had not been made. The handle stays the
request of the draft as it was, whatever is done until its name is given anew. Awaited after calls
that run nothing, it does what it would have done at once. Awaited in a world that answers it like
the one before, it takes steps that it would have taken at once, and ends as it would have ended. A
draft starts from what is registered with the client when it is made, and nothing changes it but
what is done by its name. -/
theorem send_keeps_snapshot (hdraft : s.draft? name = some d) (hasync : d.mode = .async)
    (verb : Draft.Verb) (handle : String) :
    s.operate (.send name verb (some handle)) =
      (none, (s.setDraft name d.cleared).setHandle handle (d.ask verb).1) ∧
    (∀ calls, (∀ c ∈ calls, c.handle? ≠ some handle) →
      ((s.sent name verb handle).operateAll calls).1 =
        ((s.setDraft name d.cleared).operateAll calls).1 ∧
      SameBut handle ((s.setDraft name d.cleared).after calls)
        ((s.sent name verb handle).after calls)) ∧
    (∀ calls s', s' = (s.sent name verb handle).after calls →
      (∀ c ∈ calls, c.gives? ≠ some handle) →
      s'.awaiting handle = (some (s'.world.run (d.ask verb).1).1, (s'.world.run (d.ask verb).1).2) ∧
      (AllStill (s.sent name verb handle) calls →
        s'.awaiting handle = (s.sent name verb handle).awaiting handle) ∧
      (s'.world.AnswersLike s.world (d.ask verb).1 →
        (∃ v, s.world.Grants (s'.world.steps (d.ask verb).1) v) ∧
        ((d.ask verb).1.Unnumbered →
          (s'.awaiting handle).1 = ((s.sent name verb handle).awaiting handle).1))) ∧
    (∀ (s : Session) name calls, .request name ∉ calls →
      StartsFrom s.client s.client.request.1 ∧
      (s.after (.request name :: calls)).draft? name =
        some (calls.foldl (fun d c => c.onDraft name d) s.client.request.1)) := by
  have hsent : s.sent name verb handle =
      (s.setDraft name d.cleared).setHandle handle (d.ask verb).1 :=
    congrArg Prod.snd (operate_handle hdraft hasync verb handle)
  have hhandle : (s.sent name verb handle).handle? handle = some (d.ask verb).1 := by
    rw [hsent, handle?_setHandle, if_pos rfl]
  have hworld : (s.sent name verb handle).world = s.world := by
    rw [hsent]
    rfl
  refine ⟨operate_handle hdraft hasync verb handle, fun calls hcalls => ?_, ?_,
    fun s name calls hrequest => ?_⟩
  · refine SameBut.operateAll ⟨(s.sent name verb handle).handles, by rw [hsent]; rfl,
      fun other hne => ?_⟩ hcalls
    have hother := handle?_setHandle (s.setDraft name d.cleared) handle other (d.ask verb).1
    rwa [if_neg (Ne.symm hne), ← hsent] at hother
  · rintro calls s' rfl hgives
    have hnow : (s.sent name verb handle).awaiting handle =
        (some (s.world.run (d.ask verb).1).1, (s.world.run (d.ask verb).1).2) := by
      rw [awaiting, operate_await hhandle, hworld]
    have hlater := operate_await (handle?_operateAll hgives hhandle)
    refine ⟨?_, fun hstill => ?_, fun hlike => ?_⟩
    · rw [awaiting, after, hlater]
    · rw [hnow, awaiting, after, hlater, hstill.world_operateAll, hworld]
    · obtain ⟨v, hgrants⟩ := hlike.grants
      refine ⟨⟨v, hgrants⟩, fun hunnumbered => ?_⟩
      rw [hnow, awaiting, after, hlater]
      exact congrArg some (hunnumbered.eq_run ⟨_, v, hgrants, World.runs_steps _ _⟩)
  · refine ⟨startsFrom_request s.client,
      draft?_operateAll (s := (s.operate (.request name)).2) hrequest ?_⟩
    exact (draft?_setDraft s.newDraft.2 name name s.newDraft.1).trans (if_pos rfl)

/-- A client of a service that is never available. -/
def idle : Client := .new ⟨fun _ => pure (.ok (.ofStatus 503)), true⟩ false

/-- A session with an asynchronous draft. -/
def ready : Session :=
  (new idle (.initial .default true .unreachable)).after
    [.request "draft", .configure "draft" Draft.intoAsync]

theorem send_keeps_snapshot_ready : ∃ s',
    ready.draft? "draft" = some idle.request.1.intoAsync ∧ idle.request.1.intoAsync.mode = .async ∧
    s' = (ready.sent "draft" (.send .get "http://a.test/" .empty) "handle").after
      [.register .preventStray, .configure "draft" (·.withToken "token"),
        .send "draft" (.send .post "http://b.test/" .empty) (some "other")] ∧
    s'.client.preventsStray = true ∧
    s'.awaiting "handle" =
      (ready.sent "draft" (.send .get "http://a.test/" .empty) "handle").awaiting "handle" := by
  have hdraft : ready.draft? "draft" = some idle.request.1.intoAsync := rfl
  obtain ⟨-, -, hlater, -⟩ :=
    send_keeps_snapshot hdraft rfl (.send .get "http://a.test/" .empty) "handle"
  refine ⟨_, hdraft, rfl, rfl, rfl, (hlater _ _ rfl ?_).2.1 ?_⟩
  · simp [Call.gives?]
  · exact .cons (.register _) (.cons (.configure _ _) (.cons (.send _ _ rfl rfl) .nil))

end Session

end Courier
