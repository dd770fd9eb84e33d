import Courier.Proofs.Snapshots
/-
What a request leaves of its draft: all but what was staged. A body and parts
are staged for the next request only, so they are gone after it, whether it was
sent, failed, is still to be awaited, or could not be made at all, and stay
gone until something is staged anew (`Session.draft?_after_send`).

Data that cannot be encoded is the failure of its request, and nothing else
happens (`Draft.ask_of_unencodable`).
-/
namespace Courier

/-! ## Staged bodies and parts -/

/-- `d.Unstages d'`: nothing is staged in `d'`, and all else is as in `d`. -/
structure Draft.Unstages (d d' : Draft) : Prop where
  stagedBody : d'.stagedBody = none
  stagedParts : d'.stagedParts = []
  serial : d'.serial = d.serial
  baseUrl : d'.baseUrl = d.baseUrl
  urlParameters : d'.urlParameters = d.urlParameters
  format : d'.format = d.format
  options : d'.options = d.options
  retry : d'.retry = d.retry
  throwing : d'.throwing = d.throwing
  middleware : d'.middleware = d.middleware
  hooks : d'.hooks = d.hooks
  stubs : d'.stubs = d.stubs
  preventsStray : d'.preventsStray = d.preventsStray
  recorders : d'.recorders = d.recorders
  environment : d'.environment = d.environment
  mode : d'.mode = d.mode

namespace Draft

variable {d d' : Draft} {m : Method} {url : String} {o : Options} {f : Failure}

theorem unstages_cleared (d : Draft) : d.Unstages d.cleared :=
  ⟨rfl, rfl, rfl, rfl, rfl, rfl, rfl, rfl, rfl, rfl, rfl, rfl, rfl, rfl, rfl, rfl⟩

theorem cleared_cleared (d : Draft) : d.cleared.cleared = d.cleared := rfl

/-- Where nothing is staged, a request has the options that it was given over those of the draft,
and no others. -/
theorem Unstages.dispatch (h : d.Unstages d') (m : Method) (url : String) (o : Options) :
    d'.dispatch m url o = { d.dispatch m url o with options := d.options.merge o } := by
  have hstaged (o : Options) : d'.withStaged o = o := by
    simp only [withStaged, h.stagedBody, h.stagedParts]
    split <;> simp
  simp only [Draft.dispatch, hstaged, h.serial, h.baseUrl, h.urlParameters, h.options, h.retry,
    h.throwing, h.middleware, h.hooks, h.stubs, h.preventsStray, h.recorders, h.environment, h.mode]

/-! ## Data that cannot be encoded -/

/-- Sends a request with data of any kind, which was encoded as the draft says unless it could not
be. -/
def sendEncoded (d : Draft) (m : Method) (url : String) :
    Except Failure Options → Act Outcome × Draft
  | .ok o => d.send m url o
  | .error f => (pure (.error f), d.cleared)

theorem sendData_eq (d : Draft) (m : Method) (url : String) (data : Json) :
    d.sendData m url data = d.sendEncoded m url (d.dataOptions m data) := by
  unfold sendData sendEncoded
  cases d.dataOptions m data <;> rfl

theorem sendEncoded_snd (encoded : Except Failure Options) :
    (d.sendEncoded m url encoded).2 = d.cleared := by
  cases encoded with
  | ok o => rw [sendEncoded, send]
  | error f => rw [sendEncoded]

/-- Data that cannot be encoded is the failure of the request, without a single step. -/
theorem ask_of_unencodable {data : Json} (h : d.dataOptions m data = .error f) :
    (d.ask (.sendData m url data)).1 = .done (.error f) := by
  rw [ask, sendData_eq, h]
  rfl

end Draft

namespace Session

variable {s : Session} {c : Call} {calls : List Call} {name : String} {d : Draft}

/-! ## What comes after a request -/

/-- The call makes nothing of the draft of a name but to send it: it neither configures the draft
nor gives the name to another one. -/
def Call.Spares (name : String) : Call → Prop
  | .configure draft _ => draft ≠ name
  | .request draft => draft ≠ name
  | _ => True

theorem Call.Spares.ne_request (h : c.Spares name) : c ≠ .request name := by
  rintro rfl
  exact h rfl

theorem Call.Spares.onDraft_cleared (h : c.Spares name) (d : Draft) :
    c.onDraft name d.cleared = d.cleared := by
  cases c with
  | configure draft change => rw [onDraft, if_neg h, id]
  | send draft verb handle? =>
    simp only [onDraft]
    split
    · exact d.cleared_cleared
    · rfl
  | _ => rfl

/-- What was staged is gone after a request, and stays so. -/
theorem draft?_after_send (hdraft : s.draft? name = some d) (hcalls : ∀ c ∈ calls, c.Spares name)
    (verb : Draft.Verb) (handle? : Option String) :
    (s.after (.send name verb handle? :: calls)).draft? name = some d.cleared := by
  have hkept : calls.foldl (fun d c => c.onDraft name d) d.cleared = d.cleared :=
    List.foldlRecOn (motive := (· = d.cleared)) calls _ rfl fun d' hd' c hmem => by
      rw [hd', (hcalls c hmem).onDraft_cleared]
  have hrequest : .request name ∉ (.send name verb handle? :: calls : List Call) := by
    rw [List.mem_cons, not_or]
    exact ⟨nofun, fun hmem => (hcalls _ hmem).ne_request rfl⟩
  rw [after, draft?_operateAll hrequest hdraft, List.foldl_cons, Call.onDraft, if_pos rfl, hkept]

/-- A request that is awaited at once is run in the world as it is. -/
theorem operate_send_run (hdraft : s.draft? name = some d) (verb : Draft.Verb) :
    s.operate (.send name verb none) = (some (s.world.run (d.ask verb).1).1,
      { s.setDraft name d.cleared with world := (s.world.run (d.ask verb).1).2 }) := by
  simp only [operate, hdraft, ask_snd]
  rfl

/-- A request that cannot be made leaves the world as it is. -/
theorem world_operate_done (hdraft : s.draft? name = some d) {verb : Draft.Verb} {out : Outcome}
    (hverb : (d.ask verb).1 = .done out) (handle? : Option String) :
    (s.operate (.send name verb handle?)).2.world = s.world := by
  simp only [operate, hdraft, hverb]
  split <;> rfl

/-- Whatever a request comes to, and whether it is awaited or not, it leaves the draft as it was but
for what was staged, of which nothing is left. Each request after it is that of the draft with
nothing staged, until the draft is configured anew: it has the options that it is given over those
of the draft, is run in the world as it is then, or is kept as a handle. Where the data of a request
cannot be encoded, the request is that failure and takes no step. -/
theorem send_unstages (hdraft : s.draft? name = some d) :
    ∃ d₀, d.Unstages d₀ ∧
      (∀ verb handle? calls s', (∀ c ∈ calls, c.Spares name) →
        s' = s.after (.send name verb handle? :: calls) →
        s'.draft? name = some d₀ ∧ ∀ verb',
          s'.operate (.send name verb' none) = (some (s'.world.run (d₀.ask verb').1).1,
            { s'.setDraft name d₀ with world := (s'.world.run (d₀.ask verb').1).2 }) ∧
          (d.mode = .async → ∀ handle, s'.operate (.send name verb' (some handle)) =
            (none, (s'.setDraft name d₀).setHandle handle (d₀.ask verb').1))) ∧
      (∀ w verb verbs, d.askAll w (verb :: verbs) =
        ((w.run (d.ask verb).1).1 :: (d₀.askAll (w.run (d.ask verb).1).2 verbs).1,
          (d₀.askAll (w.run (d.ask verb).1).2 verbs).2)) ∧
      (∀ m url o, d₀.dispatch m url o = { d.dispatch m url o with options := d.options.merge o }) ∧
      (∀ m url (encoded : Except Failure Options), (d.sendEncoded m url encoded).2 = d₀ ∧
        ∀ f, encoded = .error f → (d.sendEncoded m url encoded).1 = .done (.error f)) ∧
      ∀ m url data f, d.dataOptions m data = .error f →
        (d.ask (.sendData m url data)).1 = .done (.error f) ∧
        ∀ handle?, (s.operate (.send name (.sendData m url data) handle?)).2.world = s.world := by
  refine ⟨d.cleared, d.unstages_cleared, ?_, fun w verb verbs => ?_,
    fun m url o => d.unstages_cleared.dispatch m url o, ?_, ?_⟩
  · rintro verb handle? calls s' hcalls rfl
    have hafter := draft?_after_send hdraft hcalls verb handle?
    refine ⟨hafter, fun verb' => ⟨operate_send_run hafter verb', fun hasync handle => ?_⟩⟩
    exact operate_handle hafter hasync verb' handle
  · rw [Draft.askAll, ask_snd]
  · rintro m url encoded
    refine ⟨Draft.sendEncoded_snd encoded, ?_⟩
    rintro f rfl
    rfl
  · intro m url data f hf
    have hask : (d.ask (.sendData m url data)).1 = .done (.error f) := Draft.ask_of_unencodable hf
    exact ⟨hask, world_operate_done hdraft hask⟩

/-- A draft with a staged body, and with a staged part, which is what it sends. -/
def packed : Session :=
  (new idle (.initial .default true .unreachable)).after
    [.request "draft", .configure "draft" fun d =>
    (d.withBody [0x61] "text/plain").attach (.ofText "note" "text")]

theorem send_unstages_packed :
    ∃ d, packed.draft? "draft" = some d ∧ d.stagedBody ≠ none ∧ d.stagedParts ≠ [] ∧
    (∃ f, d.dataOptions .post (.array [.bool true]) = .error f ∧
      (d.ask (.sendData .post "http://a.test/" (.array [.bool true]))).1 = .done (.error f)) ∧
    ∃ d₀, d.Unstages d₀ ∧
      (packed.after [.send "draft" (.sendData .post "http://a.test/" (.array [.bool true])) none,
      .send "draft" (.send .post "http://a.test/" .empty) none]).draft? "draft" = some d₀ := by
  have hdraft : packed.draft? "draft" = some ((idle.request.1.withBody [0x61] "text/plain").attach
    (.ofText "note" "text")) := rfl
  obtain ⟨d₀, hd₀, hafter, -, -, -, hdata⟩ := send_unstages hdraft
  refine ⟨_, hdraft, by simp [Draft.withBody, Draft.attach, Draft.contentType, Draft.withHeader,
    Draft.asMultipart], by simp [Draft.attach, Draft.asMultipart],
    ⟨_, rfl, (hdata _ _ _ _ rfl).1⟩, d₀, hd₀, ?_⟩
  refine (hafter _ none [.send "draft" (.send .post "http://a.test/" .empty) none] _ ?_ rfl).1
  simp [Call.Spares]

end Session

end Courier
