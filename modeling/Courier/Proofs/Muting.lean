import Courier.Proofs.Shadowing
import Courier.Script
import Courier.Wire.Transport
/-
Requests that are the same but for the listener of the statistics. A request
carries its options along, so everything that is handed a request could look
for the listener in them. What does not is deaf to it, and treats requests that
differ in their listeners alike.

What observers do is behind a veil (`Veil.observing`): events, statistics, the
calls of hooks, log records, recorded exchanges, and what is read for them.
None of it matters to a world (`covers_unobserved`). The bundled transport and
scripted ones are deaf behind the veil (`Wire.transport_deaf`,
`Script.transport_deaf`), and then the stage that fakes answers is, too
(`fakingStage_shadows`).
-/
namespace Courier

variable {mute : Bool}

/-! ## Listeners -/

/-- The options without a listener if listeners are muted, else as they are. -/
def Options.muted (mute : Bool) (o : Options) : Options :=
  if mute then { o with onStats := none } else o

namespace Request

/-- The request without a listener if listeners are muted, else as it is. -/
def muted (mute : Bool) (q : Request) : Request := { q with options := q.options.muted mute }

/-- The requests are the same, but for their listeners if those are muted. -/
def Like (mute : Bool) (q q' : Request) : Prop := q.muted mute = q'.muted mute

variable {q q' : Request}

theorem Like.method (h : q.Like mute q') : q.method = q'.method := (Request.mk.inj h).1

theorem Like.url (h : q.Like mute q') : q.url = q'.url := (Request.mk.inj h).2.1

theorem Like.headers (h : q.Like mute q') : q.headers = q'.headers := (Request.mk.inj h).2.2.1

theorem Like.body (h : q.Like mute q') : q.body = q'.body := (Request.mk.inj h).2.2.2.1

theorem Like.options (h : q.Like mute q') : q.options.muted mute = q'.options.muted mute :=
  (Request.mk.inj h).2.2.2.2

/-- A relation of every request to itself holds of requests that are alike, if it does where
listeners are muted: else there is no difference at all. -/
theorem Like.lift {P : Request → Request → Prop} (h : q.Like mute q') (hrefl : ∀ q, P q q)
    (hmuted : mute = true → ∀ q q', q.Like true q' → P q q') : P q q' := by
  cases mute with
  | false =>
    obtain rfl : q = q' := h
    exact hrefl q
  | true => exact hmuted rfl q q' h

/-- Requests that are the same but for their listeners differ in an option. -/
theorem Like.exists_listener (h : q.Like true q') :
    ∃ listener?, q' = { q with options := { q.options with onStats := listener? } } := by
  refine ⟨q'.options.onStats, ?_⟩
  obtain ⟨method, url, headers, body, o⟩ := q
  obtain ⟨method', url', headers', body', o'⟩ := q'
  obtain ⟨rfl, rfl, rfl, rfl, ho⟩ := Request.mk.inj h
  cases o
  cases o'
  simp_all [Options.muted]

end Request

theorem Options.sink_eq {o o' : Options} (h : o.muted mute = o'.muted mute) : o.sink = o'.sink := by
  have hsink (o : Options) : (o.muted mute).sink = o.sink := by
    unfold muted
    split <;> rfl
  rw [← hsink o, ← hsink o', h]

/-- Options that differ in their listeners make requests that differ in them, or fail to in the same
way. -/
theorem Request.build_like {o o' : Options} (h : o.muted mute = o'.muted mute)
    (boundary : String) (m : Method) (url : String) :
    (∃ f, Request.build boundary m url o = .error f ∧ Request.build boundary m url o' = .error f) ∨
      ∃ q q', Request.build boundary m url o = .ok q ∧ Request.build boundary m url o' = .ok q' ∧
        q.Like mute q' := by
  cases mute with
  | false =>
    obtain rfl : o = o' := h
    cases hbuild : Request.build boundary m url o with
    | error f => exact .inl ⟨f, rfl, rfl⟩
    | ok q => exact .inr ⟨q, q, rfl, rfl, rfl⟩
  | true =>
    -- Neither the URL nor the headers nor the body depend on the listener.
    have hmuted (o : Options) : Request.build boundary m url (o.muted true) =
        (Request.build boundary m url o).map (Request.muted true) := by
      have hheaders : headersOf (o.muted true) = headersOf o := rfl
      have hbody (headers : Headers) : encodeBody boundary (o.muted true) headers =
          encodeBody boundary o headers := rfl
      have hquery : (o.muted true).query = o.query := rfl
      unfold Request.build Request.buildWith
      rw [hheaders, hquery]
      simp only [hbody]
      cases (Url.parse url).mapError Failure.invalidUrl with
      | error f => rfl
      | ok url =>
        cases headersOf o with
        | error f => rfl
        | ok headers =>
          simp only [bind, Except.bind]
          cases encodeBody boundary o headers with
          | error f => rfl
          | ok encoded => rfl
    have hsame : (Request.build boundary m url o).map (Request.muted true) =
        (Request.build boundary m url o').map (Request.muted true) := by
      rw [← hmuted, ← hmuted, h]
    cases hbuild : Request.build boundary m url o with
    | error f =>
      cases hbuild' : Request.build boundary m url o' with
      | error f' =>
        rw [hbuild, hbuild'] at hsame
        obtain rfl : f = f' := Except.error.inj hsame
        exact .inl ⟨f, rfl, rfl⟩
      | ok q' => simp [hbuild, hbuild', Except.map] at hsame
    | ok q =>
      cases hbuild' : Request.build boundary m url o' with
      | error f' => simp [hbuild, hbuild', Except.map] at hsame
      | ok q' =>
        rw [hbuild, hbuild'] at hsame
        exact .inr ⟨q, q', rfl, rfl, Except.ok.inj hsame⟩

/-! ## What does not look for listeners -/

/-- The answer is the same, whoever listens. -/
def Canned.Deaf (c : Canned) : Prop := ∀ q q', q.Like true q' → c.resolve q = c.resolve q'

def Stub.Deaf : Stub → Prop
  | .canned c => c.Deaf
  | .sequence _ => True

def Matcher.Deaf (m : Matcher) : Prop :=
  ∀ q q', q.Like true q' → m.accepts q = m.accepts q' ∧ m.stub q = m.stub q' ∧ (m.stub q).Deaf

/-- The hook leaves requests the same, whoever listens. -/
def Hook.Deaf (hook : Hook) : Prop :=
  ∀ q q', q.Like true q' → (hook.left q).Like true (hook.left q')

/-- The replies of a step do not look for listeners. -/
def Step.Deaf : Step → Prop
  | ⟨.takeCanned _, some c⟩ => c.Deaf
  | _ => True

/-- All answers of the queue are deaf. -/
structure Sequence.Deaf (s : Sequence) : Prop where
  queue : ∀ c ∈ s.queue, c.Deaf
  fallback : ∀ c, s.fallback = some c → c.Deaf

theorem Sequence.Deaf.next {s : Sequence} (h : s.Deaf) :
    (∀ c, s.next.1 = some c → c.Deaf) ∧ s.next.2.Deaf := by
  unfold Sequence.next
  cases hqueue : s.queue with
  | nil => exact ⟨h.fallback, h⟩
  | cons c rest =>
    have hcons : ∀ c' ∈ c :: rest, c'.Deaf := hqueue ▸ h.queue
    refine ⟨fun c' hc' => ?_, fun c' hmem => hcons c' (List.mem_cons_of_mem c hmem), h.fallback⟩
    obtain rfl := Option.some.inj hc'
    exact hcons c List.mem_cons_self

/-- All answers that wait in queues are deaf. -/
def World.Deaf (w : World) : Prop := ∀ s ∈ w.sequences, s.Deaf

theorem World.Deaf.sequence {w : World} (h : w.Deaf) (number : Nat) : (w.sequence number).Deaf := by
  unfold World.sequence
  cases hnumber : w.sequences[number]? with
  | none => exact ⟨by simp [Sequence.empty], by simp [Sequence.empty]⟩
  | some s => exact h s (List.mem_of_getElem? hnumber)

/-- A world whose queues are deaf gives deaf answers, and its queues stay deaf. -/
theorem World.Deaf.answer {w : World} (h : w.Deaf) (e : Effect) :
    Step.Deaf ⟨e, (w.answer e).1⟩ ∧ (w.answer e).2.Deaf := by
  cases e with
  | takeCanned number =>
    obtain ⟨hcanned, hrest⟩ := (h.sequence number).next
    constructor
    · change Step.Deaf ⟨.takeCanned number, (w.sequence number).next.1⟩
      cases hnext : (w.sequence number).next.1 with
      | none => trivial
      | some c => exact hcanned c hnext
    · intro s hs
      obtain hs | rfl := List.mem_or_eq_of_mem_set hs
      · exact h s hs
      · exact hrest
  | record recorder q r? => cases recorder <;> exact ⟨trivial, h⟩
  | writeSink sink bytes =>
    cases sink with
    | buffer name => exact ⟨trivial, h⟩
    | file path =>
      refine ⟨trivial, ?_⟩
      simp only [World.answer, World.write]
      split <;> exact h
  | sleep ms mode =>
    refine ⟨trivial, ?_⟩
    simp only [World.answer]
    split <;> exact h
  | _ => exact ⟨trivial, h⟩

/-! ## Behind the veil -/

/-- What observers are told. -/
def Notice.isObserving : Notice → Bool
  | event _ => true
  | transferred _ _ => true
  | hooked _ _ => true
  | logged _ => true
  | _ => false

/-- The effect is one of observers, or is read for them. -/
def Effect.isObserving : Effect → Bool
  | .note n => n.isObserving
  | .record _ _ _ => true
  | .truncation => true
  | _ => false

/-- Nothing is seen of observers. -/
def Veil.observing (mute : Bool) : Veil where
  aside e := e.isObserving = true
  like := Request.Like mute
  fair s := mute = true → s.Deaf

/-- What is seen of a notice: nothing if observers are told it, and of a request not who listens. -/
def Notice.unobserved? (mute : Bool) : Notice → Option Notice
  | .transported q => some (.transported (q.muted mute))
  | n => if n.isObserving then none else some n

/-- What is seen of a step. -/
def Step.unobserved? (mute : Bool) : Step → Option Step
  | ⟨.note n, _⟩ => (n.unobserved? mute).map fun n => ⟨.note n, ()⟩
  | ⟨.remember draft q, _⟩ => some ⟨.remember draft (q.muted mute), ()⟩
  | s => if s.effect.isObserving then none else some s

/-- The steps without those of observers. -/
def Trace.unobserved (mute : Bool) (t : Trace) : Trace := t.filterMap (Step.unobserved? mute)

/-- The world as if there were no observers. -/
def World.unobserved (mute : Bool) (w : World) : World :=
  { w with
    notices := w.notices.filterMap (Notice.unobserved? mute)
    sent := w.sent.map fun entry => (entry.1, entry.2.muted mute)
    history := []
    external := [] }

theorem World.delays_unobserved (mute : Bool) (w : World) :
    (w.unobserved mute).delays = w.delays := rfl

theorem Notice.unobserved?_of_isObserving {n : Notice} (h : n.isObserving = true) :
    n.unobserved? mute = none := by
  cases n <;> simp_all [unobserved?, isObserving]

theorem sees_unobserved (mute : Bool) : Act.Sees (.observing mute) (Step.unobserved? mute) where
  aside := by
    rintro ⟨e, reply⟩ he
    cases e with
    | note n =>
      have hn : n.unobserved? mute = none := Notice.unobserved?_of_isObserving he
      simp [Step.unobserved?, hn]
    | record recorder q r? => rfl
    | truncation => rfl
    | _ => cases he
  remember := fun draft q q' hq => congrArg (fun q => some (Step.mk (.remember draft q) ())) hq
  transported := fun q q' hq => congrArg (fun q => some (Step.mk (.note (.transported q)) ())) hq

/-- Nothing that observers do matters to a world. -/
theorem covers_unobserved (mute : Bool) : Act.Covers (.observing mute) fun w w' =>
    (mute = true → w.Deaf) ∧ w.Alike (Notice.unobserved? mute) (Request.muted mute) false w' := by
  refine Act.covers_alike (fun w e hw hmute => ((hw hmute).answer e).2)
    (fun w e hw hmute => ((hw hmute).answer e).1)
    (fun w e he => ?_) (fun _ _ hq => hq) fun _ _ hq =>
      congrArg (fun q => some (Notice.transported q)) hq
  cases e with
  | note n =>
    have hn : n.unobserved? mute = none := Notice.unobserved?_of_isObserving he
    refine ⟨rfl, ?_, rfl, by simp⟩
    rw [World.notices_answer]
    simp [Effect.told, hn]
  | record recorder q r? => cases recorder <;> exact ⟨rfl, rfl, rfl, by simp⟩
  | truncation => exact .refl w
  | _ => cases he

theorem unobserved_eq_of_alike {w w' : World}
    (h : w.Alike (Notice.unobserved? mute) (Request.muted mute) false w') :
    w.unobserved mute = w'.unobserved mute :=
  World.eq_of_core h.core h.notices h.sent fun recorder => by cases recorder <;> rfl

variable {kept : Progress → Progress → Prop}

/-- The transport treats requests alike that differ in their listeners. -/
def Transport.Deaf (transport : Transport) : Prop :=
  ∀ q q', q.Like true q' → (transport q).Shadows (.observing true) Eq (transport q')

theorem Transport.shadows {transport : Transport} (h : mute = true → transport.Deaf)
    {q q' : Request} (hq : q.Like mute q') :
    (transport q).Shadows (.observing mute) Eq (transport q') := by
  cases mute with
  | false =>
    obtain rfl : q = q' := hq
    exact .refl (fun _ => rfl) _
  | true => exact h rfl q q' hq

/-! ## Transports -/

theorem Wire.report_aside (q : Request) (stats : TransferStats) :
    (Wire.report q stats).Aside (.observing mute) fun _ => True := by
  unfold Wire.report
  cases q.options.onStats with
  | none => exact .done trivial
  | some listener => exact .perform rfl fun _ => .done trivial

theorem Wire.report_shadows (q q' : Request) (stats : TransferStats) (out : Outcome) :
    Act.Shadows (.observing mute) Eq ((Wire.report q stats).bind fun _ => .done out)
      ((Wire.report q' stats).bind fun _ => .done out) := by
  have haside (q : Request) : ((Wire.report q stats).bind fun _ => .done out).Aside
      (.observing mute) (· = out) :=
    (Wire.report_aside q stats).bind fun _ _ => .done rfl
  exact (haside q).shadows (haside q') fun _ _ h h' => h.trans h'.symm

/-- The bundled transport tells the listener the statistics, and makes nothing else of it. -/
theorem Wire.transport_deaf (c : Config) : (Wire.transport c).Deaf := by
  intro q q' hq
  have hrefusal : Wire.refusal? q'.options = Wire.refusal? q.options := by
    obtain ⟨listener?, rfl⟩ := hq.exists_listener
    rfl
  have hexchange : Wire.exchange Url.join c q' = Wire.exchange Url.join c q := by
    obtain ⟨listener?, rfl⟩ := hq.exists_listener
    rfl
  unfold Wire.transport
  rw [hrefusal, hexchange]
  cases Wire.refusal? q.options with
  | some flaw => exact .done rfl
  | none =>
    refine Act.Shadows.bind (.refl (fun _ => rfl) (Wire.exchange Url.join c q)) ?_
    rintro result _ rfl
    cases result with
    | error f =>
      have hstats : (⟨q'.method, q'.url, none, 0⟩ : TransferStats) =
          ⟨q.method, q.url, none, 0⟩ := by
        rw [hq.method, hq.url]
      simp only [hstats]
      exact Wire.report_shadows q q' _ _
    | ok arrival =>
      simp only [Wire.deliver, hq.method, Options.sink_eq hq.options]
      cases q'.options.sink with
      | none => exact Wire.report_shadows q q' _ _
      | some sink =>
        refine .perform fun written _ => ?_
        cases written with
        | error message => exact .done rfl
        | ok _ => exact Wire.report_shadows q q' _ _

/-- A scripted transport answers by criteria that know nothing of listeners. -/
theorem Script.transport_deaf (s : Script) : s.transport.Deaf := by
  intro q q' hq
  obtain ⟨listener?, rfl⟩ := hq.exists_listener
  exact .transported hq (.done rfl)

/-! ## Faking -/

theorem findStub_shadows {matchers : List Matcher} (h : mute = true → ∀ m ∈ matchers, m.Deaf)
    {q q' : Request} (hq : q.Like mute q') : Run.Shadows (.observing mute) kept
      (fun stub? stub?' => stub? = stub?' ∧ ∀ stub, stub? = some stub → mute = true → stub.Deaf)
      (findStub q matchers) (findStub q' matchers) := by
  induction matchers with
  | nil => exact .pure ⟨rfl, by simp⟩
  | cons m matchers ih =>
    have haccepts : m.accepts q = m.accepts q' :=
      hq.lift (P := fun q q' => m.accepts q = m.accepts q') (fun _ => rfl) fun hmute q q' hq =>
        (h hmute m List.mem_cons_self q q' hq).1
    have hstub : m.stub q = m.stub q' :=
      hq.lift (P := fun q q' => m.stub q = m.stub q') (fun _ => rfl) fun hmute q q' hq =>
        (h hmute m List.mem_cons_self q q' hq).2.1
    have hdeaf (hmute : mute = true) : (m.stub q).Deaf := (h hmute m List.mem_cons_self q q rfl).2.2
    have hrest : Run.Shadows (.observing mute) kept
        (fun stub? stub?' => stub? = stub?' ∧ ∀ stub, stub? = some stub → mute = true → stub.Deaf)
        (if m.accepts q then pure (some (m.stub q)) else findStub q matchers)
        (if m.accepts q then pure (some (m.stub q)) else findStub q' matchers) := by
      split
      · refine .pure ⟨rfl, fun stub heq => ?_⟩
        obtain rfl := Option.some.inj heq
        exact hdeaf
      · exact ih fun hmute m' hmem => h hmute m' (List.mem_cons_of_mem m hmem)
    unfold findStub
    rw [← haccepts, ← hstub]
    cases m.label? with
    | none => exact hrest
    | some label => exact .bind (.note _) fun _ _ _ => hrest

/-- A deaf stub has the same answer for requests that are the same but for their listeners. -/
theorem resolve_shadows {stub : Stub} (h : mute = true → stub.Deaf) {q q' : Request}
    (hq : q.Like mute q') :
    Run.Shadows (.observing mute) kept Eq (stub.resolve q) (stub.resolve q') := by
  have hcanned {c : Canned} (h : mute = true → c.Deaf) : c.resolve q = c.resolve q' :=
    hq.lift (P := fun q q' => c.resolve q = c.resolve q') (fun _ => rfl) h
  cases stub with
  | canned c => exact .pure (hcanned h)
  | sequence number =>
    refine .bind (.effect (.takeCanned number)) ?_
    rintro canned? _ ⟨rfl, hfair⟩
    cases canned? with
    | none => exact .pure rfl
    | some c => exact .pure (hcanned hfair)

/-- A listener is one more step, which is aside. -/
theorem reporting_shadows (q q' : Request) (r : Response) (stats : TransferStats) :
    Run.Shadows (.observing mute) kept Eq (do
      if let some listener := q.options.onStats then
        Run.note (.transferred listener stats)
      pure (.ok (r.attachStats stats)) : Run Outcome) (do
      if let some listener := q'.options.onStats then
        Run.note (.transferred listener stats)
      pure (.ok (r.attachStats stats)) : Run Outcome) := by
  have hnote (listener : String) :
      Run.Aside (.observing mute) (Run.note (.transferred listener stats)) := .note rfl
  have hright : Run.Shadows (.observing mute) kept Eq
      (pure (.ok (r.attachStats stats)) : Run Outcome) (do
      if let some listener := q'.options.onStats then
        Run.note (.transferred listener stats)
      pure (.ok (r.attachStats stats)) : Run Outcome) := by
    cases q'.options.onStats with
    | none => exact .pure rfl
    | some listener => exact (hnote listener).right (.pure rfl)
  cases q.options.onStats with
  | none => exact hright
  | some listener => exact (hnote listener).left hright

/-- A faked response is delivered to the same sink. -/
theorem deliverFake_shadows {q q' : Request} (hq : q.Like mute q') (r : Response) :
    Run.Shadows (.observing mute) kept Eq (deliverFake q r) (deliverFake q' r) := by
  unfold deliverFake
  rw [← hq.method, ← hq.url, ← Options.sink_eq hq.options]
  cases q.options.sink with
  | none => exact reporting_shadows q q' r _
  | some sink =>
    refine .bind (.effect (.writeSink sink r.body)) ?_
    rintro written _ ⟨rfl, -⟩
    cases written with
    | error message => exact .pure rfl
    | ok _ => exact reporting_shadows q q' r _

theorem fakingStage_shadows {matchers : List Matcher} (h : mute = true → ∀ m ∈ matchers, m.Deaf)
    (preventsStray : Bool) {inner inner' : Request → Run Outcome} {q q' : Request}
    (hq : q.Like mute q')
    (hinner : Run.Shadows (.observing mute) kept Eq (inner q) (inner' q')) (height height' : Nat) :
    Run.Shadows (.observing mute) kept Eq
      ((fakingStage matchers preventsStray ⟨height, inner⟩).call q)
      ((fakingStage matchers preventsStray ⟨height', inner'⟩).call q') := by
  refine .bind (findStub_shadows h hq) ?_
  rintro stub? _ ⟨rfl, hdeaf⟩
  cases stub? with
  | none =>
    cases preventsStray with
    | true =>
      rw [hq.method, hq.url]
      exact .pure rfl
    | false => exact hinner
  | some stub =>
    refine .bind (resolve_shadows (hdeaf stub rfl) hq) ?_
    rintro outcome _ rfl
    cases outcome with
    | ok r => exact deliverFake_shadows hq r
    | error f => exact .pure rfl

end Courier
