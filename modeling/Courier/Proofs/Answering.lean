import Courier.Client
import Courier.Proofs.Announcing
/-
How a request that reaches the faking stage is answered: by the stub of the
first matcher that accepts it, else by a refusal if stray requests are
prevented, else by the transport (`Dispatch.Answered`). Nothing else is done
(`Dispatch.faking_runs`), so the matchers behind the first that accepts, and
the queues behind those, have no part in it.

A dispatch that prevents stray requests is the same act with every transport
(`Dispatch.run_withTransport`), and a refusal is the end of its dispatch.
-/
namespace Courier

variable {p p' : Progress} {t : Trace} {q : Request}

/-! ## Asking matchers -/

namespace Matcher

/-- The matchers that are asked about a request: all up to the first that accepts it. -/
def asked (q : Request) : List Matcher → List Matcher
  | [] => []
  | m :: matchers => m :: if m.accepts q then [] else asked q matchers

/-- What is told of asking a matcher about a request. -/
def telling (q : Request) (m : Matcher) : Trace :=
  match m.label? with
  | some label => [⟨.note (.matched label (m.accepts q)), ()⟩]
  | none => []

/-- What is told of asking one matcher after another. -/
def asking (q : Request) (matchers : List Matcher) : Trace := matchers.flatMap (telling q)

theorem mem_asking {matchers : List Matcher} {s : Step} (hs : s ∈ asking q matchers) :
    ∃ label hit, s.effect = .note (.matched label hit) := by
  obtain ⟨m, -, hs⟩ := List.mem_flatMap.mp hs
  unfold telling at hs
  split at hs
  · obtain rfl := List.mem_singleton.mp hs
    exact ⟨_, _, rfl⟩
  · simp at hs

/-- None of the matchers accepts the request. -/
def Refuse (q : Request) (matchers : List Matcher) : Prop := ∀ m ∈ matchers, m.accepts q = false

theorem refuse_cons {m : Matcher} {matchers : List Matcher} :
    Refuse q (m :: matchers) ↔ m.accepts q = false ∧ Refuse q matchers := List.forall_mem_cons

theorem asked_of_refuse {matchers : List Matcher} (h : Refuse q matchers) :
    asked q matchers = matchers := by
  induction matchers with
  | nil => rfl
  | cons m matchers ih =>
    obtain ⟨hm, hrest⟩ := refuse_cons.mp h
    simp [asked, hm, ih hrest]

theorem asked_of_accepts {m : Matcher} {skipped rest : List Matcher} (hskipped : Refuse q skipped)
    (hm : m.accepts q = true) : asked q (skipped ++ m :: rest) = skipped ++ [m] := by
  induction skipped with
  | nil => simp [asked, hm]
  | cons m' skipped ih =>
    obtain ⟨hm', hrest⟩ := refuse_cons.mp hskipped
    simp [asked, hm', ih hrest]

/-- The first matcher that accepts a request stands behind others that refuse it. -/
theorem find?_eq_some {m : Matcher} {matchers : List Matcher} :
    matchers.find? (·.accepts q) = some m ↔
      m.accepts q = true ∧ ∃ skipped rest, matchers = skipped ++ m :: rest ∧ Refuse q skipped := by
  simp [List.find?_eq_some_iff_append, Refuse]

theorem find?_eq_none {matchers : List Matcher} :
    matchers.find? (·.accepts q) = none ↔ Refuse q matchers := by
  simp [Refuse]

end Matcher

theorem findStub_runs {matchers : List Matcher} {stub? : Option Stub} :
    (findStub q matchers).Runs p t stub? p' ↔ t = Matcher.asking q (Matcher.asked q matchers) ∧
      stub? = (matchers.find? (·.accepts q)).map (·.stub q) ∧ p' = p := by
  induction matchers generalizing t with
  | nil => exact Run.runs_pure
  | cons m matchers ih =>
    rw [findStub, Matcher.asked, Matcher.asking, List.flatMap_cons, ← Matcher.asking,
      Matcher.telling, List.find?_cons]
    cases m.label? with
    | none =>
      cases m.accepts q with
      | true => simp [Matcher.asking]
      | false => simp [ih]
    | some label =>
      cases m.accepts q with
      | true => simp [Matcher.asking, and_assoc, and_comm, and_left_comm]
      | false => simp [ih, and_comm, and_left_comm]

/-- Matchers behind one that accepts a request make no difference to it. -/
theorem findStub_append {m : Matcher} (hm : m.accepts q = true) (skipped rest : List Matcher) :
    findStub q (skipped ++ m :: rest) = findStub q (skipped ++ [m]) := by
  induction skipped with
  | nil => simp [findStub, hm]
  | cons m' skipped ih => simp only [List.cons_append, findStub, ih]

/-! ## Stubs -/

namespace Stub

/-- `stub.Resolves q t out`: the stub comes up with `out`, taking an answer from its queue if it has
one. -/
inductive Resolves (q : Request) : Stub → Trace → Outcome → Prop
  | canned (c : Canned) : Resolves q (.canned c) [] (c.resolve q)
  | taken (number : Nat) (c : Canned) :
      Resolves q (.sequence number) [⟨.takeCanned number, some c⟩] (c.resolve q)
  | exhausted (number : Nat) :
      Resolves q (.sequence number) [⟨.takeCanned number, none⟩] (.error .sequenceExhausted)

theorem resolve_runs {stub : Stub} {out : Outcome} :
    (stub.resolve q).Runs p t out p' ↔ stub.Resolves q t out ∧ p' = p := by
  cases stub with
  | canned c =>
    constructor
    · intro h
      obtain ⟨rfl, rfl, rfl⟩ := Run.runs_pure.mp h
      exact ⟨.canned c, rfl⟩
    · intro h
      obtain ⟨h, rfl⟩ := h
      cases h
      exact Run.runs_pure.mpr ⟨rfl, rfl, rfl⟩
  | sequence number =>
    rw [resolve, Run.runs_bind]
    constructor
    · intro h
      obtain ⟨t₁, canned?, p₁, t₂, rfl, h₁, h₂⟩ := h
      obtain ⟨rfl, rfl⟩ := Run.runs_effect.mp h₁
      cases canned? with
      | none =>
        obtain ⟨rfl, rfl, rfl⟩ := Run.runs_pure.mp h₂
        exact ⟨.exhausted number, rfl⟩
      | some c =>
        obtain ⟨rfl, rfl, rfl⟩ := Run.runs_pure.mp h₂
        exact ⟨.taken number c, rfl⟩
    · intro h
      obtain ⟨h, rfl⟩ := h
      cases h with
      | taken _ c =>
        exact ⟨_, some c, p', [], rfl, Run.runs_effect.mpr ⟨rfl, rfl⟩,
          Run.runs_pure.mpr ⟨rfl, rfl, rfl⟩⟩
      | exhausted =>
        exact ⟨_, none, p', [], rfl, Run.runs_effect.mpr ⟨rfl, rfl⟩,
          Run.runs_pure.mpr ⟨rfl, rfl, rfl⟩⟩

end Stub

/-- The statistics of a faked response. -/
def fakedStats (q : Request) (r : Response) : TransferStats := ⟨q.method, q.url, some r.status, 0⟩

/-- What the listener is told of a faked response. -/
def reporting (q : Request) (r : Response) : Trace :=
  match q.options.onStats with
  | some listener => [⟨.note (.transferred listener (fakedStats q r)), ()⟩]
  | none => []

/-- `Delivers q r t out`: a faked response goes to the sink of its request, if it has one, and is
told. -/
inductive Delivers (q : Request) (r : Response) : Trace → Outcome → Prop
  | unsunk :
      q.options.sink = none → Delivers q r (reporting q r) (.ok (r.attachStats (fakedStats q r)))
  | sunk {sink} : q.options.sink = some sink →
      Delivers q r (⟨.writeSink sink r.body, .ok ()⟩ :: reporting q r)
        (.ok (r.attachStats (fakedStats q r)))
  | failed {sink message} : q.options.sink = some sink →
      Delivers q r [⟨.writeSink sink r.body, .error message⟩] (.error (.sink message))

theorem reporting_runs {r : Response} {out : Outcome} :
    Run.Runs (do
      if let some listener := q.options.onStats then
        Run.note (.transferred listener (fakedStats q r))
      pure (.ok (r.attachStats (fakedStats q r))) : Run Outcome) p t out p' ↔
      t = reporting q r ∧ out = .ok (r.attachStats (fakedStats q r)) ∧ p' = p := by
  unfold reporting
  cases q.options.onStats <;> simp [and_assoc, and_comm, and_left_comm]

theorem deliverFake_runs {r : Response} {out : Outcome} :
    (deliverFake q r).Runs p t out p' ↔ Delivers q r t out ∧ p' = p := by
  unfold deliverFake
  cases hsink : q.options.sink with
  | none =>
    refine Iff.trans reporting_runs ⟨fun h => ?_, fun h => ?_⟩
    · obtain ⟨rfl, rfl, rfl⟩ := h
      exact ⟨.unsunk hsink, rfl⟩
    · obtain ⟨h, rfl⟩ := h
      cases h with
      | unsunk => exact ⟨rfl, rfl, rfl⟩
      | sunk h => simp [hsink] at h
      | failed h => simp [hsink] at h
  | some sink =>
    rw [Run.runs_bind]
    constructor
    · intro h
      obtain ⟨t₁, written, p₁, t₂, rfl, h₁, h₂⟩ := h
      obtain ⟨rfl, rfl⟩ := Run.runs_effect.mp h₁
      cases written with
      | error message =>
        obtain ⟨rfl, rfl, rfl⟩ := Run.runs_pure.mp h₂
        exact ⟨.failed hsink, rfl⟩
      | ok u =>
        obtain ⟨rfl, rfl, rfl⟩ := reporting_runs.mp h₂
        exact ⟨.sunk hsink, rfl⟩
    · intro h
      obtain ⟨h, rfl⟩ := h
      cases h with
      | unsunk h => simp [hsink] at h
      | sunk h =>
        obtain rfl := Option.some.inj (hsink.symm.trans h)
        exact ⟨_, .ok (), p', _, rfl, Run.runs_effect.mpr ⟨rfl, rfl⟩,
          reporting_runs.mpr ⟨rfl, rfl, rfl⟩⟩
      | @failed _ message h =>
        obtain rfl := Option.some.inj (hsink.symm.trans h)
        exact ⟨_, .error message, p', [], rfl, Run.runs_effect.mpr ⟨rfl, rfl⟩,
          Run.runs_pure.mpr ⟨rfl, rfl, rfl⟩⟩

/-- `stub.Answers q t out`: the stub answers the request; a response is delivered. -/
inductive Stub.Answers (q : Request) (stub : Stub) : Trace → Outcome → Prop
  | response {t t' r out} :
      stub.Resolves q t (.ok r) → Delivers q r t' out → Answers q stub (t ++ t') out
  | failure {t f} : stub.Resolves q t (.error f) → Answers q stub t (.error f)

/-- The effects of a stub: it takes from its own queue, if it has one, delivers and reports. -/
inductive Stub.Performs (stub : Stub) : Effect → Prop
  | take {number} : stub = .sequence number → Performs stub (.takeCanned number)
  | write (sink : Sink) (bytes : Bytes) : Performs stub (.writeSink sink bytes)
  | report (listener : String) (stats : TransferStats) :
      Performs stub (.note (.transferred listener stats))

theorem Delivers.performs {r : Response} {out : Outcome} (h : Delivers q r t out) (stub : Stub) :
    ∀ s ∈ t, stub.Performs s.effect := by
  have hreporting : ∀ s ∈ reporting q r, stub.Performs s.effect := by
    unfold reporting
    split
    · exact List.forall_mem_singleton.mpr (.report _ _)
    · simp
  cases h with
  | unsunk => exact hreporting
  | sunk => exact List.forall_mem_cons.mpr ⟨.write _ _, hreporting⟩
  | failed => exact List.forall_mem_singleton.mpr (.write _ _)

theorem Stub.Answers.performs {stub : Stub} {out : Outcome} (h : stub.Answers q t out) :
    ∀ s ∈ t, stub.Performs s.effect := by
  have hresolves {t : Trace} {out : Outcome} (h : stub.Resolves q t out) : ∀ s ∈ t,
      stub.Performs s.effect := by
    cases h with
    | canned => simp
    | taken number => exact List.forall_mem_singleton.mpr (.take rfl)
    | exhausted number => exact List.forall_mem_singleton.mpr (.take rfl)
  cases h with
  | response h₁ h₂ => exact List.forall_mem_append.mpr ⟨hresolves h₁, h₂.performs stub⟩
  | failure h => exact hresolves h

/-! ## The faking stage -/

namespace Dispatch

variable {d : Dispatch} {out : Outcome}

/-- By what a request is answered. -/
inductive Answerer
  | stub (m : Matcher)
  | refusal
  | transport

/-- `d.Answered q by t out`: how the faking stage of a dispatch answers a request that reaches
it. -/
inductive Answered (d : Dispatch) (q : Request) : Answerer → Trace → Outcome → Prop
  | stub {skipped rest : List Matcher} {m : Matcher} {t : Trace} {out : Outcome} :
      d.stubs = skipped ++ m :: rest → Matcher.Refuse q skipped → m.accepts q = true →
      (m.stub q).Answers q t out → Answered d q (.stub m)
        (Matcher.asking q (skipped ++ [m]) ++ t) out
  | refusal : Matcher.Refuse q d.stubs → d.preventsStray = true →
      Answered d q .refusal (Matcher.asking q d.stubs) (.error (.strayRequest q.method q.url.text))
  | transport {t : Trace} {out : Outcome} : Matcher.Refuse q d.stubs → d.preventsStray = false →
      (d.environment.transport q).Runs t out →
      Answered d q .transport (Matcher.asking q d.stubs ++ t) out

/-- The faking stage of a dispatch on its transport. -/
def faking (d : Dispatch) : Service :=
  fakingStage d.stubs d.preventsStray (.ofTransport d.environment.transport)

/-- The stub of a matcher answers. -/
theorem answering_runs {stub : Stub} : Run.Runs (do
    match ← stub.resolve q with
    | .ok r => deliverFake q r
    | .error f => pure (.error f)) p t out p' ↔ stub.Answers q t out ∧ p' = p := by
  rw [Run.runs_bind]
  constructor
  · intro h
    obtain ⟨t₁, resolved, p₁, t₂, rfl, h₁, h₂⟩ := h
    obtain ⟨hresolves, rfl⟩ := Stub.resolve_runs.mp h₁
    cases resolved with
    | ok r =>
      obtain ⟨hdelivers, rfl⟩ := deliverFake_runs.mp h₂
      exact ⟨.response hresolves hdelivers, rfl⟩
    | error f =>
      obtain ⟨rfl, rfl, rfl⟩ := Run.runs_pure.mp h₂
      exact ⟨by simpa using Stub.Answers.failure hresolves, rfl⟩
  · intro h
    obtain ⟨h, rfl⟩ := h
    cases h with
    | response hresolves hdelivers =>
      exact ⟨_, _, p', _, rfl, Stub.resolve_runs.mpr ⟨hresolves, rfl⟩,
        deliverFake_runs.mpr ⟨hdelivers, rfl⟩⟩
    | failure hresolves =>
      exact ⟨_, _, p', [], by simp, Stub.resolve_runs.mpr ⟨hresolves, rfl⟩,
        Run.runs_pure.mpr ⟨rfl, rfl, rfl⟩⟩

/-- The faking stage answers each request in exactly one of these ways. -/
theorem faking_runs :
    (d.faking.call q).Runs p t out p' ↔ (∃ by', d.Answered q by' t out) ∧ p' = p := by
  change (findStub q d.stubs >>= _).Runs p t out p' ↔ _
  rw [Run.runs_bind]
  constructor
  · intro h
    obtain ⟨t₁, stub?, p₁, t₂, rfl, h₁, h₂⟩ := h
    obtain ⟨rfl, rfl, rfl⟩ := findStub_runs.mp h₁
    cases hfind : d.stubs.find? (·.accepts q) with
    | some m =>
      rw [hfind] at h₂
      obtain ⟨hm, skipped, rest, hstubs, hskipped⟩ := Matcher.find?_eq_some.mp hfind
      obtain ⟨hanswers, rfl⟩ := answering_runs.mp h₂
      rw [hstubs, Matcher.asked_of_accepts hskipped hm]
      exact ⟨⟨_, .stub hstubs hskipped hm hanswers⟩, rfl⟩
    | none =>
      rw [hfind] at h₂
      have hrefuse := Matcher.find?_eq_none.mp hfind
      rw [Matcher.asked_of_refuse hrefuse]
      cases hprevents : d.preventsStray with
      | true =>
        simp only [hprevents, Option.map_none, if_true] at h₂
        obtain ⟨rfl, rfl, rfl⟩ := Run.runs_pure.mp h₂
        exact ⟨⟨.refusal, by simpa using Answered.refusal hrefuse hprevents⟩, rfl⟩
      | false =>
        simp only [hprevents, Option.map_none, Bool.false_eq_true, if_false] at h₂
        obtain ⟨hsent, rfl⟩ := Run.runs_act.mp h₂
        exact ⟨⟨.transport, .transport hrefuse hprevents hsent⟩, rfl⟩
  · intro h
    obtain ⟨⟨_, h⟩, rfl⟩ := h
    cases h with
    | @stub skipped rest m t out hstubs hskipped hm hanswers =>
      have hfind := Matcher.find?_eq_some.mpr ⟨hm, skipped, rest, hstubs, hskipped⟩
      refine ⟨_, _, p', t, rfl, findStub_runs.mpr ⟨?_, rfl, rfl⟩, ?_⟩
      · rw [hstubs, Matcher.asked_of_accepts hskipped hm]
      · rw [hfind]
        exact answering_runs.mpr ⟨hanswers, rfl⟩
    | refusal hrefuse hprevents =>
      refine ⟨_, _, p', [], (List.append_nil _).symm, findStub_runs.mpr ⟨?_, rfl, rfl⟩, ?_⟩
      · rw [Matcher.asked_of_refuse hrefuse]
      · simp [Matcher.find?_eq_none.mpr hrefuse, hprevents]
    | @transport t out hrefuse hprevents hsent =>
      refine ⟨_, _, p', t, rfl, findStub_runs.mpr ⟨?_, rfl, rfl⟩, ?_⟩
      · rw [Matcher.asked_of_refuse hrefuse]
      · simp [Matcher.find?_eq_none.mpr hrefuse, hprevents, Service.ofTransport, hsent]

/-- The transport answers exactly what no matcher accepts, unless stray requests are prevented. -/
theorem Answered.transport_iff {by' : Answerer} (h : d.Answered q by' t out) :
    by' = .transport ↔ Matcher.Refuse q d.stubs ∧ d.preventsStray = false := by
  cases h with
  | @stub _ _ m _ _ hstubs _ hm _ =>
    have haccepted : ¬ Matcher.Refuse q d.stubs := by
      intro hrefuse
      have hm' := hrefuse m (by simp [hstubs])
      simp [hm] at hm'
    simp [haccepted]
  | refusal _ hprevents => simp [hprevents]
  | transport hrefuse hprevents _ => simp [hrefuse, hprevents]

/-- What is done to answer a request: matchers are asked, and then the one that answers does what it
does. -/
theorem Answered.performs {P : Effect → Prop} {by' : Answerer} (h : d.Answered q by' t out)
    (hmatched : ∀ label hit, P (.note (.matched label hit)))
    (hstub : ∀ m ∈ d.stubs, by' = .stub m → ∀ e, (m.stub q).Performs e → P e)
    (htransport : by' = .transport → d.environment.transport.Confined P) : ∀ s ∈ t, P s.effect := by
  have hasking (matchers : List Matcher) : ∀ s ∈ Matcher.asking q matchers, P s.effect := by
    intro s hs
    obtain ⟨label, hit, he⟩ := Matcher.mem_asking hs
    rw [he]
    exact hmatched label hit
  cases h with
  | stub hstubs _ _ hanswers =>
    refine List.forall_mem_append.mpr ⟨hasking _, fun s hs => ?_⟩
    exact hstub _ (by simp [hstubs]) rfl _ (hanswers.performs s hs)
  | refusal => exact hasking _
  | transport _ _ hruns => exact List.forall_mem_append.mpr ⟨hasking _, htransport rfl _ _ _ hruns⟩

/-- The matcher that answers is the first that accepts the request. -/
theorem Answered.find?_eq {by' : Answerer} {m : Matcher} (h : d.Answered q by' t out)
    (hfind : d.stubs.find? (·.accepts q) = some m) : by' = .stub m := by
  cases h with
  | stub hstubs hskipped hm' _ =>
    have hfind' := Matcher.find?_eq_some.mpr ⟨hm', _, _, hstubs, hskipped⟩
    rw [Option.some.inj (hfind.symm.trans hfind')]
  | refusal hrefuse => simp [Matcher.find?_eq_none.mpr hrefuse] at hfind
  | transport hrefuse => simp [Matcher.find?_eq_none.mpr hrefuse] at hfind

/-- Only the queue of the stub that answers is taken from. -/
theorem Answered.takes {by' : Answerer} {m : Matcher} (h : d.Answered q by' t out)
    (hfind : d.stubs.find? (·.accepts q) = some m) {number : Nat}
    (hnumber : m.stub q ≠ .sequence number) :
    ∀ s ∈ t, s.effect ≠ .takeCanned number := by
  obtain rfl := h.find?_eq hfind
  have hperforms : ∀ e, (m.stub q).Performs e → e ≠ .takeCanned number := by
    rintro e he rfl
    cases he with
    | take hsequence => exact hnumber hsequence
  refine h.performs (P := (· ≠ .takeCanned number)) (by simp) ?_ (by simp)
  intro m' _ hm' e he
  obtain rfl := Answerer.stub.inj hm'
  exact hperforms e he

/-! ## Stray requests -/

/-- The dispatch with another transport. -/
def withTransport (d : Dispatch) (transport : Transport) : Dispatch :=
  { d with environment := { d.environment with transport } }

/-- A faking stage that prevents stray requests has no use for the service inside. -/
theorem fakingStage_prevents (matchers : List Matcher) {inner inner' : Service}
    (h : inner.height = inner'.height) :
    fakingStage matchers true inner = fakingStage matchers true inner' := by
  simp [fakingStage, Service.above, h]

theorem service_withTransport (hprevents : d.preventsStray = true) (transport : Transport) :
    (d.withTransport transport).service = d.service := by
  have hfaking : fakingStage d.stubs d.preventsStray (.ofTransport transport) = d.faking := by
    unfold faking
    rw [hprevents]
    exact fakingStage_prevents d.stubs rfl
  have hsending : (d.withTransport transport).sending = d.sending :=
    congrArg (fun inner => sendingStage d.draft d.environment.announces d.hooks
      (recordingStage d.recorders inner)) hfaking
  rw [service_eq, service_eq, hsending]
  rfl

theorem attempt_withTransport (hprevents : d.preventsStray = true) (transport : Transport)
    (o : Options) :
    (d.withTransport transport).attempt o = d.attempt o := by
  unfold attempt
  rw [service_withTransport hprevents]
  rfl

theorem attempts_withTransport (hprevents : d.preventsStray = true)
    (transport : Transport) (mode : Mode) (left n : Nat) (o : Options) :
    (d.withTransport transport).attempts mode left n o = d.attempts mode left n o := by
  induction left generalizing n o with
  | zero =>
    unfold attempts
    rw [attempt_withTransport hprevents]
    rfl
  | succ left ih =>
    unfold attempts
    simp only [attempt_withTransport hprevents, ih]
    rfl

/-- Where stray requests are prevented, the transport has no part in a dispatch. -/
theorem run_withTransport (hprevents : d.preventsStray = true) (transport : Transport) :
    (d.withTransport transport).run = d.run := by
  rw [run_eq, run_eq]
  exact congrArg (·.run' Progress.start) (attempts_withTransport hprevents transport _ _ _ _)

/-- A refusal that gets through the middleware is the outcome of the last round. -/
theorem Course.refused {left : Nat} {o : Options} {rounds : List Round}
    (h : d.Course left o p rounds p') {i : Nat} {r : Round} (hr : rounds[i]? = some r) {m : Method}
    {url : String}
    (hout : r.outcome = .error (.strayRequest m url)) : i + 1 = rounds.length := by
  obtain ⟨-, -, -, hgo, -⟩ := course_iff.mp h
  have hlt : i < rounds.length := (List.getElem?_eq_some_iff.mp hr).1
  refine Nat.le_antisymm hlt (Nat.le_of_not_lt fun hmore => ?_)
  exact hgo i r hmore hr (.unrelated ⟨_, hout, by simp⟩)

theorem stubs_dispatch (c : Client) (registered added : List Matcher) (m : Method) (url : String)
    (o : Options) :
    ((added.foldl Draft.withStub (registered.foldl Client.stub c).request.1).dispatch m
      url o).stubs =
      c.stubs ++ registered ++ added := by
  have hadded (draft : Draft) : (added.foldl Draft.withStub draft).stubs =
      draft.stubs ++ added := by
    induction added generalizing draft with
    | nil => simp
    | cons matcher added ih => simp [ih, Draft.withStub]
  have hregistered (c : Client) : (registered.foldl Client.stub c).stubs =
      c.stubs ++ registered := by
    induction registered generalizing c with
    | nil => simp
    | cons matcher registered ih => simp [ih, Client.stub]
  change (added.foldl Draft.withStub (registered.foldl Client.stub c).request.1).stubs = _
  rw [hadded, ← hregistered]
  rfl

/-- A request that reaches the faking stage is answered by the first matcher that accepts it,
whatever comes behind that, and no queue but that of its stub is touched. The transport gets what no
matcher accepts, and nothing at all where stray requests are prevented: those are refused, which
ends the dispatch. -/
theorem run_prefers_stubs (d : Dispatch) :
    (∀ q p t out p', (d.faking.call q).Runs p t out p' ↔ (∃ by', d.Answered q by' t out) ∧ p' = p) ∧
    (∀ q by' t out, d.Answered q by' t out →
      (by' = .transport ↔ Matcher.Refuse q d.stubs ∧ d.preventsStray = false)) ∧
    (∀ q skipped m rest, d.stubs = skipped ++ m :: rest → Matcher.Refuse q skipped →
      m.accepts q = true →
      (∀ rest', (faking { d with stubs := skipped ++ m :: rest' }).call q = d.faking.call q) ∧
      ∀ number, m.stub q ≠ .sequence number →
        ∀ w p, (World.run w (d.faking.call q p)).2.sequence number = w.sequence number) ∧
    (d.preventsStray = true → ∀ transport, (d.withTransport transport).run = d.run) ∧
    (∀ t out, d.run.Runs t out → ∃ rounds r p',
      d.Course (d.retry.maxAttempts - 1) d.options Progress.start rounds p' ∧
      t = d.woven rounds (d.pauses d.mode 1 rounds) ∧ rounds.getLast? = some r ∧ out = d.verdict r ∧
      ∀ i r m url, rounds[i]? = some r → r.outcome = .error (.strayRequest m url) →
        i + 1 = rounds.length ∧ out = .error (.strayRequest m url)) ∧
    ∀ (c : Client) (registered added : List Matcher) (m : Method) (url : String) (o : Options),
      ((added.foldl Draft.withStub (registered.foldl Client.stub c).request.1).dispatch m
        url o).stubs =
        c.stubs ++ registered ++ added := by
  refine ⟨fun q p t out p' => faking_runs, fun q by' t out h => h.transport_iff, ?_,
    run_withTransport, ?_, stubs_dispatch⟩
  · intro q skipped m rest hstubs hskipped hm
    constructor
    · intro rest'
      have hfind : findStub q (skipped ++ m :: rest') = findStub q d.stubs := by
        rw [hstubs, findStub_append hm, ← findStub_append hm skipped rest]
      unfold faking fakingStage Service.above
      simp only [hfind]
    · intro number hnumber w p
      refine World.sequence_run w ?_
      intro t a hruns
      obtain ⟨out, p'⟩ := a
      obtain ⟨⟨_, hanswered⟩, -⟩ := faking_runs.mp hruns
      exact hanswered.takes (Matcher.find?_eq_some.mpr ⟨hm, skipped, rest, hstubs, hskipped⟩)
        hnumber
  · intro t out h
    obtain ⟨rounds, r, p', hcourse, rfl, hlast, rfl⟩ := run_runs.mp h
    refine ⟨rounds, r, p', hcourse, rfl, hlast, rfl, fun i r' m url hr' hout => ?_⟩
    have hi := hcourse.refused hr' hout
    refine ⟨hi, ?_⟩
    obtain rfl : r' = r := by
      rw [List.getLast?_eq_getElem?, ← hi] at hlast
      simpa [hr'] using hlast
    have hunrelated : r'.response? = none := Round.response?_eq_none.mpr ⟨_, hout, by simp⟩
    simp [verdict, hunrelated, hout]

/-- A dispatch that prevents stray requests, with a queue of answers for all of them and another
queue behind that one. -/
def guarded : Dispatch :=
  { unavailable (.count 2) with
    stubs :=
      [⟨some "first", fun _ => true, fun _ => .sequence 0⟩,
        ⟨none, fun _ => true, fun _ => .sequence 1⟩]
    preventsStray := true }

theorem run_prefers_stubs_guarded :
    (∀ transport, (guarded.withTransport transport).run = guarded.run) ∧
    ∀ q w p, (World.run w (guarded.faking.call q p)).2.sequence 1 = w.sequence 1 := by
  obtain ⟨-, -, hfirst, hstray, -⟩ := run_prefers_stubs guarded
  refine ⟨hstray rfl, fun q w p => ?_⟩
  exact (hfirst q [] _ _ rfl (List.forall_mem_nil _) rfl).2 1 (by simp) w p

end Dispatch

end Courier
