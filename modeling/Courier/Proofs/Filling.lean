import Courier.Proofs.Attaching
import Courier.Proofs.Exchanges
import Courier.Proofs.Labels
import Courier.Proofs.Redacting
/-
What is in a buffer that a dispatch has as its sink. Whatever answers a request
of such a dispatch leaves the body of its response there, and nothing if there
is no response (`Service.Fills`): the stubs and the bundled transport do so
(`Dispatch.Answered.fills`), and stages take it over from the service inside if
the body that they give back is the last one that they got
(`Stage.Conveys.fills`). Middleware whose plans do that conveys
(`Middleware.stage_conveys`), and so do stages that log.

A buffer holds one body at a time. So after an attempt it has the body of the
response, or what was there before if there was none, and after the dispatch it
has the body of the response that the dispatch comes back with
(`Dispatch.run_fills`). A hook that takes the sink away, and middleware that
gives back another response than the last one, break this
(`Dispatch.not_run_fills`).
-/
namespace Courier

/-! ## What is written -/

/-- The bytes that a step puts in a buffer. -/
def Step.filled? (name : String) : Step → Option Bytes
  | ⟨.writeSink (.buffer other) bytes, .ok ()⟩ => if other = name then some bytes else none
  | _ => none

/-- The effect writes to a sink. -/
def Effect.isWrite : Effect → Bool
  | .writeSink _ _ => true
  | _ => false

theorem Step.filled?_of_not_isWrite {name : String} {s : Step} (h : s.effect.isWrite = false) :
    s.filled? name = none := by
  unfold filled?
  split
  · cases h
  · rfl

namespace Trace

variable {name : String}

/-- All that is put in a buffer. -/
def filled (name : String) (t : Trace) : List Bytes := t.filterMap (Step.filled? name)

@[simp] theorem filled_append (t t' : Trace) :
    filled name (t ++ t') = t.filled name ++ t'.filled name :=
  List.filterMap_append

theorem filled_eq_nil {t : Trace} (h : ∀ s ∈ t, s.effect.isWrite = false) : t.filled name = [] :=
  List.filterMap_eq_nil_iff.mpr fun s hs => Step.filled?_of_not_isWrite (h s hs)

/-- What a buffer holds after some steps, given what it held before. -/
def buffer (name : String) (before : Bytes) (t : Trace) : Bytes :=
  (t.filled name).getLast?.getD before

theorem buffer_append (before : Bytes) (t t' : Trace) :
    buffer name before (t ++ t') = buffer name (buffer name before t) t' := by
  unfold buffer
  rw [filled_append, List.getLast?_append, Option.getD_or]

end Trace

namespace World

theorem buffer_answer (w : World) (name : String) (e : Effect) :
    (w.answer e).2.buffer name = Trace.buffer name (w.buffer name) [⟨e, (w.answer e).1⟩] := by
  cases e with
  | writeSink sink bytes =>
    cases sink with
    | buffer other =>
      by_cases hname : other = name
      · subst hname
        simp [answer, write, buffer, SortedMap.get?_insert_self, Trace.buffer,
          Trace.filled, Step.filled?]
      · simp [answer, write, buffer, SortedMap.get?_insert_other _ (Ne.symm hname),
          Trace.buffer, Trace.filled, Step.filled?, hname]
    | file path =>
      simp only [answer, write]
      split <;> rfl
  | record recorder q r? => cases recorder <;> rfl
  | sleep ms mode =>
    simp only [answer]
    split <;> rfl
  | _ => rfl

/-- The steps of an act tell what a buffer holds after it. -/
theorem buffer_run (w : World) (name : String) {α : Type} (act : Act α) :
    (w.run act).2.buffer name = Trace.buffer name (w.buffer name) (w.steps act) := by
  induction act generalizing w with
  | done a => rfl
  | perform e next ih =>
    calc ((w.answer e).2.run (next (w.answer e).1)).2.buffer name
      _ = Trace.buffer name ((w.answer e).2.buffer name)
        ((w.answer e).2.steps (next (w.answer e).1)) := ih _ _
      _ = Trace.buffer name (w.buffer name)
          ([⟨e, (w.answer e).1⟩] ++ (w.answer e).2.steps (next (w.answer e).1)) := by
        rw [buffer_answer, Trace.buffer_append]

end World

/-! ## Bodies that are conveyed -/

/-- The body that an outcome comes with. -/
def bodyOf? (out : Outcome) : Option Bytes := (Dispatch.responseOf? out).map (·.body)

theorem bodyOf?_error {f : Failure} (h : ∀ e, f ≠ .http e) : bodyOf? (.error f) = none := by
  cases f with
  | http e => exact absurd rfl (h e)
  | _ => rfl

/-- The request has the buffer as its sink. -/
def Request.SinksTo (name : String) (q : Request) : Prop := q.options.sink = some (.buffer name)

/-- Whatever answers a request with the buffer as its sink leaves the body of the outcome there, as
the last thing that it puts there. If the outcome comes with no body, it puts nothing there. -/
def Service.Fills (name : String) (s : Service) : Prop :=
  ∀ q p t out p', q.SinksTo name → (s.call q).Runs p t out p' →
    (t.filled name).getLast? = bodyOf? out

/-- The stage writes to no sink of its own accord, leaves the buffer as the sink of the requests
with which it calls the service inside, and gives back the body of the last response that it gets,
or none if it gets none. -/
def Stage.Conveys (name : String) (stage : Stage) : Prop :=
  ∀ (inner : Service) q p t out p', q.SinksTo name →
    ((stage inner).call q).Runs p t out p' → ∃ calls,
    inner.Serves (·.isWrite = false) calls t ∧ (∀ c ∈ calls, c.request.SinksTo name) ∧
      (calls.filterMap fun c => bodyOf? c.outcome).getLast? = bodyOf? out

variable {name : String} {inner : Service} {p p' : Progress} {t : Trace} {q : Request}
  {out : Outcome}

theorem Service.Serves.filled {calls : List Service.Call}
    (h : inner.Serves (·.isWrite = false) calls t) (hcalls : ∀ c ∈ calls, c.request.SinksTo name)
    (hinner : inner.Fills name) :
    (t.filled name).getLast? = (calls.filterMap fun c => bodyOf? c.outcome).getLast? := by
  have heach : ∀ c ∈ calls, (c.trace.filled name).getLast? = bodyOf? c.outcome := by
    induction h with
    | nil => simp
    | own _ _ ih => exact ih hcalls
    | call hcall _ ih =>
      obtain ⟨hfirst, hrest⟩ := List.forall_mem_cons.mp hcalls
      exact List.forall_mem_cons.mpr ⟨hinner _ _ _ _ _ hfirst hcall, ih hrest⟩
  have hfilled : t.filled name = calls.flatMap fun c => c.trace.filled name :=
    h.filterMap_eq fun _ => Step.filled?_of_not_isWrite
  rw [hfilled, List.getLast?_flatMap, ← List.getLast?_filterMap, List.filterMap_congr heach]

/-- A stage that conveys fills the buffer if the service inside does. -/
theorem Stage.Conveys.fills {stage : Stage} (h : stage.Conveys name) (hinner : inner.Fills name) :
    (stage inner).Fills name := by
  intro q p t out p' hq hruns
  obtain ⟨calls, hserves, hcalls, hbody⟩ := h inner q p t out p' hq hruns
  rw [hserves.filled hcalls hinner, hbody]

theorem compose_fills {stages : List Stage} (h : ∀ stage ∈ stages, stage.Conveys name)
    (hinner : inner.Fills name) :
    (compose stages inner).Fills name := by
  induction stages with
  | nil => exact hinner
  | cons stage stages ih =>
    exact (h stage List.mem_cons_self).fills
      (ih fun stage' hmem => h stage' (List.mem_cons_of_mem stage hmem))

/-! ### Stages that convey -/

/-- `Plan.Conveys name last plan`: the plan gives back the body of the last response that it gets,
or `last` if it gets none, and the buffer is the sink of its requests. -/
inductive Plan.Conveys (name : String) : Option Bytes → Plan → Prop
  | answer {last out} : bodyOf? out = last → Conveys name last (.answer out)
  | note {last n rest} : Conveys name last rest → Conveys name last (.note n rest)
  | call {last q resume} :
      q.SinksTo name → (∀ out, Conveys name ((bodyOf? out).or last) (resume out)) →
      Conveys name last (.call q resume)

theorem Plan.Conveys.exists_calls {last : Option Bytes} {plan : Plan} (h : plan.Conveys name last)
    (hruns : (plan.run inner.call).Runs p t out p') :
    ∃ calls, inner.Serves (·.isWrite = false) calls t ∧
      (∀ c ∈ calls, c.request.SinksTo name) ∧
        ((calls.filterMap fun c => bodyOf? c.outcome).getLast?).or last = bodyOf? out := by
  induction h generalizing p t with
  | answer hlast =>
    obtain ⟨rfl, rfl, -⟩ := Run.runs_pure.mp hruns
    exact ⟨[], .nil, by simp, hlast.symm⟩
  | note _ ih =>
    obtain ⟨t₁, _, p₁, t₂, rfl, hnote, hrest⟩ := Run.runs_bind.mp hruns
    obtain ⟨rfl, rfl⟩ := Run.runs_note.mp hnote
    obtain ⟨calls, hserves, hcalls, hbody⟩ := ih hrest
    exact ⟨calls, .own rfl hserves, hcalls, hbody⟩
  | @call last q resume hq _ ih =>
    obtain ⟨t₁, outcome, p₁, t₂, rfl, hcall, hrest⟩ := Run.runs_bind.mp hruns
    obtain ⟨calls, hserves, hcalls, hbody⟩ := ih outcome hrest
    refine ⟨⟨q, t₁, outcome⟩ :: calls, .call hcall hserves,
      List.forall_mem_cons.mpr ⟨hq, hcalls⟩, ?_⟩
    rw [← hbody]
    cases hfirst : bodyOf? outcome with
    | none => simp only [List.filterMap_cons, hfirst, Option.none_or]
    | some body =>
      simp only [List.filterMap_cons, hfirst, List.getLast?_cons]
      cases (calls.filterMap fun c => bodyOf? c.outcome).getLast? <;> rfl

namespace Middleware

/-- Middleware conveys if its plans do. -/
theorem stage_conveys {m : Middleware}
    (h : ∀ earlier q, q.SinksTo name → (m earlier q).Conveys name none) :
    m.stage.Conveys name := by
  intro inner q p t out p' hq hruns
  obtain ⟨t₁, earlier, p₁, t₂, rfl, hcount, hplan⟩ := Run.runs_bind.mp hruns
  obtain ⟨rfl, -, -⟩ := Run.runs_countCall.mp hcount
  obtain ⟨calls, hserves, hcalls, hbody⟩ := (h earlier q hq).exists_calls hplan
  exact ⟨calls, hserves, hcalls, Option.or_none.symm.trans hbody⟩

theorem mapRequest_conveys {f : Request → Request} (hf : ∀ q, (f q).options.sink = q.options.sink) :
    (mapRequest f).stage.Conveys name :=
  stage_conveys fun _ q hq => .call ((hf q).trans hq) fun _ => .answer Option.or_none.symm

theorem mapResponse_conveys {g : Response → Response} (hg : ∀ r, (g r).body = r.body) :
    (mapResponse g).stage.Conveys name := by
  refine stage_conveys fun _ q hq => .call hq fun outcome => .answer ?_
  rw [Option.or_none]
  cases outcome with
  | ok r => exact congrArg some (hg r)
  | error f => rfl

theorem raising_conveys (truncation : Truncation) : (raising truncation).stage.Conveys name := by
  refine stage_conveys fun _ q hq => .call hq fun outcome => .answer ?_
  rw [Option.or_none]
  cases outcome with
  | error f => rfl
  | ok r =>
    change bodyOf? (r.throwIfFailed truncation) = some r.body
    obtain ⟨h, -⟩ | ⟨e, h, rfl⟩ := Dispatch.of_throwIfFailed (rfl : r.throwIfFailed truncation = _)
    · rw [h]
      rfl
    · rw [h]
      rfl

theorem tracing_conveys (label : String) : (tracing label).stage.Conveys name :=
  stage_conveys fun _ _ hq => .note (.call hq fun _ => .note (.answer Option.or_none.symm))

end Middleware

theorem Service.Serves.ofOwn {own : Effect → Prop} (h : ∀ s ∈ t, own s.effect) :
    inner.Serves own [] t := by
  induction t with
  | nil => exact .nil
  | cons s t ih =>
    obtain ⟨hs, ht⟩ := List.forall_mem_cons.mp h
    exact .own hs (ih ht)

theorem loggingStage_conveys (detail : LogDetail) (truncation : LogTruncation) :
    (loggingStage detail truncation).Conveys name := by
  intro inner q p t out p' hq hruns
  obtain ⟨within, cut, rfl, hinner⟩ := Logging.loggingStage_runs.mp hruns
  have hopening (n : Nat) : ∀ s ∈ Logging.opening detail q n, s.effect.isWrite = false := by
    unfold Logging.opening
    split <;> simp [Effect.isWrite]
  have hclosing (n : Nat) : ∀ s ∈ Logging.closing truncation q n out cut,
      s.effect.isWrite = false := by
    unfold Logging.closing
    cases truncation <;> simp [Effect.isWrite]
  have hserves : inner.Serves (·.isWrite = false) [⟨q, within, out⟩] within := by
    simpa using Service.Serves.call hinner .nil
  refine ⟨_, ((Service.Serves.ofOwn (hopening _)).append hserves).append
    (.ofOwn (hclosing _)), by simpa using hq, ?_⟩
  cases h : bodyOf? out <;> simp [h]

/-! ## What answers requests -/

theorem filled_writeSink (bytes : Bytes) (rest : Trace) :
    Trace.filled name (⟨.writeSink (.buffer name) bytes, .ok ()⟩ :: rest) =
      bytes :: rest.filled name :=
  List.filterMap_cons_some (if_pos rfl)

theorem Stub.Resolves.filled_eq_nil {stub : Stub} (h : stub.Resolves q t out) :
    t.filled name = [] := by
  cases h <;> rfl

theorem filled_reporting (r : Response) : (reporting q r).filled name = [] := by
  unfold reporting
  split <;> rfl

theorem Delivers.fills {r : Response} (hq : q.SinksTo name) (h : Delivers q r t out) :
    (t.filled name).getLast? = bodyOf? out := by
  cases h with
  | unsunk hsink =>
    rw [hq] at hsink
    cases hsink
  | sunk hsink =>
    obtain rfl := Option.some.inj (hq.symm.trans hsink)
    rw [filled_writeSink, filled_reporting]
    rfl
  | failed hsink =>
    obtain rfl := Option.some.inj (hq.symm.trans hsink)
    rfl

theorem Stub.Answers.fills {stub : Stub} (hq : q.SinksTo name) (h : stub.Answers q t out) :
    (t.filled name).getLast? = bodyOf? out := by
  cases h with
  | response hresolves hdelivers =>
    rw [Trace.filled_append, hresolves.filled_eq_nil, List.nil_append, hdelivers.fills hq]
  | failure hresolves =>
    rw [hresolves.filled_eq_nil, bodyOf?_error fun e he => hresolves.unraised e
      (congrArg Except.error he)]
    rfl

namespace Wire

theorem filled_telling (stats : TransferStats) : (telling q stats).filled name = [] := by
  unfold telling
  split <;> rfl

theorem exchange_filled {join : Url → String → Except UrlFlaw Url} {c : Config}
    {arrived : Except Failure Arrival} (h : (exchange join c q).Runs t arrived) :
    t.filled name = [] := by
  refine Trace.filled_eq_nil fun s hs => ?_
  have hexchanges := exchange_confined join c q t arrived h s hs
  obtain ⟨e, reply⟩ := s
  cases hexchanges
  rfl

theorem Delivered.fills {a : Arrival} (hq : q.SinksTo name) (h : Delivered q a t out) :
    (t.filled name).getLast? = bodyOf? out := by
  cases h with
  | unsunk hsink =>
    rw [hq] at hsink
    cases hsink
  | sunk hsink =>
    obtain rfl := Option.some.inj (hq.symm.trans hsink)
    rw [filled_writeSink, filled_telling]
    rfl
  | failed hsink =>
    obtain rfl := Option.some.inj (hq.symm.trans hsink)
    rfl

theorem transport_fills {c : Config} (hq : q.SinksTo name) (h : (transport c q).Runs t out) :
    (t.filled name).getLast? = bodyOf? out := by
  cases handled_of_transport h with
  | refused => rfl
  | @failed t f _ hexchange =>
    rw [Trace.filled_append, exchange_filled hexchange, filled_telling]
    cases exchange_ends Url.join c q _ _ hexchange f rfl <;> rfl
  | delivered _ hexchange hdelivered =>
    rw [Trace.filled_append, exchange_filled hexchange, List.nil_append, hdelivered.fills hq]

end Wire

namespace Dispatch

variable {d : Dispatch} {o : Options} {rounds : List Round}

/-- The sink of the requests of a dispatch is the buffer, and remains it: neither the retry test nor
a hook changes it, the middleware conveys, and a request that no stub answers goes to the bundled
transport. -/
structure Sinks (d : Dispatch) (name : String) : Prop where
  options : d.options.sink = some (.buffer name)
  test : ∀ test, d.retry.test? = some test → ∀ f o, o.sink = some (.buffer name) →
    (test f o).2.sink = some (.buffer name)
  middleware : ∀ stage ∈ d.middleware, stage.Conveys name
  hooks : ∀ hook ∈ d.hooks, ∀ q, q.SinksTo name → (hook.left q).SinksTo name
  transport : ∀ q t out, q.SinksTo name → d.Answered q .transport t out →
    ∃ c, d.environment.transport = Wire.transport c

/-- A request that reaches the faking stage leaves the body of the response to it in the buffer. -/
theorem Answered.fills (hd : d.Sinks name) (hq : q.SinksTo name) {by' : Answerer}
    (h : d.Answered q by' t out) :
    (t.filled name).getLast? = bodyOf? out := by
  have hasking (matchers : List Matcher) : (Matcher.asking q matchers).filled name = [] := by
    refine Trace.filled_eq_nil fun s hs => ?_
    obtain ⟨label, hit, he⟩ := Matcher.mem_asking hs
    rw [he]
    rfl
  cases h with
  | stub _ _ _ hanswers => rw [Trace.filled_append, hasking, List.nil_append, hanswers.fills hq]
  | refusal =>
    rw [hasking]
    rfl
  | transport hrefuse hstray hsent =>
    obtain ⟨c, hwire⟩ := hd.transport q _ _ hq (.transport hrefuse hstray hsent)
    rw [hwire] at hsent
    rw [Trace.filled_append, hasking, List.nil_append, Wire.transport_fills hq hsent]

theorem leave_sinksTo (hd : d.Sinks name) (hq : q.SinksTo name) :
    (Hook.leave d.hooks q).SinksTo name := by
  have hhooks := hd.hooks
  unfold Hook.leave
  generalize d.hooks = hooks at hhooks
  induction hooks generalizing q with
  | nil => exact hq
  | cons hook hooks ih =>
    obtain ⟨hfirst, hrest⟩ := List.forall_mem_cons.mp hhooks
    exact ih (hfirst q hq) hrest

theorem sending_fills (hd : d.Sinks name) : d.sending.Fills name := by
  intro q p t out p' hq hruns
  obtain ⟨pass, rfl, rfl, hvalid, rfl, -⟩ := sending_call_runs.mp hruns
  have hframes (s : Step) (hs : Pass.Frames s.effect) : s.filled? name = none := by
    obtain ⟨e, reply⟩ := s
    cases hs <;> rfl
  have hanswering : (pass.trace d).filled name = pass.answering.filled name :=
    pass.filterMap_answering hframes
  rw [hanswering]
  exact Answered.fills hd (leave_sinksTo hd hq) hvalid

/-! ## Whole runs -/

theorem bodyOf?_settled (outcome : Outcome) : bodyOf? (settled outcome) = bodyOf? outcome := by
  cases outcome <;> rfl

/-- An attempt leaves the body of its response in the buffer, and puts nothing there if it comes to
no response. -/
theorem attempt_fills (hd : d.Sinks name) (ho : o.sink = some (.buffer name))
    (h : (d.attempt o).Runs p t out p') : (t.filled name).getLast? = bodyOf? out := by
  obtain ⟨boundary, t', rfl, ⟨f, hbuild, rfl, rfl, -⟩ |
      ⟨q, t₁, outcome, p₁, hbuild, hcall, rfl, rfl, -⟩⟩ :=
    attempt_runs.mp h
  · exact (bodyOf?_error fun e he => Request.build_unraised _ _ _ _ e
      (hbuild.trans (by rw [he]))).symm
  · have hq : q.SinksTo name := by
      obtain ⟨_, _, -, -, -, -, -, hoptions⟩ := Request.build_ok hbuild
      rw [Request.SinksTo, hoptions, ho]
    have hfills : d.service.Fills name := by
      rw [service_eq]
      exact compose_fills hd.middleware (sending_fills hd)
    have hannouncing : (d.announcing q p₁.sent outcome).filled name = [] :=
      filterMap_announcing (fun _ => rfl) q p₁.sent outcome
    have hfresh : Trace.filled name [⟨.freshBoundary, boundary⟩] = [] := rfl
    rw [← List.singleton_append, Trace.filled_append, Trace.filled_append, hfresh, hannouncing,
      List.append_nil, List.nil_append, hfills _ _ _ _ _ hq hcall, bodyOf?_settled]

/-- So does every attempt of a run, for the buffer is the sink of each. -/
theorem Attempted.fills (hd : d.Sinks name) (h : d.Attempted d.options p rounds p') :
    ∀ r ∈ rounds, (r.trace.filled name).getLast? = bodyOf? r.outcome := by
  intro r hr
  obtain ⟨i, hi⟩ := List.mem_iff_getElem?.mp hr
  obtain ⟨p₁, p₂, hattempt⟩ := h.attempt_runs hi
  have hsink :=
    optionsAfter_keeps (P := fun o => o.sink = some (.buffer name)) hd.test hd.options rounds i
  exact attempt_fills hd hsink hattempt

theorem filled_woven {mode : Mode} {n : Nat} :
    (d.woven rounds (d.pauses mode n rounds)).filled name = rounds.flatMap fun r =>
      r.trace.filled name := by
  refine filterMap_woven fun s hs => ?_
  obtain ⟨e, reply⟩ := s
  cases hs <;> rfl

/-- What the buffer holds after some rounds, it holds after one of them after the other. -/
theorem buffer_woven {mode : Mode} {n : Nat} (before : Bytes) :
    Trace.buffer name before (d.woven rounds (d.pauses mode n rounds)) =
      rounds.foldl (fun held r => Trace.buffer name held r.trace) before := by
  rw [Trace.buffer, filled_woven]
  induction rounds generalizing before with
  | nil => rfl
  | cons r rounds ih =>
    rw [List.flatMap_cons, List.getLast?_append, Option.getD_or, ih, List.foldl_cons, Trace.buffer]

/-- What the buffer that a dispatch has as its sink holds. Each attempt that comes to a response
leaves the body of that one there, in place of all that was there before, and any other attempt
leaves the buffer as it was. What is done between the attempts does not touch it, so if the dispatch
comes back with a response, then with the one whose body is there. -/
theorem run_fills (hd : d.Sinks name) :
    (∀ t out, d.run.Runs t out → ∃ rounds,
      t = d.woven rounds (d.pauses d.mode 1 rounds) ∧
      (∀ r ∈ rounds, ∀ before,
        (∀ response, r.response? = some response →
          Trace.buffer name before r.trace = response.body) ∧
        (r.Unrelated → Trace.buffer name before r.trace = before)) ∧
      ∀ before,
        Trace.buffer name before t =
          rounds.foldl (fun held r => Trace.buffer name held r.trace) before ∧
        ∀ response, responseOf? out = some response → Trace.buffer name before t = response.body) ∧
    ∀ (w : World) response, responseOf? (w.run d.run).1 = some response →
      (w.run d.run).2.buffer name = response.body := by
  have hruns : ∀ t out, d.run.Runs t out → ∃ rounds,
      t = d.woven rounds (d.pauses d.mode 1 rounds) ∧
      (∀ r ∈ rounds, ∀ before, Trace.buffer name before r.trace = (bodyOf? r.outcome).getD before) ∧
      ∃ last, rounds.getLast? = some last ∧ out = d.verdict last := by
    intro t out h
    obtain ⟨rounds, last, p', hcourse, ht, hlast, hout⟩ := run_runs.mp h
    have hfills := (course_iff.mp hcourse).1.fills hd
    refine ⟨rounds, ht, fun r hr before => ?_, last, hlast, hout⟩
    rw [Trace.buffer, hfills r hr]
  have hholds {t : Trace} {out : Outcome} (h : d.run.Runs t out) {response : Response}
      (hresponse : responseOf? out = some response) (before : Bytes) :
      Trace.buffer name before t = response.body := by
    obtain ⟨rounds, rfl, hrounds, last, hlast, rfl⟩ := hruns t out h
    rw [responseOf?_verdict] at hresponse
    have hbody : bodyOf? last.outcome = some response.body := congrArg (Option.map _) hresponse
    obtain ⟨earlier, rfl⟩ := List.getLast?_eq_some_iff.mp hlast
    rw [buffer_woven, List.foldl_append, List.foldl_cons, List.foldl_nil,
      hrounds last (List.mem_append_right _ List.mem_cons_self), hbody]
    rfl
  refine ⟨fun t out h => ?_, fun w response hresponse => ?_⟩
  · obtain ⟨rounds, ht, hrounds, -⟩ := hruns t out h
    refine ⟨rounds, ht, fun r hr before => ⟨fun response hresponse => ?_, fun hunrelated => ?_⟩,
      fun before =>
        ⟨by rw [ht, buffer_woven], fun response hresponse => hholds h hresponse before⟩⟩
    · have hbody : bodyOf? r.outcome = some response.body := congrArg (Option.map _) hresponse
      rw [hrounds r hr, hbody]
      rfl
    · have hbody : bodyOf? r.outcome = none :=
        congrArg (Option.map _) (Round.response?_eq_none.mpr hunrelated)
      rw [hrounds r hr, hbody]
      rfl
  · rw [World.buffer_run]
    exact hholds (World.runs_steps w d.run) hresponse _

/-- A dispatch that is answered from a queue and has a buffer as its sink. It logs, traces, and
raises failed responses. -/
def filling (tries : Nat) : Dispatch :=
  { unavailable (.count tries) with
    options := { Options.empty with sink := some (.buffer "s") }
    middleware :=
      [loggingStage .outcomes .shared, (Middleware.tracing "m").stage,
        (Middleware.raising .default).stage]
    stubs := [.any (.sequence 0)]
    environment := ⟨Wire.transport .default, true⟩ }

theorem filling_sinks (tries : Nat) : (filling tries).Sinks "s" where
  options := rfl
  test := nofun
  middleware := by
    refine List.forall_mem_cons.mpr ⟨loggingStage_conveys _ _, List.forall_mem_cons.mpr ⟨?_, ?_⟩⟩
    · exact Middleware.tracing_conveys _
    · exact List.forall_mem_singleton.mpr (Middleware.raising_conveys _)
  hooks := nofun
  transport _ _ _ _ _ := ⟨_, rfl⟩

/-- A world with a queue of responses. -/
def queued (responses : List Response) : World :=
  { World.initial .default true .unreachable with sequences := [⟨responses.map .response, none⟩] }

/-- A short body takes the place of the long one before it. -/
theorem run_fills_shrinking :
    (filling 2).Sinks "s" ∧ ∃ (w : World) (response : Response) (long short : Bytes),
    (w.steps (filling 2).run).filled "s" = [long, short] ∧ short.length < long.length ∧
    responseOf? (w.run (filling 2).run).1 = some response ∧ response.body = short ∧
    (w.run (filling 2).run).2.buffer "s" = response.body := by
  have hlong : ((queued [.make 503 .empty [1, 2, 3], .make 200 .empty [4]]).steps
      (filling 2).run).filled "s" = [[1, 2, 3], [4]] := by decide +kernel
  have hbody : bodyOf? ((queued [.make 503 .empty [1, 2, 3], .make 200 .empty [4]]).run
      (filling 2).run).1 = some [4] := by
    decide +kernel
  obtain ⟨response, hresponse, hshort⟩ := Option.map_eq_some_iff.mp hbody
  exact ⟨filling_sinks 2, _, response, _, _, hlong, by decide, hresponse, hshort,
    (run_fills (filling_sinks 2)).2 _ response hresponse⟩

/-- The stage gives back an outcome that it got, and got it for the request as it was. -/
def PassesOn (stage : Stage) : Prop :=
  ∀ (inner : Service) q p t out p', ((stage inner).call q).Runs p t out p' → ∃ calls,
    inner.Serves (·.isWrite = false) calls t ∧ (∀ c ∈ calls, c.request = q) ∧
      ∃ c ∈ calls, c.outcome = out

/-- Middleware that sends each request twice and gives back the first outcome. -/
def repeating : Middleware := fun _ q => .call q fun first => .call q fun _ => .answer first

theorem repeating_passesOn : PassesOn repeating.stage := by
  intro inner q p t out p' h
  obtain ⟨t₁, earlier, p₁, t₂, rfl, hcount, hplan⟩ := Run.runs_bind.mp h
  obtain ⟨rfl, -, -⟩ := Run.runs_countCall.mp hcount
  obtain ⟨t₃, first, p₂, t₄, rfl, hfirst, hrest⟩ := Run.runs_bind.mp hplan
  obtain ⟨t₅, second, p₃, t₆, rfl, hsecond, hanswer⟩ := Run.runs_bind.mp hrest
  obtain ⟨rfl, rfl, -⟩ := Run.runs_pure.mp hanswer
  exact ⟨[⟨q, t₃, out⟩, ⟨q, t₅, second⟩], .call hfirst (.call hsecond .nil), by simp,
    ⟨q, t₃, out⟩, by simp, rfl⟩

/-- A hook that takes the sink away. -/
def unsinking : Hook := ⟨none, fun q => some { q with options := { q.options with sink := none } }⟩

/-- A hook that takes the sink away keeps the body from the buffer, and middleware that sends a
request more than once may give back a response other than the last one. -/
theorem not_run_fills :
    (¬ ∀ (d : Dispatch) (c : Config) (name : String) (w : World) (response : Response),
      d.options.sink = some (.buffer name) → d.retry.test? = none → d.middleware = [] →
      d.environment.transport = Wire.transport c →
      responseOf? (w.run d.run).1 = some response → (w.run d.run).2.buffer name = response.body) ∧
    ¬ ∀ (d : Dispatch) (c : Config) (name : String) (w : World) (response : Response),
      d.options.sink = some (.buffer name) → d.retry.test? = none → d.hooks = [] →
      (∀ stage ∈ d.middleware, PassesOn stage) → d.environment.transport = Wire.transport c →
      responseOf? (w.run d.run).1 = some response →
        (w.run d.run).2.buffer name = response.body := by
  refine ⟨fun h => ?_, fun h => ?_⟩
  · have hbody : bodyOf? ((queued [.make 200 .empty [1]]).run
        { filling 1 with middleware := [], hooks := [unsinking] }.run).1 = some [1] := by
      decide +kernel
    obtain ⟨response, hresponse, hbody⟩ := Option.map_eq_some_iff.mp hbody
    have hheld := h _ .default "s" _ response rfl rfl rfl rfl hresponse
    rw [hbody] at hheld
    exact absurd hheld (by decide +kernel)
  · have hbody : bodyOf? ((queued [.make 200 .empty [1], .make 200 .empty [2]]).run
        { filling 1 with middleware := [repeating.stage] }.run).1 = some [1] := by decide +kernel
    obtain ⟨response, hresponse, hbody⟩ := Option.map_eq_some_iff.mp hbody
    have hheld :=
      h _ .default "s" _ response rfl rfl rfl
        (List.forall_mem_singleton.mpr repeating_passesOn) rfl hresponse
    rw [hbody] at hheld
    exact absurd hheld (by decide +kernel)

end Dispatch

end Courier
