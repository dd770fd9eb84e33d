import Courier.Proofs.Answering
import Mathlib.Data.List.Basic
/-
What becomes of the requests that the middleware hands on. Each of them is a
pass through the stages below it (`Dispatch.Pass`): it is announced, the hooks
see it, it is answered once, and each recorder gets it once, as the last hook
left it and with the response as it was answered (`Dispatch.sending_call_runs`).

Middleware does what it likes with requests and outcomes, but it gets at the
stages below only by calling them (`Stage.Mediates`). All that carries out plans
does so, and so do stages that log. Hence nothing but passes is recorded in a
dispatch, in the order in which they were made.
-/
namespace Courier

/-! ## Hooks -/

namespace Hook

variable {p p' : Progress} {t : Trace} {q : Request}

/-- The request as a hook leaves it. -/
def left (hook : Hook) (q : Request) : Request := (hook.replace q).getD q

/-- The request as the last of some hooks leaves it. -/
def leave (hooks : List Hook) (q : Request) : Request := hooks.foldl (fun q hook => hook.left q) q

/-- What is told of the calls of some hooks. -/
def calling : List Hook → Request → Trace
  | [], _ => []
  | hook :: hooks, q =>
    (match hook.label? with
      | some label => [⟨.note (.hooked label q), ()⟩]
      | none => []) ++ calling hooks (hook.left q)

theorem applyAll_runs {hooks : List Hook} {q' : Request} :
    (applyAll hooks q).Runs p t q' p' ↔ t = calling hooks q ∧ q' = leave hooks q ∧ p' = p := by
  induction hooks generalizing q t with
  | nil => exact Run.runs_pure
  | cons hook hooks ih =>
    change Run.Runs (hook.apply q >>= applyAll hooks) p t q' p' ↔ _
    unfold apply calling
    cases hook.label? with
    | none => simpa [leave, left] using ih (q := hook.left q)
    | some label => simp [leave, ih, left, and_comm, and_left_comm]

theorem mem_calling {hooks : List Hook} {s : Step} (hs : s ∈ calling hooks q) :
    ∃ label q', s.effect = .note (.hooked label q') := by
  induction hooks generalizing q with
  | nil => simp [calling] at hs
  | cons hook hooks ih =>
    rcases List.mem_append.mp hs with hs | hs
    · split at hs
      · obtain rfl := List.mem_singleton.mp hs
        exact ⟨_, _, rfl⟩
      · simp at hs
    · exact ih hs

end Hook

/-! ## Recorders -/

/-- The exchange that a step records, with the recorder that gets it. -/
def Step.recorded? : Step → Option (Recorder × Recorded)
  | ⟨.record recorder q r?, _⟩ => some (recorder, ⟨q, r?⟩)
  | _ => none

namespace Trace

variable {t t' : Trace}

/-- The exchanges that are recorded, each with its recorder, in order. -/
def recorded (t : Trace) : List (Recorder × Recorded) := t.filterMap Step.recorded?

/-- The exchanges that a recorder gets, in order. -/
def recordedBy (t : Trace) (recorder : Recorder) : List Recorded :=
  (t.recorded.filter (·.1 = recorder)).map (·.2)

@[simp] theorem recorded_append : recorded (t ++ t') = t.recorded ++ t'.recorded :=
  List.filterMap_append

end Trace

/-- The exchanges that a recorder keeps. -/
def World.kept (w : World) : Recorder → List Recorded
  | .history => w.history
  | .external => w.external

namespace World

/-- A recorder keeps what it kept, and at the end what it is given. -/
theorem kept_answer (w : World) (e : Effect) (reply : e.Reply) (recorder : Recorder) :
    (w.answer e).2.kept recorder = w.kept recorder ++ Trace.recordedBy [⟨e, reply⟩] recorder := by
  cases e with
  | record recorder' q r? =>
    cases recorder <;> cases recorder' <;> simp [answer, append, kept, Trace.recordedBy,
      Trace.recorded, Step.recorded?]
  | writeSink sink bytes =>
    cases sink with
    | buffer name =>
      cases recorder <;> simp [answer, write, kept, Trace.recordedBy, Trace.recorded,
        Step.recorded?]
    | file path =>
      simp only [answer, write]
      split <;> cases recorder <;> simp [kept, Trace.recordedBy, Trace.recorded, Step.recorded?]
  | sleep ms mode =>
    simp only [answer]
    split <;> cases recorder <;> simp [kept, Trace.recordedBy, Trace.recorded, Step.recorded?]
  | _ =>
    cases recorder <;> simp [answer, kept, tell, setSequence, Trace.recordedBy, Trace.recorded,
      Step.recorded?]

end World

/-- What is recorded of a request and the outcome it had. -/
def recording (recorders : List Recorder) (q : Request) (out : Outcome) : Trace :=
  recorders.map fun recorder => ⟨.record recorder q out.toOption, ()⟩

theorem recordingStage_runs {recorders : List Recorder} {inner : Service}
    {p p' : Progress} {t : Trace} {q : Request} {out : Outcome} :
    ((recordingStage recorders inner).call q).Runs p t out p' ↔
      ∃ t₁, (inner.call q).Runs p t₁ out p' ∧ t = t₁ ++ recording recorders q out := by
  have hrecording {t : Trace} {u : Unit} {p p' : Progress} {out : Outcome} :
      Run.Runs (recorders.forM fun recorder => Run.effect (.record recorder q out.toOption)) p t u
        p' ↔ t = recording recorders q out ∧ p' = p := by
    induction recorders generalizing t with
    | nil => simp [recording]
    | cons recorder recorders ih =>
      rw [List.forM, Run.runs_bind]
      constructor
      · intro h
        obtain ⟨t₁, reply, p₁, t₂, rfl, h₁, h₂⟩ := h
        obtain ⟨rfl, rfl⟩ := Run.runs_effect.mp h₁
        obtain ⟨rfl, rfl⟩ := ih.mp h₂
        exact ⟨rfl, rfl⟩
      · intro h
        obtain ⟨rfl, rfl⟩ := h
        exact ⟨_, (), p', _, rfl, Run.runs_effect.mpr ⟨rfl, rfl⟩, ih.mpr ⟨rfl, rfl⟩⟩
  change Run.Runs (inner.call q >>= fun outcome => do
    recorders.forM fun recorder => Run.effect (.record recorder q outcome.toOption)
    pure outcome) p t out p' ↔ _
  simp only [Run.runs_bind, hrecording, Run.runs_pure]
  constructor
  · intro h
    obtain ⟨t₁, outcome, p₁, t₂, rfl, h₁, t₃, u, p₂, t₄, rfl, ⟨rfl, rfl⟩, rfl, rfl, rfl⟩ := h
    exact ⟨t₁, h₁, by simp⟩
  · intro h
    obtain ⟨t₁, h₁, rfl⟩ := h
    exact ⟨t₁, out, p', _, rfl, h₁, _, (), p', [], (List.append_nil _).symm, ⟨rfl, rfl⟩,
      rfl, rfl, rfl⟩

/-! ## Calls of a service -/

/-- A call of a service that came to its end. -/
structure Service.Call where
  request : Request
  trace : Trace
  outcome : Outcome

/-- `inner.Serves own calls t`: in `t` the service is called as in `calls`, one call after another,
and every step between the calls is one of its caller's own. -/
inductive Service.Serves (inner : Service) (own : Effect → Prop) : List Service.Call → Trace → Prop
  | nil : Serves inner own [] []
  | own {s calls t} : own s.effect → Serves inner own calls t → Serves inner own calls (s :: t)
  | call {c calls t p p'} :
      (inner.call c.request).Runs p c.trace c.outcome p' → Serves inner own calls t →
      Serves inner own (c :: calls) (c.trace ++ t)

namespace Service.Serves

variable {inner : Service} {own : Effect → Prop} {calls calls' : List Service.Call} {t t' : Trace}

theorem append (h : inner.Serves own calls t) (h' : inner.Serves own calls' t') :
    inner.Serves own (calls ++ calls') (t ++ t') := by
  induction h with
  | nil => exact h'
  | own hown _ ih => exact .own hown ih
  | @call c calls t p p' hcall _ ih =>
    rw [List.append_assoc]
    exact .call hcall ih

theorem mono {own' : Effect → Prop} (h : inner.Serves own calls t) (howns : ∀ e, own e → own' e) :
    inner.Serves own' calls t := by
  induction h with
  | nil => exact .nil
  | own hown _ ih => exact .own (howns _ hown) ih
  | call hcall _ ih => exact .call hcall ih

/-- Where each call of a service calls another one, that one is called in all of them. -/
theorem flatten {deeper : Service} (h : inner.Serves own calls t)
    (hinner : ∀ q p t out p', (inner.call q).Runs p t out p' → ∃ calls, deeper.Serves own calls t) :
    ∃ calls, deeper.Serves own calls t := by
  induction h with
  | nil => exact ⟨[], .nil⟩
  | own hown _ ih =>
    obtain ⟨calls, hserves⟩ := ih
    exact ⟨calls, .own hown hserves⟩
  | call hcall _ ih =>
    obtain ⟨calls, hserves⟩ := ih
    obtain ⟨calls', hserves'⟩ := hinner _ _ _ _ _ hcall
    exact ⟨calls' ++ calls, hserves'.append hserves⟩

/-- What is read off the steps of a trace is read off its calls, if nothing is read off the other
steps. -/
theorem filterMap_eq {α : Type} {f : Step → Option α} (h : inner.Serves own calls t)
    (hf : ∀ s, own s.effect → f s = none) :
    t.filterMap f = calls.flatMap fun c => c.trace.filterMap f := by
  induction h with
  | nil => rfl
  | own hown _ ih => simp [hf _ hown, ih]
  | call _ _ ih => simp [ih]

/-- Every step is of a call or the caller's own. -/
theorem confined (h : inner.Serves own calls t)
    (hinner : ∀ q p t out p', (inner.call q).Runs p t out p' → ∀ s ∈ t, own s.effect) :
    ∀ s ∈ t, own s.effect := by
  induction h with
  | nil => simp
  | own hown _ ih => exact List.forall_mem_cons.mpr ⟨hown, ih⟩
  | call hcall _ ih => exact List.forall_mem_append.mpr ⟨hinner _ _ _ _ _ hcall, ih⟩

end Service.Serves

/-- The steps call the service any number of times, one call after another, and are their own
otherwise. -/
def Service.Mediated {α : Type} (inner : Service) (own : Effect → Prop) (x : Run α) : Prop :=
  ∀ p t a p', x.Runs p t a p' → ∃ calls, inner.Serves own calls t

namespace Service.Mediated

variable {α β : Type} {inner : Service} {own : Effect → Prop}

theorem pure (a : α) : inner.Mediated own (pure a : Run α) := by
  intro p t b p' h
  obtain ⟨rfl, -, -⟩ := Run.runs_pure.mp h
  exact ⟨[], .nil⟩

theorem bind {x : Run α} {f : α → Run β} (hx : inner.Mediated own x)
    (hf : ∀ a, inner.Mediated own (f a)) :
    inner.Mediated own (x >>= f) := by
  intro p t b p' h
  obtain ⟨t₁, a, p₁, t₂, rfl, h₁, h₂⟩ := Run.runs_bind.mp h
  obtain ⟨calls, hserves⟩ := hx p t₁ a p₁ h₁
  obtain ⟨calls', hserves'⟩ := hf a p₁ t₂ b p' h₂
  exact ⟨calls ++ calls', hserves.append hserves'⟩

theorem effect {e : Effect} (h : own e) : inner.Mediated own (Run.effect e) := by
  intro p t reply p' hruns
  obtain ⟨rfl, -⟩ := Run.runs_effect.mp hruns
  exact ⟨[], .own h .nil⟩

theorem countCall (height : Nat) : inner.Mediated own (Run.countCall height) := by
  intro p t n p' h
  obtain ⟨rfl, -, -⟩ := Run.runs_countCall.mp h
  exact ⟨[], .nil⟩

theorem call (q : Request) : inner.Mediated own (inner.call q) := by
  intro p t out p' h
  have hserves : inner.Serves own [⟨q, t, out⟩] (t ++ []) := .call h .nil
  exact ⟨_, by simpa using hserves⟩

end Service.Mediated

/-- The stage gets at what is below it by calling the service inside, and in no other way. -/
def Stage.Mediates (own : Effect → Prop) (stage : Stage) : Prop :=
  ∀ (inner : Service) q, inner.Mediated own ((stage inner).call q)

theorem Stage.Mediates.mono {own own' : Effect → Prop} {stage : Stage} (h : stage.Mediates own)
    (howns : ∀ e, own e → own' e) : stage.Mediates own' := by
  intro inner q p t out p' hruns
  obtain ⟨calls, hserves⟩ := h inner q p t out p' hruns
  exact ⟨calls, hserves.mono howns⟩

theorem compose_mediates {own : Effect → Prop} {stages : List Stage}
    (h : ∀ stage ∈ stages, stage.Mediates own) :
    Stage.Mediates own (compose stages) := by
  intro inner
  induction stages with
  | nil => exact fun q => .call q
  | cons stage stages ih =>
    intro q p t out p' hruns
    obtain ⟨calls, hserves⟩ := h stage List.mem_cons_self (compose stages inner) q p t out p' hruns
    -- Each call of the stack below the stage is made of calls of the service itself.
    exact hserves.flatten (ih fun stage' hmem => h stage' (List.mem_cons_of_mem stage hmem))

theorem Plan.run_mediated {own : Effect → Prop} (hnotes : ∀ n, own (.note n)) (inner : Service)
    (plan : Plan) :
    inner.Mediated own (plan.run inner.call) := by
  induction plan with
  | answer outcome => exact .pure outcome
  | note n rest ih => exact .bind (.effect (hnotes n)) fun _ => ih
  | call q resume ih => exact .bind (.call q) ih

/-- All middleware that carries out plans mediates. -/
theorem Middleware.stage_mediates {own : Effect → Prop} (hnotes : ∀ n, own (.note n))
    (m : Middleware) :
    Stage.Mediates own m.stage :=
  fun inner q => .bind (.countCall _) fun earlier => Plan.run_mediated hnotes inner (m earlier q)

theorem loggingStage_mediates {own : Effect → Prop}
    (hlogged : ∀ record, own (.note (.logged record))) (htruncation : own .truncation)
    (detail : LogDetail) (truncation : LogTruncation) :
    Stage.Mediates own (loggingStage detail truncation) := by
  intro inner q
  refine .bind (.countCall _) fun earlier => ?_
  extract_lets attempt log send
  have hsend (u : Unit) : inner.Mediated own (send u) := by
    refine .bind (.call q) fun outcome => ?_
    cases truncation with
    | shared =>
      exact .bind (.effect htruncation) fun _ => .bind (.effect (hlogged _)) fun _ => .pure _
    | own truncation => exact .bind (.pure _) fun _ => .bind (.effect (hlogged _)) fun _ => .pure _
  split
  · exact .bind (.effect (hlogged _)) hsend
  · exact hsend ()

/-! ## Passes -/

/-- The effect is not one that the stages below the middleware have for themselves: it neither
remembers a request nor records an exchange. -/
def Effect.isAside : Effect → Bool
  | .remember _ _ => false
  | .record _ _ _ => false
  | _ => true

/-- Nothing is read off steps that are aside. -/
def Overlooks {α : Type} (f : Step → Option α) : Prop :=
  ∀ s : Step, s.effect.isAside = true → f s = none

theorem overlooks_remembered : Overlooks Step.remembered? := by
  rintro ⟨e, reply⟩ h
  cases e <;> simp_all [Effect.isAside, Step.remembered?]

theorem Overlooks.filterMap_eq {α : Type} {f : Step → Option α} (hf : Overlooks f) {t : Trace}
    (h : ∀ s ∈ t, s.effect.isAside = true) : t.filterMap f = [] :=
  List.filterMap_eq_nil_iff.mpr fun s hs => hf s (h s hs)

namespace Dispatch

variable {d : Dispatch} {o : Options} {p p' : Progress} {t : Trace} {rounds : List Round}

/-- A request that reached the sending stage: by what it was answered, and the steps and the outcome
of that. -/
structure Pass where
  reached : Request
  by' : Answerer
  answering : Trace
  outcome : Outcome

namespace Pass

variable {pass : Pass}

/-- The request as the last hook left it. -/
def sent (d : Dispatch) (pass : Pass) : Request := Hook.leave d.hooks pass.reached

/-- What is recorded of a pass. -/
def recorded (d : Dispatch) (pass : Pass) : Recorded := ⟨pass.sent d, pass.outcome.toOption⟩

/-- All steps of a pass. -/
def trace (d : Dispatch) (pass : Pass) : Trace :=
  ⟨.remember d.draft pass.reached, ()⟩ ::
    (if d.environment.announces then [⟨.note (.event (.sending pass.reached)), ()⟩] else []) ++
    Hook.calling d.hooks pass.reached ++ pass.answering ++
      recording d.recorders (pass.sent d) pass.outcome

/-- The request was answered as the dispatch answers requests. -/
def Valid (d : Dispatch) (pass : Pass) : Prop :=
  d.Answered (pass.sent d) pass.by' pass.answering pass.outcome

end Pass

/-- What is done in a pass around the answering. -/
inductive Pass.Frames : Effect → Prop
  | remember (draft : Nat) (q : Request) : Frames (.remember draft q)
  | sending (q : Request) : Frames (.note (.event (.sending q)))
  | hooked (label : String) (q : Request) : Frames (.note (.hooked label q))
  | record (recorder : Recorder) (q : Request) (r? : Option Response) :
      Frames (.record recorder q r?)

/-- What is read off nothing around the answering is read off that. -/
theorem Pass.filterMap_answering (pass : Pass) {α : Type} {f : Step → Option α}
    (hf : ∀ s : Step, Frames s.effect → f s = none) :
    (pass.trace d).filterMap f = pass.answering.filterMap f := by
  have hnone {t : Trace} (h : ∀ s ∈ t, Frames s.effect) : t.filterMap f = [] :=
    List.filterMap_eq_nil_iff.mpr fun s hs => hf s (h s hs)
  have hannouncing : ∀ s ∈ (⟨.remember d.draft pass.reached, ()⟩ :: if d.environment.announces then
      [⟨.note (.event (.sending pass.reached)), ()⟩] else [] : Trace), Frames s.effect := by
    refine List.forall_mem_cons.mpr ⟨.remember _ _, ?_⟩
    split
    · exact List.forall_mem_singleton.mpr (.sending _)
    · simp
  have hcalling : ∀ s ∈ Hook.calling d.hooks pass.reached, Frames s.effect := by
    intro s hs
    obtain ⟨label, q, he⟩ := Hook.mem_calling hs
    rw [he]
    exact .hooked label q
  have hrecording : ∀ s ∈ recording d.recorders (pass.sent d) pass.outcome, Frames s.effect := by
    intro s hs
    obtain ⟨recorder, -, rfl⟩ := List.mem_map.mp hs
    exact .record _ _ _
  rw [trace, List.filterMap_append, List.filterMap_append, List.filterMap_append, hnone hannouncing,
    hnone hcalling, hnone hrecording, List.append_nil, List.nil_append, List.nil_append]

/-- Every call of the sending stage is one pass. -/
theorem sending_call_runs {q : Request} {out : Outcome} : (d.sending.call q).Runs p t out p' ↔
    ∃ pass : Pass, pass.reached = q ∧ pass.outcome = out ∧ pass.Valid d ∧ t = pass.trace d ∧
      p' = { p with sent := some q } := by
  change Run.Runs (announce d.draft d.environment.announces q >>=
    fun _ => Hook.applyAll d.hooks q >>=
    (recordingStage d.recorders d.faking).call) p t out p' ↔ _
  simp only [Run.runs_bind, announce_runs, Hook.applyAll_runs, recordingStage_runs, faking_runs]
  constructor
  · intro h
    obtain ⟨t₁, u, p₁, t₂, rfl, ⟨rfl, rfl⟩, t₃, q', p₂, t₄, rfl, ⟨rfl, rfl, rfl⟩, answering,
      ⟨⟨by', hanswered⟩, rfl⟩, rfl⟩ := h
    exact ⟨⟨q, by', answering, out⟩, rfl, rfl, hanswered, by simp [Pass.trace, Pass.sent], rfl⟩
  · intro h
    obtain ⟨⟨q, by', answering, out⟩, rfl, rfl, hanswered, rfl, rfl⟩ := h
    exact ⟨_, (), _, _, by simp [Pass.trace, Pass.sent], ⟨rfl, rfl⟩, _, _, _, _, rfl,
      ⟨rfl, rfl, rfl⟩, _, ⟨⟨by', hanswered⟩, rfl⟩, rfl⟩

/-! ## Accounts -/

/-- What a dispatch was given leaves requests and recorders to the dispatch: its middleware gets at
the stages below by calling them only, and its transport records nothing. -/
structure Mediated (d : Dispatch) : Prop where
  middleware : ∀ stage ∈ d.middleware, stage.Mediates (·.isAside = true)
  transport : d.environment.transport.Confined (·.isAside = true)

theorem Pass.Valid.aside (hd : d.Mediated) {pass : Pass} (h : pass.Valid d) :
    ∀ s ∈ pass.answering, s.effect.isAside = true := by
  refine h.performs (P := (·.isAside = true)) (fun _ _ => rfl) ?_ fun _ => hd.transport
  intro m _ _ e he
  cases he <;> rfl

/-- What is read off a pass is read off its first step and what the recorders get. -/
theorem Pass.Valid.filterMap_trace (hd : d.Mediated) {pass : Pass} (h : pass.Valid d) {α : Type}
    {f : Step → Option α} (hf : Overlooks f) :
    (pass.trace d).filterMap f = (f ⟨.remember d.draft pass.reached, ()⟩).toList ++
      (recording d.recorders (pass.sent d) pass.outcome).filterMap f := by
  have hannouncing : List.filterMap f
      (if d.environment.announces then [⟨.note (.event (.sending pass.reached)), ()⟩] else []) =
          [] := by
    refine hf.filterMap_eq ?_
    split
    · exact List.forall_mem_singleton.mpr rfl
    · simp
  have hcalling : (Hook.calling d.hooks pass.reached).filterMap f = [] := by
    refine hf.filterMap_eq fun s hs => ?_
    obtain ⟨label, q, he⟩ := Hook.mem_calling hs
    rw [he]
    rfl
  rw [Pass.trace, List.filterMap_append, List.filterMap_append, List.filterMap_append,
    List.filterMap_cons, hannouncing, hcalling, hf.filterMap_eq (h.aside hd)]
  cases f ⟨.remember d.draft pass.reached, ()⟩ <;> simp

theorem Pass.Valid.remembered_trace (hd : d.Mediated) {pass : Pass} (h : pass.Valid d) :
    (pass.trace d).remembered = [(d.draft, pass.reached)] := by
  rw [Trace.remembered, h.filterMap_trace hd overlooks_remembered]
  simp [recording, Step.remembered?]

/-- `d.Accounted o r passes`: the attempt of the round, made from the options `o`, consists of the
passes and of steps aside; if no request could be built, it made none. -/
inductive Accounted (d : Dispatch) (o : Options) (r : Round) : List Pass → Prop
  | unbuilt {boundary f} : Request.build boundary d.method d.url o = .error f →
      r.trace = [⟨.freshBoundary, boundary⟩] → Accounted d o r []
  | built {boundary q t outcome passes} {p p' : Progress} :
      Request.build boundary d.method d.url o = .ok q →
      (d.service.call q).Runs p t outcome p' → (∀ pass ∈ passes, pass.Valid d) →
      d.sending.Serves (·.isAside = true)
        (passes.map fun pass => ⟨pass.reached, pass.trace d, pass.outcome⟩) t →
      r.trace = ⟨.freshBoundary, boundary⟩ :: (t ++ d.announcing q p'.sent outcome) →
        Accounted d o r passes

/-- The calls of the sending stage are passes. -/
theorem exists_passes {own : Effect → Prop} {calls : List Service.Call}
    (h : d.sending.Serves own calls t) :
    ∃ passes : List Pass, (∀ pass ∈ passes, pass.Valid d) ∧
      calls = passes.map fun pass => ⟨pass.reached, pass.trace d, pass.outcome⟩ := by
  induction h with
  | nil => exact ⟨[], by simp, rfl⟩
  | own _ _ ih => exact ih
  | @call c calls t p p' hcall _ ih =>
    obtain ⟨passes, hvalid, rfl⟩ := ih
    obtain ⟨pass, hreached, hout, hpass, htrace, -⟩ := sending_call_runs.mp hcall
    refine ⟨pass :: passes, List.forall_mem_cons.mpr ⟨hpass, hvalid⟩, ?_⟩
    obtain ⟨q, t, out⟩ := c
    simp_all

theorem attempt_accounted (hd : d.Mediated) {r : Round}
    (h : (d.attempt o).Runs p r.trace r.outcome p') :
    ∃ passes, d.Accounted o r passes := by
  obtain ⟨boundary, t, ht, ⟨f, hbuild, rfl, -, -⟩ |
      ⟨q, t₁, outcome, p₁, hbuild, hcall, rfl, -, -⟩⟩ :=
    attempt_runs.mp h
  · exact ⟨[], .unbuilt hbuild ht⟩
  · have hcall' := hcall
    rw [service_eq] at hcall'
    obtain ⟨calls, hserves⟩ := compose_mediates hd.middleware d.sending q _ _ _ _ hcall'
    obtain ⟨passes, hvalid, rfl⟩ := exists_passes hserves
    exact ⟨passes, .built hbuild hcall hvalid hserves ht⟩

/-- Outcomes are announced as events. -/
theorem event_announcing (q : Request) (q? : Option Request) (outcome : Outcome) :
    ∀ s ∈ d.announcing q q? outcome, ∃ event, s.effect = .note (.event event) := by
  unfold announcing
  cases outcome with
  | ok r =>
    cases q? with
    | none => simp
    | some sent =>
      dsimp only
      split
      · exact List.forall_mem_singleton.mpr ⟨_, rfl⟩
      · simp
  | error f =>
    cases f with
    | connection f =>
      dsimp only
      split
      · exact List.forall_mem_singleton.mpr ⟨_, rfl⟩
      · simp
    | _ => simp

theorem filterMap_announcing {α : Type} {f : Step → Option α}
    (hf : ∀ event, f ⟨.note (.event event), ()⟩ = none) (q : Request) (q? : Option Request)
    (outcome : Outcome) : (d.announcing q q? outcome).filterMap f = [] := by
  refine List.filterMap_eq_nil_iff.mpr fun s hs => ?_
  obtain ⟨event, he⟩ := event_announcing q q? outcome s hs
  obtain ⟨e, reply⟩ := s
  subst he
  exact hf event

/-- What is read off an attempt is read off its passes. -/
theorem Accounted.filterMap_eq {r : Round} {passes : List Pass}
    (h : d.Accounted o r passes) {α : Type} {f : Step → Option α} (hf : Overlooks f) :
    r.trace.filterMap f = passes.flatMap fun pass => (pass.trace d).filterMap f := by
  cases h with
  | unbuilt _ ht =>
    rw [ht]
    exact hf.filterMap_eq (List.forall_mem_singleton.mpr rfl)
  | built _ _ _ hserves ht =>
    have hfresh (boundary : String) := hf ⟨.freshBoundary, boundary⟩ rfl
    rw [ht, List.filterMap_cons, hfresh, List.filterMap_append, hserves.filterMap_eq hf,
      filterMap_announcing (fun event => hf _ rfl), List.append_nil, List.flatMap_map]

theorem Accounted.valid {r : Round} {passes : List Pass} (h : d.Accounted o r passes) :
    ∀ pass ∈ passes, pass.Valid d := by
  cases h with
  | unbuilt => simp
  | built _ _ hvalid _ _ => exact hvalid

theorem Accounted.remembered_eq (hd : d.Mediated) {r : Round} {passes : List Pass}
    (h : d.Accounted o r passes) :
    r.trace.remembered = passes.map fun pass => (d.draft, pass.reached) := by
  rw [List.map_eq_flatMap]
  refine (h.filterMap_eq overlooks_remembered).trans (List.flatMap_congr fun pass hmem => ?_)
  exact (h.valid pass hmem).remembered_trace hd

/-- What is not aside is in the attempts. -/
theorem filterMap_woven_of_overlooks {α : Type} {f : Step → Option α}
    (hf : Overlooks f) {mode : Mode} {n : Nat} :
    (d.woven rounds (d.pauses mode n rounds)).filterMap f = rounds.flatMap fun r =>
      r.trace.filterMap f := by
  refine Dispatch.filterMap_woven fun s hs => hf s ?_
  obtain ⟨e, reply⟩ := s
  cases hs <;> rfl

/-- What there is for each attempt there is for all of them. -/
theorem Attempted.exists_each {α : Type} {P : Options → Round → α → Prop}
    (hP : ∀ o p r p', (d.attempt o).Runs p r.trace r.outcome p' → ∃ a, P o r a)
    (h : d.Attempted o p rounds p') :
    ∃ found : List (Round × α), rounds = found.map (·.1) ∧
      ∀ i r a, found[i]? = some (r, a) → P (d.optionsAfter o rounds i) r a := by
  induction h with
  | nil => exact ⟨[], rfl, by simp⟩
  | @cons o p p₁ p' r rounds hattempt _ ih =>
    obtain ⟨a, ha⟩ := hP _ _ _ _ hattempt
    obtain ⟨found, rfl, hfound⟩ := ih
    refine ⟨(r, a) :: found, rfl, fun i r' a' hi => ?_⟩
    cases i with
    | zero =>
      obtain ⟨rfl, rfl⟩ : r = r' ∧ a = a' := by simpa using hi
      exact ha
    | succ i => exact hfound i r' a' hi

/-- Each attempt is accounted for by its passes. -/
theorem Attempted.accounted (hd : d.Mediated) (h : d.Attempted o p rounds p') :
    ∃ accounts : List (Round × List Pass), rounds = accounts.map (·.1) ∧
      ∀ i r passes, accounts[i]? = some (r, passes) →
        d.Accounted (d.optionsAfter o rounds i) r passes :=
  h.exists_each fun _ _ _ _ hattempt => attempt_accounted hd hattempt

namespace Answerer

def isStub : Answerer → Bool
  | stub _ => true
  | _ => false

def isTransport : Answerer → Bool
  | transport => true
  | _ => false

end Answerer

end Dispatch

end Courier
