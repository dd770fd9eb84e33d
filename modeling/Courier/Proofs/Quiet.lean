import Courier.Proofs.Effects
import Courier.Service.Fakes
import Courier.Service.Logging
import Courier.Service.Middleware
import Courier.Service.Recording
import Courier.Service.Sending
/-
What tells no events and remembers no requests: everything but the dispatch
itself and its sending stage. Transports are quiet (`Script.transport_quiet`,
`Wire.transport_quiet`), and so are the stages below the sending stage, if the
transport is (`Service.Quiet.recording`, `Service.Quiet.faking`).

The stages above it hand the request on at most once (`Stage.AtMostOnce`), and
so does a stack of them (`compose_atMostOnce`). Stages that log do, and so do
those that carry out plans which call the service inside at most once.
-/
namespace Courier

/-! ## Quiet traces -/

namespace Trace

/-- The events that are told, in order. -/
def events (t : Trace) : List Event := t.filterMap Step.event?

/-- The requests that are remembered, each with its draft, in order. -/
def remembered (t : Trace) : List (Nat × Request) := t.filterMap Step.remembered?

/-- No event is told and no request is remembered. -/
def Quiet (t : Trace) : Prop := ∀ s ∈ t, s.event? = none ∧ s.remembered? = none

variable {t t' : Trace}

@[simp] theorem quiet_nil : Quiet [] := by simp [Quiet]

@[simp] theorem quiet_append : Quiet (t ++ t') ↔ t.Quiet ∧ t'.Quiet := by
  simp only [Quiet, List.mem_append]
  constructor
  · intro h
    exact ⟨fun s hs => h s (.inl hs), fun s hs => h s (.inr hs)⟩
  · rintro ⟨h, h'⟩ s (hs | hs)
    · exact h s hs
    · exact h' s hs

theorem quiet_cons {s : Step} :
    Quiet (s :: t) ↔ (s.event? = none ∧ s.remembered? = none) ∧ t.Quiet :=
  List.forall_mem_cons

@[simp] theorem events_append : events (t ++ t') = t.events ++ t'.events := List.filterMap_append

@[simp] theorem remembered_append : remembered (t ++ t') = t.remembered ++ t'.remembered :=
  List.filterMap_append

theorem Quiet.events_eq (h : t.Quiet) : t.events = [] :=
  List.filterMap_eq_nil_iff.mpr fun s hs => (h s hs).1

theorem Quiet.remembered_eq (h : t.Quiet) : t.remembered = [] :=
  List.filterMap_eq_nil_iff.mpr fun s hs => (h s hs).2

end Trace

/-! ## Quiet acts -/

/-- The effect tells no event and remembers no request. -/
def Effect.isQuiet : Effect → Bool
  | .note (.event _) => false
  | .remember _ _ => false
  | _ => true

theorem Trace.quiet_singleton {s : Step} (h : s.effect.isQuiet = true) : Quiet [s] := by
  refine quiet_cons.mpr ⟨?_, quiet_nil⟩
  obtain ⟨e, reply⟩ := s
  cases e with
  | note n => cases n <;> simp_all [Effect.isQuiet, Step.event?, Step.remembered?]
  | remember draft q => simp [Effect.isQuiet] at h
  | _ => simp [Step.event?, Step.remembered?]

/-- No run of the act tells an event or remembers a request. -/
def Act.Quiet {α : Type} (act : Act α) : Prop := ∀ t a, act.Runs t a → t.Quiet

/-- An act that is confined to quiet effects is quiet. -/
theorem Act.Confined.quiet {α : Type} {act : Act α} (h : act.Confined (·.isQuiet = true)) :
    act.Quiet := by
  intro t a hruns s hs
  exact Trace.quiet_singleton (h t a hruns s hs) s List.mem_cons_self

/-- Nothing that the transport does tells an event or remembers a request. -/
def Transport.Quiet (transport : Transport) : Prop := ∀ q, (transport q).Quiet

theorem Script.transport_quiet (s : Script) : Transport.Quiet s.transport :=
  fun q => (s.transport_confined (fun _ => rfl) q).quiet

theorem Wire.transport_quiet (c : Config) : Transport.Quiet (transport c) := by
  intro q
  have hquiet : ∀ e, Performs e → e.isQuiet = true := by
    intro e he
    cases he <;> rfl
  exact ((transport_confined c q).mono hquiet).quiet

/-! ## Quiet services -/

namespace Run

variable {α β : Type}

/-- No run of the steps tells an event or remembers a request, and what was sent stays as it is. -/
def Quiet (x : Run α) : Prop := ∀ p t a p', x.Runs p t a p' → t.Quiet ∧ p'.sent = p.sent

theorem Quiet.pure (a : α) : Quiet (pure a : Run α) := by
  intro p t b p' h
  obtain ⟨rfl, -, rfl⟩ := runs_pure.mp h
  exact ⟨Trace.quiet_nil, rfl⟩

theorem Quiet.bind {x : Run α} {f : α → Run β} (h : x.Quiet) (hf : ∀ a, (f a).Quiet) :
    Quiet (x >>= f) := by
  intro p t b p' hruns
  obtain ⟨t₁, a, p₁, t₂, rfl, h₁, h₂⟩ := runs_bind.mp hruns
  obtain ⟨ht₁, hp₁⟩ := h p t₁ a p₁ h₁
  obtain ⟨ht₂, hp'⟩ := hf a p₁ t₂ b p' h₂
  exact ⟨Trace.quiet_append.mpr ⟨ht₁, ht₂⟩, hp'.trans hp₁⟩

theorem Quiet.act {act : Act α} (h : act.Quiet) : (Run.act act).Quiet := by
  intro p t a p' hruns
  obtain ⟨hact, rfl⟩ := runs_act.mp hruns
  exact ⟨h t a hact, rfl⟩

theorem Quiet.effect {e : Effect} (h : e.isQuiet = true) : (Run.effect e).Quiet := by
  intro p t a p' hruns
  obtain ⟨rfl, rfl⟩ := runs_effect.mp hruns
  exact ⟨Trace.quiet_singleton h, rfl⟩

theorem Quiet.note {n : Notice} (h : (Effect.note n).isQuiet = true) :
    (Run.note n).Quiet := Quiet.effect h

theorem Quiet.countCall (height : Nat) : (Run.countCall height).Quiet := by
  intro p t n p' h
  obtain ⟨rfl, -, rfl⟩ := runs_countCall.mp h
  exact ⟨Trace.quiet_nil, rfl⟩

end Run

/-- No call of the service tells an event or remembers a request. -/
def Service.Quiet (s : Service) : Prop := ∀ q, (s.call q).Quiet

theorem Hook.apply_quiet (hook : Hook) (q : Request) : (hook.apply q).Quiet := by
  unfold Hook.apply
  dsimp only
  split
  · exact .bind (.note rfl) fun _ => .pure _
  · exact .pure _

theorem Hook.applyAll_quiet (hooks : List Hook) (q : Request) : (Hook.applyAll hooks q).Quiet := by
  unfold Hook.applyAll
  induction hooks generalizing q with
  | nil => exact .pure q
  | cons hook hooks ih => exact .bind (hook.apply_quiet q) fun q' => ih q'

theorem findStub_quiet (q : Request) (matchers : List Matcher) : (findStub q matchers).Quiet := by
  induction matchers with
  | nil => exact .pure none
  | cons m matchers ih =>
    unfold findStub
    have hrest :
    Run.Quiet (if m.accepts q then pure (some (m.stub q)) else findStub q matchers) := by
      split
      · exact .pure _
      · exact ih
    dsimp only
    split
    · exact .bind (.note rfl) fun _ => hrest
    · exact hrest

theorem Stub.resolve_quiet (q : Request) (stub : Stub) : (stub.resolve q).Quiet := by
  cases stub with
  | canned c => exact .pure _
  | sequence number =>
    unfold Stub.resolve
    refine .bind (.effect rfl) fun canned? => ?_
    cases canned? <;> exact .pure _

theorem deliverFake_quiet (q : Request) (r : Response) : (deliverFake q r).Quiet := by
  unfold deliverFake
  extract_lets stats reply finish
  have hfinish (written : Except String Unit) : (finish written).Quiet := by
    cases written with
    | error message => exact .pure _
    | ok u =>
      dsimp only [finish]
      split
      · exact .bind (.note rfl) fun _ => .pure _
      · exact .pure _
  split
  · exact .bind (.effect rfl) hfinish
  · exact .bind (.pure _) hfinish

namespace Service

variable {inner : Service}

theorem Quiet.ofTransport {transport : Transport} (h : transport.Quiet) :
    (ofTransport transport).Quiet :=
  fun q => .act (h q)

theorem Quiet.faking (h : inner.Quiet) (matchers : List Matcher) (preventsStray : Bool) :
    (fakingStage matchers preventsStray inner).Quiet := by
  intro q
  refine .bind (findStub_quiet q matchers) fun stub? => ?_
  cases stub? with
  | some stub =>
    refine .bind (stub.resolve_quiet q) fun outcome => ?_
    cases outcome with
    | ok r => exact deliverFake_quiet q r
    | error f => exact .pure _
  | none =>
    dsimp only
    split
    · exact .pure _
    · exact h q

theorem Quiet.recording (h : inner.Quiet) (recorders : List Recorder) :
    (recordingStage recorders inner).Quiet := by
  intro q
  refine .bind (h q) fun outcome => .bind ?_ fun _ => .pure _
  induction recorders with
  | nil => exact .pure _
  | cons recorder recorders ih => exact .bind (.effect rfl) fun _ => ih

end Service

/-! ## Handing requests on -/

/-- `inner.Passes p p' t q?`: in `t`, which leads from `p` to `p'`, the service is called with the
request `q?`, if there is one, and not again; all else is quiet. -/
inductive Service.Passes (inner : Service) (p p' : Progress) : Trace → Option Request → Prop
  | stopped {t} : t.Quiet → p'.sent = p.sent → Passes inner p p' t none
  | through {t₁ t₂ t₃ : Trace} {q out p₁ p₂} :
      t₁.Quiet → p₁.sent = p.sent → (inner.call q).Runs p₁ t₂ out p₂ →
      t₃.Quiet → p'.sent = p₂.sent → Passes inner p p' (t₁ ++ t₂ ++ t₃) (some q)

/-- Quiet steps around it do not change what is passed. -/
theorem Service.Passes.wrap {inner : Service} {p p₁ p₂ p' : Progress} {t₁ t t₃ : Trace}
    {q? : Option Request} (h : inner.Passes p₁ p₂ t q?) (ht₁ : t₁.Quiet) (hp₁ : p₁.sent = p.sent)
    (ht₃ : t₃.Quiet)
    (hp' : p'.sent = p₂.sent) : inner.Passes p p' (t₁ ++ t ++ t₃) q? := by
  cases h with
  | stopped ht hp₂ =>
    refine .stopped ?_ (hp'.trans (hp₂.trans hp₁))
    exact Trace.quiet_append.mpr ⟨Trace.quiet_append.mpr ⟨ht₁, ht⟩, ht₃⟩
  | @through s₁ s₂ s₃ q out _ _ hs₁ hq₁ hcall hs₃ hq₂ =>
    have hthrough : inner.Passes p p' ((t₁ ++ s₁) ++ s₂ ++ (s₃ ++ t₃)) (some q) :=
      .through (Trace.quiet_append.mpr ⟨ht₁, hs₁⟩) (hq₁.trans hp₁) hcall
        (Trace.quiet_append.mpr ⟨hs₃, ht₃⟩) (hp'.trans hq₂)
    simpa using hthrough

/-- The steps call the service at most once, and are quiet themselves. -/
def Service.AtMostOnce {α : Type} (inner : Service) (x : Run α) : Prop :=
  ∀ p t a p', x.Runs p t a p' → ∃ q?, inner.Passes p p' t q?

namespace Service.AtMostOnce

variable {α β : Type} {inner : Service}

theorem of_quiet {x : Run α} (h : x.Quiet) : inner.AtMostOnce x := by
  intro p t a p' hruns
  obtain ⟨ht, hp'⟩ := h p t a p' hruns
  exact ⟨none, .stopped ht hp'⟩

theorem call (q : Request) : inner.AtMostOnce (inner.call q) := by
  intro p t out p' hruns
  have hthrough : inner.Passes p p' ([] ++ t ++ []) (some q) :=
    .through Trace.quiet_nil rfl hruns Trace.quiet_nil rfl
  exact ⟨some q, by simpa using hthrough⟩

theorem bind_left {x : Run α} {f : α → Run β} (hx : x.Quiet) (hf : ∀ a, inner.AtMostOnce (f a)) :
    inner.AtMostOnce (x >>= f) := by
  intro p t b p' hruns
  obtain ⟨t₁, a, p₁, t₂, rfl, h₁, h₂⟩ := Run.runs_bind.mp hruns
  obtain ⟨ht₁, hp₁⟩ := hx p t₁ a p₁ h₁
  obtain ⟨q?, hpasses⟩ := hf a p₁ t₂ b p' h₂
  exact ⟨q?, by simpa using hpasses.wrap ht₁ hp₁ Trace.quiet_nil rfl⟩

theorem bind_right {x : Run α} {f : α → Run β} (hx : inner.AtMostOnce x) (hf : ∀ a, (f a).Quiet) :
    inner.AtMostOnce (x >>= f) := by
  intro p t b p' hruns
  obtain ⟨t₁, a, p₁, t₂, rfl, h₁, h₂⟩ := Run.runs_bind.mp hruns
  obtain ⟨ht₂, hp'⟩ := hf a p₁ t₂ b p' h₂
  obtain ⟨q?, hpasses⟩ := hx p t₁ a p₁ h₁
  exact ⟨q?, by simpa using hpasses.wrap Trace.quiet_nil rfl ht₂ hp'⟩

end Service.AtMostOnce

/-- Each call of the stage calls the service inside at most once. -/
def Stage.AtMostOnce (stage : Stage) : Prop :=
  ∀ (inner : Service) q, inner.AtMostOnce ((stage inner).call q)

theorem compose_atMostOnce {stages : List Stage} (h : ∀ stage ∈ stages, stage.AtMostOnce) :
    Stage.AtMostOnce (compose stages) := by
  intro inner
  induction stages with
  | nil => exact fun q => .call q
  | cons stage stages ih =>
    have hrest : ∀ stage' ∈ stages, Stage.AtMostOnce stage' :=
      fun stage' hmem => h stage' (List.mem_cons_of_mem stage hmem)
    intro q p t out p' hruns
    obtain ⟨q?, hpasses⟩ := h stage List.mem_cons_self (compose stages inner) q p t out p' hruns
    cases hpasses with
    | stopped ht hp' => exact ⟨none, .stopped ht hp'⟩
    | through ht₁ hp₁ hcall ht₃ hp' =>
      -- The one call of the stage is a call of the stack below it, which may still stop the
      -- request.
      obtain ⟨q?, hinner⟩ := ih hrest _ _ _ _ _ hcall
      exact ⟨q?, hinner.wrap ht₁ hp₁ ht₃ hp'⟩

theorem loggingStage_atMostOnce (detail : LogDetail) (truncation : LogTruncation) :
    Stage.AtMostOnce (loggingStage detail truncation) := by
  intro inner q
  refine .bind_left (.countCall _) fun earlier => ?_
  extract_lets attempt log send
  have hsend (u : Unit) : inner.AtMostOnce (send u) := by
    refine .bind_right (.call q) fun outcome => ?_
    cases truncation with
    | shared => exact .bind (.effect rfl) fun _ => .bind (.note rfl) fun _ => .pure _
    | own truncation => exact .bind (.pure _) fun _ => .bind (.note rfl) fun _ => .pure _
  split
  · exact .bind_left (.note rfl) hsend
  · exact hsend ()

/-! ## Plans -/

namespace Plan

/-- The plan does not call the service inside, and tells no events. -/
inductive Stays : Plan → Prop
  | answer {outcome} : Stays (.answer outcome)
  | note {n rest} : (Effect.note n).isQuiet = true → Stays rest → Stays (.note n rest)

/-- The plan calls the service inside at most once, and tells no events. -/
inductive AtMostOnce : Plan → Prop
  | answer {outcome} : AtMostOnce (.answer outcome)
  | note {n rest} : (Effect.note n).isQuiet = true → AtMostOnce rest → AtMostOnce (.note n rest)
  | call {q resume} : (∀ outcome, Stays (resume outcome)) → AtMostOnce (.call q resume)

theorem Stays.quiet {plan : Plan} (h : plan.Stays) (inner : Request → Run Outcome) :
    (plan.run inner).Quiet := by
  induction h with
  | answer => exact .pure _
  | note hn _ ih => exact .bind (.note hn) fun _ => ih

theorem AtMostOnce.run {plan : Plan} (h : plan.AtMostOnce) (inner : Service) :
    inner.AtMostOnce (plan.run inner.call) := by
  induction h with
  | answer => exact .of_quiet (.pure _)
  | note hn _ ih => exact .bind_left (.note hn) fun _ => ih
  | call hstays => exact .bind_right (.call _) fun outcome => (hstays outcome).quiet inner.call

end Plan

/-- Middleware whose plans call the service inside at most once. -/
theorem Middleware.stage_atMostOnce {m : Middleware} (h : ∀ earlier q, (m earlier q).AtMostOnce) :
    Stage.AtMostOnce m.stage :=
  fun inner q => .bind_left (.countCall _) fun earlier => (h earlier q).run inner

theorem Middleware.tracing_atMostOnce (label : String) : Stage.AtMostOnce (tracing label).stage :=
  stage_atMostOnce fun _ _ => .note rfl (.call fun _ => .note rfl .answer)

end Courier
