import Courier.Proofs.Exchanges
import Courier.Proofs.Independence
/-
What a dispatch does, beyond what its middleware, its stubs and its transport
do: a few effects of its own (`Dispatch.Own`), of which fewer still belong to its
attempts (`Dispatch.Sends`). If those it was given keep within some effects, so do
its attempts (`Dispatch.attempt_confined`) and the whole dispatch
(`Dispatch.run_confined`).

A dispatch that sends no forms makes nothing of the boundaries it gets, so it
has only one outcome when it is alone (`Dispatch.run_unnumbered`).
-/
namespace Courier

variable {P : Effect → Prop}

/-! ## Steps of a dispatch -/

namespace Run

variable {α β : Type} {x : Run α}

/-- Every effect of the steps has the property, whatever the replies. -/
def Confined (P : Effect → Prop) (x : Run α) : Prop :=
  ∀ p t a p', x.Runs p t a p' → ∀ s ∈ t, P s.effect

theorem Confined.act (h : x.Confined P) (p : Progress) : (x p).Confined P :=
  fun t a hruns => h p t a.1 a.2 hruns

/-- The steps go on in the same way whatever boundaries they get. -/
def Unnumbered (x : Run α) : Prop := ∀ p, (x p).Unnumbered

theorem Unnumbered.pure (a : α) : Unnumbered (pure a : Run α) := fun _ => .done _

theorem Unnumbered.bind {f : α → Run β} (h : x.Unnumbered)
    (hf : ∀ p t a p', x.Runs p t a p' → (f a).Unnumbered) : (x >>= f).Unnumbered :=
  fun p => (h p).bind fun t a hruns => hf p t a.1 a.2 hruns a.2

theorem Confined.unnumbered (h : x.Confined (· ≠ .freshBoundary)) : x.Unnumbered :=
  fun p => (h.act p).unnumbered

end Run

namespace Dispatch

variable {d : Dispatch}

/-- The effects of a dispatch itself. -/
inductive Own : Effect → Prop
  | note (n : Notice) : Own (.note n)
  | freshBoundary : Own .freshBoundary
  | truncation : Own .truncation
  | remember (draft : Nat) (q : Request) : Own (.remember draft q)
  | record (recorder : Recorder) (q : Request) (r? : Option Response) : Own (.record recorder q r?)
  | sleep (ms : Nat) (mode : Mode) : Own (.sleep ms mode)

/-- The effects of an attempt itself. -/
inductive Sends : Effect → Prop
  | event (event : Event) : Sends (.note (.event event))
  | hooked (label : String) (q : Request) : Sends (.note (.hooked label q))
  | matched (label : String) (hit : Bool) : Sends (.note (.matched label hit))
  | freshBoundary : Sends .freshBoundary
  | remember (draft : Nat) (q : Request) : Sends (.remember draft q)
  | record (recorder : Recorder) (q : Request) (r? : Option Response) :
      Sends (.record recorder q r?)

theorem Sends.own {e : Effect} (h : Sends e) : Own e := by
  cases h with
  | freshBoundary => exact .freshBoundary
  | remember draft q => exact .remember draft q
  | record recorder q r? => exact .record recorder q r?
  | _ => exact .note _

theorem Between.own {e : Effect} (h : Between e) : Own e := by
  cases h with
  | truncation => exact .truncation
  | sleep ms mode => exact .sleep ms mode
  | _ => exact .note _

/-- What a dispatch was given has no effects but those with the property. -/
structure Within (P : Effect → Prop) (d : Dispatch) : Prop where
  middleware : ∀ stage ∈ d.middleware, stage.Mediates P
  stubs : ∀ m ∈ d.stubs, ∀ q e, (m.stub q).Performs e → P e
  transport : d.environment.transport.Confined P

/-- The stages below the middleware keep within the property, if the effects of the attempt itself
have it, too. -/
theorem sending_confined (hown : ∀ e, Sends e → e ≠ .freshBoundary → P e) (hd : d.Within P)
    (q : Request) :
    (d.sending.call q).Confined P := by
  intro p t out p' h
  obtain ⟨pass, -, -, hanswered, rfl, -⟩ := sending_call_runs.mp h
  have hannouncing : ∀ s ∈ (if d.environment.announces then
      [⟨.note (.event (.sending pass.reached)), ()⟩] else [] : Trace), P s.effect := by
    split
    · exact List.forall_mem_singleton.mpr (hown _ (.event _) (by simp))
    · simp
  have hcalling : ∀ s ∈ Hook.calling d.hooks pass.reached, P s.effect := by
    intro s hs
    obtain ⟨label, q', he⟩ := Hook.mem_calling hs
    rw [he]
    exact hown _ (.hooked _ _) (by simp)
  have hanswering : ∀ s ∈ pass.answering, P s.effect :=
    hanswered.performs (fun _ _ => hown _ (.matched _ _) (by simp)) (fun m hm _ => hd.stubs m hm _)
      fun _ => hd.transport
  have hrecording : ∀ s ∈ recording d.recorders (pass.sent d) pass.outcome, P s.effect := by
    intro s hs
    obtain ⟨recorder, -, rfl⟩ := List.mem_map.mp hs
    exact hown _ (.record _ _ _) (by simp)
  refine List.forall_mem_cons.mpr ⟨hown _ (.remember _ _) (by simp), ?_⟩
  exact List.forall_mem_append.mpr ⟨List.forall_mem_append.mpr ⟨List.forall_mem_append.mpr
    ⟨hannouncing, hcalling⟩, hanswering⟩, hrecording⟩

theorem service_confined (hown : ∀ e, Sends e → e ≠ .freshBoundary → P e) (hd : d.Within P)
    (q : Request) :
    (d.service.call q).Confined P := by
  intro p t out p' h
  rw [service_eq] at h
  obtain ⟨calls, hserves⟩ := compose_mediates hd.middleware d.sending q p t out p' h
  exact hserves.confined (sending_confined hown hd)

theorem attempt_confined (hown : ∀ e, Sends e → P e) (hd : d.Within P) (o : Options) :
    (d.attempt o).Confined P := by
  intro p t out p' h
  obtain ⟨boundary, t', rfl, ⟨f, -, rfl, -⟩ | ⟨q, t₁, outcome, p₁, -, hcall, rfl, -⟩⟩ :=
    attempt_runs.mp h
  · exact List.forall_mem_singleton.mpr (hown _ .freshBoundary)
  · refine List.forall_mem_cons.mpr
      ⟨hown _ .freshBoundary, List.forall_mem_append.mpr ⟨?_, fun s hs => ?_⟩⟩
    · exact service_confined (fun e he _ => hown e he) hd q p t₁ outcome p₁ hcall
    · obtain ⟨event, he⟩ := event_announcing q p₁.sent outcome s hs
      rw [he]
      exact hown _ (.event event)

/-- What holds of all attempts, judgings and waits holds of rounds with the waits between them. -/
theorem forall_mem_woven {Q : Step → Prop} {rounds : List Round} {pauses : List Trace}
    (hrounds : ∀ r ∈ rounds, ∀ s ∈ r.trace, Q s) (hjudging : ∀ r, ∀ s ∈ d.judging r, Q s)
    (hpauses : ∀ pause ∈ pauses, ∀ s ∈ pause, Q s) : ∀ s ∈ d.woven rounds pauses, Q s := by
  induction rounds generalizing pauses with
  | nil => simp [woven]
  | cons r rounds ih =>
    obtain ⟨hround, hrest⟩ := List.forall_mem_cons.mp hrounds
    have hhead : ∀ s ∈ pauses.headD [], Q s := by
      cases pauses with
      | nil => simp
      | cons pause pauses => exact hpauses pause List.mem_cons_self
    have htail := ih hrest fun pause hmem => hpauses pause (List.mem_of_mem_tail hmem)
    exact List.forall_mem_append.mpr ⟨List.forall_mem_append.mpr ⟨List.forall_mem_append.mpr
      ⟨hround, hjudging r⟩, hhead⟩, htail⟩

/-- A dispatch keeps within what it was given keeps within. -/
theorem run_confined (hown : ∀ e, Own e → P e) (hd : d.Within P) : d.run.Confined P := by
  intro t out h
  obtain ⟨rounds, -, p', hcourse, rfl, -⟩ := run_runs.mp h
  have hattempted := (course_iff.mp hcourse).1
  refine forall_mem_woven (fun r hr => ?_) (fun r s hs => hown _ (between_judging r s hs).own)
    fun pause hmem s hs => hown _ (between_pauses pause hmem s hs).own
  obtain ⟨i, hi⟩ := List.mem_iff_getElem?.mp hr
  obtain ⟨p₁, p₂, hattempt⟩ := hattempted.attempt_runs hi
  exact attempt_confined (fun e he => hown e he.own) hd _ _ _ _ _ hattempt

/-! ## Dispatches without forms -/

/-- The dispatch sends no parts of a form, and its retry test adds none. -/
structure Formless (d : Dispatch) : Prop where
  options : d.options.multipart.isEmpty = true
  test : ∀ test, d.retry.test? = some test → ∀ f o, o.multipart.isEmpty = true →
    (test f o).2.multipart.isEmpty = true

theorem Formless.rewritten (hd : d.Formless) {o : Options} (ho : o.multipart.isEmpty = true)
    (e : StatusError) :
    (d.rewritten o e).multipart.isEmpty = true :=
  rewritten_keeps (P := fun o => o.multipart.isEmpty = true) hd.test ho e

theorem attempt_unnumbered (hd : d.Within (· ≠ .freshBoundary)) {o : Options}
    (ho : o.multipart.isEmpty = true) :
    (d.attempt o).Unnumbered := by
  have hsettle (q : Request) (outcome : Outcome) :
      Run.Confined (· ≠ .freshBoundary)
          (Run.takeSent >>= fun sent? => d.settle q sent? outcome) := by
    intro p t out p' h s hs
    simp only [Run.runs_bind, Run.runs_takeSent, settle_runs] at h
    obtain ⟨_, sent?, _, _, rfl, ⟨rfl, rfl, rfl⟩, rfl, -⟩ := h
    obtain ⟨event, he⟩ := event_announcing q p.sent outcome s hs
    simp [he]
  have hcall (q : Request) : Run.Unnumbered (d.service.call q >>= fun outcome =>
      Run.takeSent >>= fun sent? => d.settle q sent? outcome) :=
    (service_confined (fun _ _ => id) hd q).unnumbered.bind fun _ _ outcome _ _ =>
      (hsettle q outcome).unnumbered
  unfold attempt
  -- The boundary is not used, so what follows may be built from any.
  simp only [Request.build_of_isEmpty ho _ ""]
  intro p
  refine .boundary ?_
  cases Request.build "" d.method d.url o with
  | error f => exact .done _
  | ok q => exact hcall q p

theorem judge_confined (o : Options) (outcome : Outcome) :
    (d.judge o outcome).Confined Between := by
  intro p t j p' h
  obtain ⟨truncation, rfl, -⟩ := (judge_runs []).mp h
  exact between_judging _

theorem delay_confined (n : Nat) (e : StatusError) : (d.delay n e).Confined Between := by
  intro p t ms p' h
  obtain ⟨rfl, -⟩ := delay_runs.mp h
  split
  · exact List.forall_mem_singleton.mpr (.delayComputed _ _)
  · simp

theorem attempts_unnumbered (hforms : d.Formless) (hd : d.Within (· ≠ .freshBoundary)) {mode : Mode}
    {left n : Nat} {o : Options} (ho : o.multipart.isEmpty = true) :
    (d.attempts mode left n o).Unnumbered := by
  have hbetween {α : Type} {x : Run α} (h : x.Confined Between) : x.Unnumbered := by
    refine Run.Confined.unnumbered fun p t a p' hruns s hs he => ?_
    have hs := h p t a p' hruns s hs
    rw [he] at hs
    cases hs
  have hjudge (o : Options) (outcome : Outcome) := hbetween (d.judge_confined o outcome)
  induction left generalizing n o with
  | zero =>
    refine (attempt_unnumbered hd ho).bind fun _ _ outcome _ _ => ?_
    exact (hjudge o outcome).bind fun _ _ judgement _ _ => .pure judgement.outcome
  | succ left ih =>
    refine (attempt_unnumbered hd ho).bind fun _ t outcome _ _ =>
      (hjudge o outcome).bind fun _ _ j _ h => ?_
    obtain ⟨truncation, -, rfl, -⟩ := (judge_runs t).mp h
    cases hagain : d.again? o ⟨t, outcome, truncation⟩ with
    | none => exact .pure _
    | some again =>
      obtain ⟨e, o'⟩ := again
      obtain ⟨-, -, rfl⟩ := again?_eq_some.mp hagain
      refine (hbetween (d.delay_confined n e)).bind fun _ _ ms _ _ => ?_
      refine Run.Unnumbered.bind (fun p => .perform (by simp) fun _ => .done _) fun _ _ _ _ _ => ?_
      exact ih (hforms.rewritten ho e)

theorem run_unnumbered (hforms : d.Formless) (hd : d.Within (· ≠ .freshBoundary)) :
    d.run.Unnumbered := by
  rw [run_eq]
  exact ((attempts_unnumbered hforms hd hforms.options) _).bind fun _ a _ => .done a.1

end Dispatch

end Courier
