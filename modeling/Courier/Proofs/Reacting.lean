import Courier.Proofs.Confinement
/-
What a dispatch does about a failed response, and in which order: it puts it to
the retry test, asks the guard, tells the listener and, if another attempt
follows, has the delay computed and waits (`Dispatch.run_reacts`). All of it
comes after the attempt and before the next one, and nothing of the kind is done
about any other outcome.

The error that the test, the listener and the delay are given is that of the very
response the attempt came to, summarized as the truncation that was read right after
the attempt says (`Dispatch.Reacts`).
-/
namespace Courier

/-! ## Reactions -/

/-- A function is told that was handed in for failed responses. -/
def Notice.isReaction : Notice → Bool
  | tested _ => true
  | guarded _ => true
  | raised _ _ => true
  | delayComputed _ _ => true
  | _ => false

/-- The step calls a function that was handed in for failed responses, or it waits. -/
def Effect.isReaction : Effect → Bool
  | note n => n.isReaction
  | sleep _ _ => true
  | _ => false

/-- The calls and the waits that failed responses lead to. -/
def Trace.reactions (t : Trace) : Trace := t.filter (·.effect.isReaction)

namespace Trace

variable {t t' : Trace}

@[simp] theorem reactions_append : reactions (t ++ t') = t.reactions ++ t'.reactions :=
  List.filter_append t t'

theorem reactions_eq_self (h : ∀ s ∈ t, s.effect.isReaction = true) : t.reactions = t :=
  List.filter_eq_self.mpr h

theorem reactions_eq_nil (h : ∀ s ∈ t, s.effect.isReaction = false) : t.reactions = [] := by
  refine List.filter_eq_nil_iff.mpr fun s hs => ?_
  simp [h s hs]

end Trace

namespace RetryPolicy

theorem one_le_maxAttempts (p : RetryPolicy) : 1 ≤ p.maxAttempts := by
  unfold maxAttempts attemptLimit
  cases p.tries with
  | count n => exact Nat.le_max_right _ _
  | backoff delays => exact Nat.le_min.mpr ⟨Nat.le_add_left _ _, by decide⟩

/-- No more attempts are made than the tries stand for, however they are counted. -/
theorem maxAttempts_le_allowed (p : RetryPolicy) : p.maxAttempts ≤ p.tries.allowed := by
  unfold maxAttempts Tries.allowed
  cases p.tries with
  | count n => exact Nat.le_refl _
  | backoff delays => exact Nat.min_le_left _ _

end RetryPolicy

namespace Dispatch

variable {d : Dispatch} {o : Options} {rounds : List Round} {t : Trace}

/-! ## One round -/

/-- `d.Reacts r t`: what the dispatch does about the outcome of a round. -/
inductive Reacts (d : Dispatch) (r : Round) : Trace → Prop
  | unrelated : r.Unrelated → Reacts d r []
  | unfailed {response} : r.response? = some response → response.failed = false → Reacts d r []
  | failed {e} : r.response? = some e.response → e.response.failed = true →
      e.summary = Summary.of? e.response.body r.truncation →
        Reacts d r (d.testing e ++ d.guarding e ++ d.raising e)

/-- What the dispatch does about the outcome of a round. -/
def reacting (d : Dispatch) (r : Round) : Trace :=
  match r.error? with
  | some e => d.testing e ++ d.guarding e ++ d.raising e
  | none => []

theorem reacts_iff {r : Round} : d.Reacts r t ↔ t = d.reacting r := by
  unfold reacting
  constructor
  · intro h
    cases h with
    | unrelated h => rw [Round.error?_eq_none.mpr (.inl (Round.response?_eq_none.mpr h))]
    | unfailed hr hf => rw [Round.error?_eq_none.mpr (.inr ⟨_, hr, hf⟩)]
    | failed hr hf hs => rw [Round.error?_eq_some.mpr ⟨hr, hf, hs⟩]
  · rintro rfl
    cases he : r.error? with
    | some e =>
      obtain ⟨hr, hf, hs⟩ := Round.error?_eq_some.mp he
      exact .failed hr hf hs
    | none =>
      rcases Round.error?_eq_none.mp he with hr | ⟨response, hr, hf⟩
      · exact .unrelated (Round.response?_eq_none.mp hr)
      · exact .unfailed hr hf

/-- An outcome is judged by the truncation in force, which is read first. -/
theorem judging_eq (r : Round) :
    d.judging r = (if r.response?.isSome then [⟨.truncation, r.truncation⟩] else []) ++
      d.reacting r := by
  unfold judging reacting
  cases hr : r.response? with
  | none => simp [Round.error?_eq_none.mpr (.inl hr)]
  | some response => cases r.error? <;> simp

theorem isReaction_reacting (r : Round) : ∀ s ∈ d.reacting r, s.effect.isReaction = true := by
  have htesting (e : StatusError) : ∀ s ∈ d.testing e, s.effect.isReaction = true := by
    unfold testing
    split <;> simp [Effect.isReaction, Notice.isReaction]
  have hguarding (e : StatusError) : ∀ s ∈ d.guarding e, s.effect.isReaction = true := by
    unfold guarding
    split <;> simp [Effect.isReaction, Notice.isReaction]
  have hraising (e : StatusError) : ∀ s ∈ d.raising e, s.effect.isReaction = true := by
    unfold raising
    split
    · split <;> simp [Effect.isReaction, Notice.isReaction]
    · simp
  unfold reacting
  split
  · next e _ =>
    exact List.forall_mem_append.mpr
      ⟨List.forall_mem_append.mpr ⟨htesting e, hguarding e⟩, hraising e⟩
  · simp

theorem reactions_judging (r : Round) : (d.judging r).reactions = d.reacting r := by
  have hreading :
      Trace.reactions (if r.response?.isSome then [⟨.truncation, r.truncation⟩] else []) = [] := by
    split <;> rfl
  rw [judging_eq, Trace.reactions_append, hreading, List.nil_append,
    Trace.reactions_eq_self (isReaction_reacting r)]

theorem Pause.isReaction {n : Nat} {e : StatusError} {pause : Trace} (h : d.Pause n e pause) :
    ∀ s ∈ pause, s.effect.isReaction = true := by
  cases h <;> simp [Effect.isReaction, Notice.isReaction]

/-! ## All rounds -/

/-- What is done for each round with the waits between the rounds, one after another. -/
def interspersed (f : Round → Trace) (rounds : List Round) (pauses : List Trace) : Trace :=
  (List.zipWith (fun r pause => f r ++ pause) rounds (pauses ++ [[]])).flatten

theorem interspersed_cons (f : Round → Trace) (r : Round) (pause : Trace) (pauses : List Trace) :
    interspersed f (r :: rounds) (pause :: pauses) =
      f r ++ pause ++ interspersed f rounds pauses := by
  simp [interspersed]

theorem woven_eq {pauses : List Trace} (h : pauses.length + 1 = rounds.length) :
    d.woven rounds pauses = interspersed (fun r => r.trace ++ d.judging r) rounds pauses := by
  induction rounds generalizing pauses with
  | nil => cases h
  | cons r rounds ih =>
    cases pauses with
    | nil =>
      obtain rfl := List.length_eq_zero_iff.mp (Nat.succ.inj h).symm
      simp [woven, interspersed]
    | cons pause pauses =>
      rw [woven, interspersed_cons, ← ih (Nat.succ.inj h)]
      rfl

/-- The reactions of rounds with waits are those of each round, and the waits. -/
theorem reactions_interspersed {f g : Round → Trace} {pauses : List Trace}
    (hlength : pauses.length + 1 = rounds.length) (hrounds : ∀ r ∈ rounds, (f r).reactions = g r)
    (hpauses : ∀ pause ∈ pauses, pause.reactions = pause) :
    (interspersed f rounds pauses).reactions = interspersed g rounds pauses := by
  induction rounds generalizing pauses with
  | nil => cases hlength
  | cons r rounds ih =>
    obtain ⟨hround, hrest⟩ := List.forall_mem_cons.mp hrounds
    cases pauses with
    | nil =>
      obtain rfl := List.length_eq_zero_iff.mp (Nat.succ.inj hlength).symm
      simpa [interspersed] using hround
    | cons pause pauses =>
      obtain ⟨hpause, hothers⟩ := List.forall_mem_cons.mp hpauses
      have htail := ih (Nat.succ.inj hlength) hrest hothers
      rw [interspersed_cons, interspersed_cons, Trace.reactions_append, Trace.reactions_append,
        hround, hpause, htail]

/-- The rounds of a dispatch, with the waits between them as the policy asks for them. -/
theorem exists_rounds {out : Outcome} (h : d.run.Runs t out) : ∃ rounds pauses p',
    d.Attempted d.options Progress.start rounds p' ∧ rounds.length ≤ d.retry.maxAttempts ∧
      d.Paused rounds pauses ∧
      t = interspersed (fun r => r.trace ++ d.judging r) rounds pauses := by
  obtain ⟨rounds, -, p', hcourse, rfl, -⟩ := run_runs.mp h
  obtain ⟨hattempted, hne, hlength, hgo, -⟩ := course_iff.mp hcourse
  rw [Nat.sub_add_cancel d.retry.one_le_maxAttempts] at hlength
  have hallowed := Nat.le_trans hlength d.retry.maxAttempts_le_allowed
  have hpaused :=
    (paused_iff hne hallowed fun i r hi hr => error?_of_not_settles (hgo i r hi hr)).mpr rfl
  exact ⟨rounds, _, p', hattempted, hlength, hpaused, woven_eq hpaused.1⟩

/-- The middleware and the transport leave reactions to the dispatch. -/
structure Impassive (d : Dispatch) : Prop where
  middleware : ∀ stage ∈ d.middleware, stage.Mediates (·.isReaction = false)
  transport : d.environment.transport.Confined (·.isReaction = false)

/-- Stubs leave them to the dispatch in any case. -/
theorem Impassive.within (hd : d.Impassive) : d.Within (·.isReaction = false) where
  middleware := hd.middleware
  stubs := by
    intro m _ q e he
    cases he <;> rfl
  transport := hd.transport

theorem Attempted.reactions_eq_nil {p p' : Progress} (hd : d.Impassive)
    (h : d.Attempted o p rounds p') :
    ∀ r ∈ rounds, r.trace.reactions = [] := by
  intro r hr
  obtain ⟨i, hi⟩ := List.mem_iff_getElem?.mp hr
  obtain ⟨p₁, p₂, hattempt⟩ := h.attempt_runs hi
  have hsends : ∀ e, Sends e → e.isReaction = false := by
    intro e he
    cases he <;> rfl
  exact Trace.reactions_eq_nil (attempt_confined hsends hd.within _ p₁ r.trace
    r.outcome p₂ hattempt)

/-- Every run of a dispatch comes to its end. What it does about the outcomes of its attempts is
done attempt by attempt, each time between reading the truncation and the next attempt: the test,
the guard and the listener for a failed response, on the last attempt too, and a wait exactly if
another attempt follows. Nothing else in the run is a reaction, unless the middleware or the
transport has some of its own. -/
theorem run_reacts (d : Dispatch) :
    (∀ oracle past, d.run.Runs (d.run.play oracle past).1 (d.run.play oracle past).2) ∧
    ∀ t out, d.run.Runs t out → ∃ rounds pauses p',
      d.Attempted d.options Progress.start rounds p' ∧
      rounds.length ≤ d.retry.maxAttempts ∧
      d.Paused rounds pauses ∧
      t = interspersed (fun r => r.trace ++
        ((if r.response?.isSome then [⟨.truncation, r.truncation⟩] else []) ++ d.reacting r))
          rounds pauses ∧
      (∀ r ∈ rounds, d.Reacts r (d.reacting r)) ∧
      (d.Impassive → t.reactions = interspersed d.reacting rounds pauses) := by
  refine ⟨fun oracle past => Act.runs_play oracle d.run past, fun t out h => ?_⟩
  obtain ⟨rounds, pauses, p', hattempted, hlength, hpaused, ht⟩ := exists_rounds h
  refine ⟨rounds, pauses, p', hattempted, hlength, hpaused, ?_,
    fun r _ => reacts_iff.mpr rfl, fun hd => ?_⟩
  · rw [ht]
    simp only [judging_eq]
  · rw [ht]
    refine reactions_interspersed hpaused.1 (fun r hr => ?_) fun pause hmem => ?_
    · rw [Trace.reactions_append, hattempted.reactions_eq_nil hd r hr, reactions_judging,
        List.nil_append]
    · obtain ⟨i, hi⟩ := List.mem_iff_getElem?.mp hmem
      obtain ⟨r, e, -, -, hpause⟩ := hpaused.2 i pause hi
      exact Trace.reactions_eq_self hpause.isReaction

/-- The dispatch to a service that is never available, with a function for everything that is done
about it. -/
def alarmed : Dispatch :=
  { unavailable (.count 2) with
    middleware := [loggingStage .outcomes .shared]
    retry := ⟨.count 2, .growing 10 1, true, some fun _ o => (true, o)⟩
    throwing := ⟨true, some fun r => r.status == 503, some "pager"⟩
    environment := ⟨Script.transport ⟨[], .ok (.ofStatus 503)⟩, true⟩ }

/-- Three calls for each attempt, and the delay and a wait in between. -/
theorem run_reacts_alarmed : alarmed.Impassive ∧ ∃ t out rounds pauses,
    alarmed.run.Runs t out ∧ t.reactions = interspersed alarmed.reacting rounds pauses ∧
      (∀ r ∈ rounds, alarmed.Reacts r (alarmed.reacting r)) ∧ t.reactions.length = 8 := by
  have hd : alarmed.Impassive := by
    refine ⟨fun stage hmem => ?_, ?_⟩
    · obtain rfl := List.mem_singleton.mp hmem
      refine loggingStage_mediates (fun _ => ?_) ?_ _ _ <;> rfl
    · exact Script.transport_confined (fun _ => rfl) _
  obtain ⟨hends, hruns⟩ := run_reacts alarmed
  have hrun := hends (fun _ e => ((World.initial .default true .unreachable).answer e).1) []
  obtain ⟨rounds, pauses, p', -, -, -, -, hreacts, hreactions⟩ := hruns _ _ hrun
  refine ⟨hd, _, _, rounds, pauses, hrun, hreactions hd, hreacts, ?_⟩
  decide +kernel

end Dispatch

end Courier
