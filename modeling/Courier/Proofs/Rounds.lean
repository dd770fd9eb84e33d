import Courier.Dispatch
import Courier.Proofs.Runs
/-
A run of a dispatch is a list of rounds: an attempt, the judging of its
outcome and, if another round follows, the wait before it. What is done
between the attempts depends on nothing but their outcomes, so a run is known
once its rounds are.

* `Dispatch.attempt_runs`, `Dispatch.judge_runs`: what one attempt and one
  judging can do.
* `Dispatch.run_runs`: a run of a dispatch is the course of its rounds, and
  every course is a run.
-/
namespace Courier

/-- An attempt with its outcome, and the truncation in force when that was judged. -/
structure Round where
  trace : Trace
  outcome : Outcome
  truncation : Truncation

namespace Round

/-- The response that is judged, if the attempt came to one. -/
def response? (r : Round) : Option Response := (Dispatch.judged? r.outcome).toOption

/-- The error that the attempt ended with, if its response failed. -/
def error? (r : Round) : Option StatusError := r.response?.bind (StatusError.of? · r.truncation)

end Round

namespace Dispatch

variable {d : Dispatch} {o : Options} {p p' : Progress} {t : Trace}

/-! ## One attempt -/

/-- What those who listen are told of an outcome. -/
def announcing (d : Dispatch) (q : Request) (sent? : Option Request) : Outcome → Trace
  | .ok r =>
    match sent? with
    | some sent =>
      if d.environment.announces then
        [⟨.note (.event (.received sent (r.attachCookies (Cookie.ofHeaders r.headers)))), ()⟩]
      else []
    | none => []
  | .error (.connection f) =>
    if d.environment.announces then
      [⟨.note (.event (.connectionFailed (sent?.getD q) f)), ()⟩] else []
  | .error _ => []

/-- The outcome of an attempt, given that of its request. -/
def settled : Outcome → Outcome
  | .ok r => .ok (r.attachCookies (Cookie.ofHeaders r.headers))
  | .error f => .error f

theorem settle_runs {q : Request} {sent? : Option Request} {outcome out : Outcome} :
    (d.settle q sent? outcome).Runs p t out p' ↔
      t = d.announcing q sent? outcome ∧ out = settled outcome ∧ p' = p := by
  unfold settle announcing settled publish
  cases outcome with
  | ok r =>
    cases sent? with
    | none => simp
    | some sent =>
      cases d.environment.announces with
      | true =>
        simp [and_assoc, and_comm, and_left_comm]
      | false => simp
  | error f =>
    cases f with
    | connection f =>
      cases d.environment.announces with
      | true =>
        simp [and_assoc, and_comm, and_left_comm]
      | false => simp
    | _ => simp

/-- An attempt gets a boundary and builds its request. One that cannot be built ends it; else the
service answers the request, and what the service kept as sent is taken away. -/
theorem attempt_runs {out : Outcome} : (d.attempt o).Runs p t out p' ↔
    ∃ boundary t', t = ⟨.freshBoundary, boundary⟩ :: t' ∧
      ((∃ f, Request.build boundary d.method d.url o = .error f ∧ t' = [] ∧
        out = .error f ∧ p' = p) ∨
        ∃ q t₁ outcome p₁, Request.build boundary d.method d.url o = .ok q ∧
          (d.service.call q).Runs p t₁ outcome p₁ ∧ t' = t₁ ++ d.announcing q p₁.sent outcome ∧
          out = settled outcome ∧ p' = { p₁ with sent := none }) := by
  unfold attempt
  rw [Run.runs_bind]
  constructor
  · intro h
    obtain ⟨t₁, boundary, p₁, t', rfl, h₁, h⟩ := h
    obtain ⟨rfl, rfl⟩ := Run.runs_effect.mp h₁
    refine ⟨boundary, t', rfl, ?_⟩
    cases hbuild : Request.build boundary d.method d.url o with
    | error f => exact .inl ⟨f, rfl, by simpa [hbuild] using h⟩
    | ok q =>
      simp only [hbuild, Run.runs_bind, Run.runs_takeSent, settle_runs] at h
      obtain ⟨t₂, outcome, p₂, t₃, rfl, hcall, t₄, sent?, p₃, t₅, rfl, ⟨rfl, rfl, rfl⟩, rfl,
        rfl, rfl⟩ := h
      exact .inr ⟨q, t₂, outcome, p₂, rfl, hcall, rfl, rfl, rfl⟩
  · intro h
    obtain ⟨boundary, t', rfl, h⟩ := h
    refine ⟨[⟨.freshBoundary, boundary⟩], boundary, p, t', rfl, Run.runs_effect.mpr ⟨rfl, rfl⟩, ?_⟩
    obtain ⟨f, hbuild, rfl, rfl, rfl⟩ | ⟨q, t₁, outcome, p₁, hbuild, hcall, rfl, rfl, rfl⟩ := h
    · simp [hbuild]
    · simp only [hbuild, Run.runs_bind, Run.runs_takeSent, settle_runs]
      exact ⟨t₁, outcome, p₁, _, rfl, hcall, [], _, _, _, rfl, ⟨rfl, rfl, rfl⟩, rfl, rfl, rfl⟩

/-! ## Judging -/

/-- The retry test wants another attempt, or there is no test. -/
def wantsAnother (d : Dispatch) (o : Options) (e : StatusError) : Bool :=
  match d.retry.test? with
  | some test => (test (.http e) o).1
  | none => true

/-- The options as the retry test leaves them. -/
def rewritten (d : Dispatch) (o : Options) (e : StatusError) : Options :=
  match d.retry.test? with
  | some test => (test (.http e) o).2
  | none => o

/-- Throwing is on, and the guard accepts the response if there is one. -/
def throws (d : Dispatch) (e : StatusError) : Bool :=
  d.throwing.onFailure && d.throwing.guard?.all fun guard => guard e.response

/-- A failed response comes back as an error if no other attempt follows. -/
def fails (d : Dispatch) (e : StatusError) : Bool :=
  d.throws e || (1 < d.retry.maxAttempts && d.retry.throwOnExhaustion)

/-- The call of the retry test. -/
def testing (d : Dispatch) (e : StatusError) : Trace :=
  if d.retry.test?.isSome then [⟨.note (.tested (.http e)), ()⟩] else []

/-- The call of the guard. -/
def guarding (d : Dispatch) (e : StatusError) : Trace :=
  if d.throwing.onFailure && d.throwing.guard?.isSome then [⟨.note (.guarded e.response), ()⟩]
  else []

/-- The call of the listener. -/
def raising (d : Dispatch) (e : StatusError) : Trace :=
  match d.throwing.listener? with
  | some listener => if d.throws e then [⟨.note (.raised listener e), ()⟩] else []
  | none => []

/-- The steps in which the outcome of a round is judged. -/
def judging (d : Dispatch) (r : Round) : Trace :=
  match r.response?, r.error? with
  | none, _ => []
  | some _, none => [⟨.truncation, r.truncation⟩]
  | some _, some e => ⟨.truncation, r.truncation⟩ :: (d.testing e ++ d.guarding e ++ d.raising e)

/-- What a dispatch ends with if a round is its last one. -/
def verdict (d : Dispatch) (r : Round) : Outcome :=
  match r.response?, r.error? with
  | none, _ => r.outcome
  | some response, none => .ok response
  | some _, some e => if d.fails e then .error (.http e) else .ok e.response

/-- What another attempt would start from, if one is wanted after a round that began with the
options `o`. -/
def again? (d : Dispatch) (o : Options) (r : Round) : Option (StatusError × Options) :=
  r.error?.bind fun e => if d.wantsAnother o e then some (e, d.rewritten o e) else none

theorem test_runs {e : StatusError} {a : Bool × Options} :
    (d.test e o).Runs p t a p' ↔ t = d.testing e ∧
      a = (d.wantsAnother o e, d.rewritten o e) ∧ p' = p := by
  unfold test testing wantsAnother rewritten
  cases d.retry.test? with
  | none => simp
  | some test => simp [and_assoc, and_comm, and_left_comm]

theorem raises_runs {e : StatusError} {b : Bool} :
    (d.raises e).Runs p t b p' ↔ t = d.guarding e ++ d.raising e ∧ b = d.throws e ∧ p' = p := by
  unfold raises guarding raising throws
  cases d.throwing.onFailure with
  | false => cases d.throwing.listener? <;> simp
  | true =>
    cases d.throwing.guard? with
    | none =>
      cases d.throwing.listener? with
      | none => simp
      | some listener => simp [and_assoc, and_comm]
    | some guard =>
      cases hg : guard e.response with
      | false => cases d.throwing.listener? <;> simp [hg, and_assoc, and_comm]
      | true =>
        cases d.throwing.listener? with
        | none => simp [hg, and_assoc, and_comm]
        | some listener => simp [hg, and_assoc, and_comm, and_left_comm]

theorem judgeFailed_runs {e : StatusError} {j : Judgement} :
    (d.judgeFailed o e).Runs p t j p' ↔ t = d.testing e ++ d.guarding e ++ d.raising e ∧
      j = ⟨if d.fails e then .error (.http e) else .ok e.response,
        if d.wantsAnother o e then some (e, d.rewritten o e) else none⟩ ∧ p' = p := by
  simp only [judgeFailed, Run.runs_bind, test_runs, raises_runs, Run.runs_pure]
  constructor
  · intro h
    obtain ⟨t₁, again, p₁, t₂, rfl, ⟨rfl, rfl, rfl⟩, t₃, raised, p₂, t₄, rfl, ⟨rfl, rfl, rfl⟩, rfl,
      rfl, rfl⟩ := h
    exact ⟨by simp, rfl, rfl⟩
  · intro h
    obtain ⟨rfl, rfl, rfl⟩ := h
    exact ⟨_, _, p', _, List.append_assoc .., ⟨rfl, rfl, rfl⟩, _, _, p', [],
      (List.append_nil _).symm, ⟨rfl, rfl, rfl⟩, rfl, rfl, rfl⟩

theorem judged?_eq_error {outcome : Outcome} {f : Failure} (h : judged? outcome = .error f) :
    outcome = .error f := by
  unfold judged? at h
  split at h <;> simp_all

/-- Judging reads the truncation in force, if there is a response, and does what that makes of the
outcome. -/
theorem judge_runs {outcome : Outcome} {j : Judgement} (own : Trace) :
    (d.judge o outcome).Runs p t j p' ↔ ∃ truncation, t = d.judging ⟨own, outcome, truncation⟩ ∧
      j = ⟨d.verdict ⟨own, outcome, truncation⟩, d.again? o ⟨own, outcome, truncation⟩⟩ ∧
        p' = p := by
  cases hj : judged? outcome with
  | error f =>
    obtain rfl := judged?_eq_error hj
    have hr (truncation : Truncation) : Round.response? ⟨own, .error f, truncation⟩ = none := by
      simp [Round.response?, hj, Except.toOption]
    have he (truncation : Truncation) : Round.error? ⟨own, .error f, truncation⟩ = none := by
      simp [Round.error?, hr]
    simp only [judge, judging, verdict, again?, hj, hr, he, Run.runs_pure]
    exact ⟨fun h => ⟨.default, h⟩, fun h => h.elim fun _ h => h⟩
  | ok response =>
    have hr (truncation : Truncation) : Round.response? ⟨own, outcome, truncation⟩ =
        some response := by
      simp [Round.response?, hj, Except.toOption]
    have he (truncation : Truncation) :
        Round.error? ⟨own, outcome, truncation⟩ = StatusError.of? response truncation := by
      simp [Round.error?, hr]
    simp only [judge, judging, verdict, again?, hj, hr, he]
    rw [Run.runs_bind]
    constructor
    · intro h
      obtain ⟨t₁, truncation, p₁, t₂, rfl, h₁, h₂⟩ := h
      obtain ⟨rfl, rfl⟩ := Run.runs_effect.mp h₁
      refine ⟨truncation, ?_⟩
      cases hof : StatusError.of? response truncation with
      | none => simpa [hof] using h₂
      | some e => simpa [hof, judgeFailed_runs] using h₂
    · intro h
      obtain ⟨truncation, ht, hjudgement, rfl⟩ := h
      cases hof : StatusError.of? response truncation with
      | none =>
        refine ⟨_, truncation, _, [], ?_, Run.runs_effect.mpr ⟨rfl, rfl⟩, ?_⟩
        · simpa [hof] using ht
        · simpa [hof] using hjudgement
      | some e =>
        refine ⟨_, truncation, _, d.testing e ++ d.guarding e ++ d.raising e, ?_,
          Run.runs_effect.mpr ⟨rfl, rfl⟩, ?_⟩
        · simpa [hof] using ht
        · simpa [hof, judgeFailed_runs] using hjudgement

/-! ## The loop -/

/-- The attempts from the one with number `n` on; `left` more are allowed after it. -/
def attempts (d : Dispatch) (mode : Mode) : (left n : Nat) → Options → Run Outcome
  | 0, _, o => do
    let judgement ← d.judge o (← d.attempt o)
    pure judgement.outcome
  | left + 1, n, o => do
    let judgement ← d.judge o (← d.attempt o)
    match judgement.again? with
    | none => pure judgement.outcome
    | some (e, o) => do
      let ms ← d.delay n e
      Run.effect (.sleep ms mode)
      attempts d mode left (n + 1) o

theorem attemptsBlocking_eq (left n : Nat) (o : Options) :
    d.attemptsBlocking left n o = d.attempts .blocking left n o := by
  induction left generalizing n o with
  | zero => rfl
  | succ left ih =>
    refine bind_congr fun outcome => bind_congr fun judgement => ?_
    cases judgement.again? with
    | none => rfl
    | some again => exact bind_congr fun ms => bind_congr fun _ => ih (n + 1) again.2

theorem attemptsAsync_eq (left n : Nat) (o : Options) :
    d.attemptsAsync left n o = d.attempts .async left n o := by
  induction left generalizing n o with
  | zero => rfl
  | succ left ih =>
    refine bind_congr fun outcome => bind_congr fun judgement => ?_
    cases judgement.again? with
    | none => rfl
    | some again => exact bind_congr fun ms => bind_congr fun _ => ih (n + 1) again.2

/-- Whoever waits, the attempts are made in the same way. -/
theorem run_eq (d : Dispatch) :
    d.run = (d.attempts d.mode (d.retry.maxAttempts - 1) 1 d.options).run' Progress.start := by
  unfold run
  cases hmode : d.mode with
  | blocking => rw [runBlocking, attemptsBlocking_eq]
  | async => rw [runAsync, attemptsAsync_eq]

/-! ## Courses -/

/-- What is done before the attempt that follows the one with number `n`. -/
def waiting (d : Dispatch) (mode : Mode) (n : Nat) (e : StatusError) : Trace :=
  (if d.retry.computesDelay n then [⟨.note (.delayComputed n (.http e)), ()⟩] else []) ++
    [⟨.sleep (d.retry.delayFor n (.http e)) mode, ()⟩]

/-- The waits between rounds, the first of which has number `n`. -/
def pauses (d : Dispatch) (mode : Mode) : (n : Nat) → List Round → List Trace
  | n, r :: r' :: rounds =>
    (r.error?.map (d.waiting mode n)).getD [] :: pauses d mode (n + 1) (r' :: rounds)
  | _, _ => []

/-- Rounds with the waits between them. -/
def woven (d : Dispatch) : List Round → List Trace → Trace
  | [], _ => []
  | r :: rounds, pauses => r.trace ++ d.judging r ++ pauses.headD [] ++ woven d rounds pauses.tail

/-- `d.Course left o p rounds p'`: rounds that follow one another, the first of which begins with
the options `o`, and no more than `left` after it. -/
inductive Course (d : Dispatch) : (left : Nat) → Options → Progress → List Round → Progress → Prop
  | last {left o p r p'} :
      (d.attempt o).Runs p r.trace r.outcome p' → (left = 0 ∨ d.again? o r = none) →
      Course d left o p [r] p'
  | next {left o p r p₁ e o' rounds p'} : (d.attempt o).Runs p r.trace r.outcome p₁ →
      d.again? o r = some (e, o') → Course d left o' p₁ rounds p' →
        Course d (left + 1) o p (r :: rounds) p'

theorem Course.ne_nil {left : Nat} {rounds : List Round} (h : d.Course left o p rounds p') :
    rounds ≠ [] := by
  cases h <;> simp

theorem again?_eq_some {r : Round} {e : StatusError} {o' : Options} :
    d.again? o r = some (e, o') ↔ r.error? = some e ∧ d.wantsAnother o e = true ∧
      o' = d.rewritten o e := by
  simp only [again?, Option.bind_eq_some_iff]
  constructor
  · intro h
    obtain ⟨e', he, h⟩ := h
    split at h
    · next hw =>
      simp only [Option.some.injEq, Prod.mk.injEq] at h
      obtain ⟨rfl, rfl⟩ := h
      exact ⟨he, hw, rfl⟩
    · simp at h
  · intro h
    obtain ⟨he, hw, rfl⟩ := h
    exact ⟨e, he, by simp [hw]⟩

theorem delay_runs {n : Nat} {e : StatusError} {ms : Nat} :
    (d.delay n e).Runs p t ms p' ↔
      t = (if d.retry.computesDelay n then [⟨.note (.delayComputed n (.http e)), ()⟩] else []) ∧
        ms = d.retry.delayFor n (.http e) ∧ p' = p := by
  unfold delay
  split
  · simp [and_assoc, and_comm, and_left_comm]
  · simp

/-- An attempt and its judging, where nothing follows. -/
theorem attempts_zero_runs {mode : Mode} {n : Nat} {out : Outcome} :
    (d.attempts mode 0 n o).Runs p t out p' ↔ ∃ r : Round,
      (d.attempt o).Runs p r.trace r.outcome p' ∧ t = r.trace ++ d.judging r ∧
        out = d.verdict r := by
  simp only [attempts, Run.runs_bind, Run.runs_pure]
  constructor
  · intro h
    obtain ⟨t₁, outcome, p₁, t₂, rfl, hattempt, t₃, j, p₂, t₄, rfl, hjudge, rfl, rfl, rfl⟩ := h
    obtain ⟨truncation, rfl, rfl, rfl⟩ := (judge_runs t₁).mp hjudge
    exact ⟨⟨t₁, outcome, truncation⟩, hattempt, by simp, rfl⟩
  · intro h
    obtain ⟨⟨t₁, outcome, truncation⟩, hattempt, rfl, rfl⟩ := h
    exact ⟨t₁, outcome, p', _, rfl, hattempt, _, _, p', [], by simp,
      (judge_runs t₁).mpr ⟨truncation, rfl, rfl, rfl⟩, rfl, rfl, rfl⟩

/-- An attempt and its judging, and either nothing follows or a wait and the attempts after it. -/
theorem attempts_succ_runs {mode : Mode} {left n : Nat} {out : Outcome} :
    (d.attempts mode (left + 1) n o).Runs p t out p' ↔ ∃ (r : Round) (p₁ : Progress) (rest : Trace),
      (d.attempt o).Runs p r.trace r.outcome p₁ ∧ t = r.trace ++ d.judging r ++ rest ∧
        ((d.again? o r = none ∧ rest = [] ∧ out = d.verdict r ∧ p' = p₁) ∨
          ∃ e o' t', d.again? o r = some (e, o') ∧ rest = d.waiting mode n e ++ t' ∧
            (d.attempts mode left (n + 1) o').Runs p₁ t' out p') := by
  simp only [attempts, Run.runs_bind]
  constructor
  · intro h
    obtain ⟨t₁, outcome, p₁, t₂, rfl, hattempt, t₃, j, p₂, t₄, rfl, hjudge, hnext⟩ := h
    obtain ⟨truncation, rfl, rfl, rfl⟩ := (judge_runs t₁).mp hjudge
    refine ⟨⟨t₁, outcome, truncation⟩, p₂, t₄, hattempt, by simp, ?_⟩
    cases hagain : d.again? o ⟨t₁, outcome, truncation⟩ with
    | none => exact .inl (by simpa [hagain] using hnext)
    | some again =>
      refine .inr ⟨again.1, again.2, ?_⟩
      simp only [hagain, Run.runs_bind, delay_runs, Run.runs_sleep] at hnext
      obtain ⟨t₅, ms, p₃, t₆, rfl, ⟨rfl, rfl, rfl⟩, t₇, u, p₄, t₈, rfl, ⟨rfl, rfl⟩, hrest⟩ := hnext
      exact ⟨t₈, rfl, by simp [waiting], hrest⟩
  · intro h
    obtain ⟨⟨t₁, outcome, truncation⟩, p₁, rest, hattempt, rfl, hnext⟩ := h
    refine ⟨t₁, outcome, p₁, _, List.append_assoc .., hattempt, _, _, p₁, rest, rfl,
      (judge_runs t₁).mpr ⟨truncation, rfl, rfl, rfl⟩, ?_⟩
    obtain ⟨hagain, rfl, rfl, rfl⟩ | ⟨e, o', t', hagain, rfl, hrest⟩ := hnext
    · simp [hagain]
    · simp only [hagain, Run.runs_bind, delay_runs, Run.runs_sleep]
      exact ⟨_, _, p₁, _, List.append_assoc .., ⟨rfl, rfl, rfl⟩, _, (), p₁, t', rfl,
        ⟨rfl, rfl⟩, hrest⟩

/-- What the attempts do is the course of some rounds, and every course is done by them. -/
theorem attempts_runs {mode : Mode} {left n : Nat} {out : Outcome} :
    (d.attempts mode left n o).Runs p t out p' ↔ ∃ rounds r, d.Course left o p rounds p' ∧
      t = d.woven rounds (d.pauses mode n rounds) ∧ rounds.getLast? = some r ∧
        out = d.verdict r := by
  induction left generalizing n o p t with
  | zero =>
    rw [attempts_zero_runs]
    constructor
    · intro h
      obtain ⟨r, hattempt, rfl, rfl⟩ := h
      exact ⟨[r], r, .last hattempt (.inl rfl), by simp [woven, pauses], rfl, rfl⟩
    · intro h
      obtain ⟨rounds, r, hcourse, rfl, hlast, rfl⟩ := h
      cases hcourse with
      | last hattempt =>
        obtain rfl := Option.some.inj hlast
        exact ⟨_, hattempt, by simp [woven, pauses], rfl⟩
  | succ left ih =>
    rw [attempts_succ_runs]
    constructor
    · intro h
      obtain ⟨r, p₁, rest, hattempt, rfl, ⟨hagain, rfl, rfl, rfl⟩ |
        ⟨e, o', t', hagain, rfl, hrest⟩⟩ := h
      · exact ⟨[r], r, .last hattempt (.inr hagain), by simp [woven, pauses], rfl, rfl⟩
      · obtain ⟨rounds, r', hcourse, rfl, hlast, rfl⟩ := ih.mp hrest
        refine ⟨r :: rounds, r', .next hattempt hagain hcourse, ?_, ?_, rfl⟩
        · cases rounds with
          | nil => exact absurd rfl hcourse.ne_nil
          | cons r'' rounds => simp [woven, pauses, (again?_eq_some.mp hagain).1]
        · simp [List.getLast?_cons, hlast]
    · intro h
      obtain ⟨rounds, r', hcourse, rfl, hlast, rfl⟩ := h
      cases hcourse with
      | last hattempt hagain =>
        obtain rfl := Option.some.inj hlast
        exact ⟨_, p', [], hattempt, by simp [woven, pauses],
          .inl ⟨by simpa using hagain, rfl, rfl, rfl⟩⟩
      | @next _ _ _ r p₁ e o' rounds _ hattempt hagain hcourse =>
        refine ⟨r, p₁, d.waiting mode n e ++ d.woven rounds (d.pauses mode (n + 1) rounds),
          hattempt, ?_, .inr ⟨e, o', _, hagain, rfl, ih.mpr ⟨rounds, r', hcourse, rfl, ?_, rfl⟩⟩⟩
        · cases rounds with
          | nil => exact absurd rfl hcourse.ne_nil
          | cons r'' rounds => simp [woven, pauses, (again?_eq_some.mp hagain).1]
        · cases rounds with
          | nil => exact absurd rfl hcourse.ne_nil
          | cons r'' rounds => simpa [List.getLast?_cons_cons] using hlast

/-- A run of a dispatch is the course of its rounds. -/
theorem run_runs {out : Outcome} : d.run.Runs t out ↔ ∃ rounds r p',
    d.Course (d.retry.maxAttempts - 1) d.options Progress.start rounds p' ∧
      t = d.woven rounds (d.pauses d.mode 1 rounds) ∧ rounds.getLast? = some r ∧
        out = d.verdict r := by
  rw [run_eq, Run.runs_run']
  simp only [attempts_runs]
  constructor
  · intro h
    obtain ⟨p', rounds, r, h⟩ := h
    exact ⟨rounds, r, p', h⟩
  · intro h
    obtain ⟨rounds, r, p', h⟩ := h
    exact ⟨p', rounds, r, h⟩

end Dispatch

end Courier
