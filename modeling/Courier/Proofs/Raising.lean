import Courier.Proofs.Retrying
import Courier.Proofs.Shadowing
/-
Dispatches that differ in nothing but when a failed response raises. Whether
it does is decided before the retry test is acted on, but neither the test nor
the next attempt looks at it: the rounds of the one dispatch are the rounds of
the other (`Dispatch.course_withThrowing`). All that is told apart is the
guard, the listener and whether the last response comes back as a failure.
-/
namespace Courier

/-! ## What raising tells -/

/-- The guard was asked, or the listener was told. -/
def Notice.isRaising : Notice → Bool
  | guarded _ => true
  | raised _ _ => true
  | _ => false

/-- The step asks the guard or tells the listener. -/
def Effect.isRaising : Effect → Bool
  | .note n => n.isRaising
  | _ => false

/-- The steps that have nothing to do with raising. -/
def Trace.unraised (t : Trace) : Trace := t.filter fun s => !s.effect.isRaising

@[simp] theorem Trace.unraised_append (t t' : Trace) :
    unraised (t ++ t') = t.unraised ++ t'.unraised :=
  List.filter_append t t'

/-- The world as if nobody had been told of raising. -/
def World.unraised (w : World) : World :=
  { w with notices := w.notices.filter fun n => !n.isRaising }

namespace Dispatch

variable {d : Dispatch} {o : Options} {p p' : Progress} {rounds : List Round} {policy : ThrowPolicy}

/-- The dispatch with another throw policy, and the same in all else. -/
def withThrowing (d : Dispatch) (policy : ThrowPolicy) : Dispatch := { d with throwing := policy }

/-! ## Rounds -/

theorem course_withThrowing {left : Nat} (h : d.Course left o p rounds p') :
    (d.withThrowing policy).Course left o p rounds p' := by
  induction h with
  | last hattempt hend => exact .last hattempt hend
  | next hattempt hagain _ ih => exact .next hattempt hagain ih

theorem pauses_withThrowing (mode : Mode) (n : Nat) :
    (d.withThrowing policy).pauses mode n rounds = d.pauses mode n rounds := by
  induction rounds generalizing n with
  | nil => rfl
  | cons r rounds ih =>
    cases rounds with
    | nil => rfl
    | cons r' rounds =>
      rw [pauses, pauses, ih]
      rfl

theorem unraised_judging (r : Round) :
    ((d.withThrowing policy).judging r).unraised = (d.judging r).unraised := by
  have hguarding (d : Dispatch) (e : StatusError) : (d.guarding e).unraised = [] := by
    unfold guarding
    split <;> simp [Trace.unraised, Effect.isRaising, Notice.isRaising]
  have hraising (d : Dispatch) (e : StatusError) : (d.raising e).unraised = [] := by
    unfold raising
    split
    · split <;> simp [Trace.unraised, Effect.isRaising, Notice.isRaising]
    · rfl
  unfold judging
  split
  · rfl
  · rfl
  · next response e _ _ =>
    have hcons (d : Dispatch) :
        (⟨.truncation, r.truncation⟩ :: (d.testing e ++ d.guarding e ++ d.raising e) : Trace) =
        [⟨.truncation, r.truncation⟩] ++ d.testing e ++ d.guarding e ++ d.raising e := by simp
    rw [hcons, hcons]
    simp only [Trace.unraised_append, hguarding, hraising]
    rfl

theorem unraised_woven (pauses : List Trace) :
    ((d.withThrowing policy).woven rounds pauses).unraised = (d.woven rounds pauses).unraised := by
  induction rounds generalizing pauses with
  | nil => rfl
  | cons r rounds ih => simp only [woven, Trace.unraised_append, unraised_judging, ih]

/-- Whether it is a failure or not, a verdict is about the response that the last attempt came
to. -/
theorem judged?_verdict (d : Dispatch) (r : Round) : judged? (d.verdict r) = judged? r.outcome := by
  have hresponse {response : Response} (h : r.response? = some response) :
      judged? r.outcome = .ok response := by
    unfold Round.response? at h
    cases hj : judged? r.outcome with
    | ok response' => simpa [hj, Except.toOption] using h
    | error f => simp [hj, Except.toOption] at h
  unfold verdict
  split
  · rfl
  · next response hr _ => exact (hresponse hr).symm
  · next response e _ he =>
    rw [hresponse (Round.error?_eq_some.mp he).1]
    split <;> rfl

/-! ## Worlds -/

/-- Behind this veil nothing is seen of raising. -/
def raisingVeil : Veil where
  aside e := e.isRaising = true
  like q q' := q = q'
  fair _ := True

theorem raises_aside (d : Dispatch) (e : StatusError) (p : Progress) :
    (d.raises e p).Aside raisingVeil fun r => r.2 = p := by
  unfold raises
  cases d.throwing.onFailure with
  | false => exact .done rfl
  | true =>
    cases d.throwing.guard? with
    | none =>
      cases d.throwing.listener? with
      | none => exact .done rfl
      | some listener => exact .perform rfl fun _ => .done rfl
    | some guard =>
      refine .perform rfl fun _ => ?_
      cases hguard : guard e.response with
      | false => exact .done rfl
      | true =>
        cases d.throwing.listener? with
        | none => exact .done rfl
        | some listener => exact .perform rfl fun _ => .done rfl

theorem run_shadows_withThrowing (d : Dispatch) (policy : ThrowPolicy) :
    d.run.Shadows raisingVeil (fun out out' => judged? out' = judged? out)
      (d.withThrowing policy).run := by
  have hattempt : ∀ o o', o = o' →
      Run.Shadows raisingVeil Eq Eq (d.attempt o) ((d.withThrowing policy).attempt o') := by
    rintro o _ rfl p _ rfl
    exact Act.Shadows.refl (fun _ => ⟨rfl, rfl⟩) (d.attempt o p)
  have hraises (e : StatusError) :
      Run.Shadows raisingVeil Eq (fun _ _ => True) (d.raises e)
          ((d.withThrowing policy).raises e) := by
    rintro p _ rfl
    exact (d.raises_aside e p).shadows ((d.withThrowing policy).raises_aside e p)
      fun r r' hr hr' => ⟨trivial, hr.trans hr'.symm⟩
  have htests : d.TestsAlike Eq := by
    rintro test - f o _ rfl
    exact ⟨rfl, rfl⟩
  refine run_shadows rfl rfl hattempt (fun o o' outcome ho => ?_) rfl rfl
  refine judge_shadows ?_ htests hraises ?_ (fun e b b' rest _ => ?_) ho outcome
  · rfl
  · exact fun _ => rfl
  · cases b || rest <;> cases b' || rest <;> rfl

/-- Worlds from which nothing but what raising tells is left out are the same without it. -/
theorem unraised_eq_of_alike {w w' : World}
    (h : w.Alike (Option.guard fun n => !n.isRaising) id true w') :
    w.unraised = w'.unraised := by
  refine World.eq_of_core h.core ?_ ?_ (h.kept rfl)
  · simpa [World.unraised] using h.notices
  · simpa [World.unraised] using h.sent

theorem covers_unraised : Act.Covers raisingVeil fun w w' =>
    True ∧ w.Alike (Option.guard fun n => !n.isRaising) id true w' := by
  refine Act.covers_alike (fun _ _ _ => trivial) (fun _ _ _ => trivial) (fun w e he => ?_) ?_ ?_
  · cases e with
    | note n =>
      have hn : n.isRaising = true := he
      refine ⟨rfl, ?_, rfl, fun _ recorder => by cases recorder <;> rfl⟩
      rw [World.notices_answer]
      simp [Effect.told, Option.guard, hn]
    | _ => cases he
  · rintro q _ rfl
    rfl
  · rintro q _ rfl
    rfl

/-- Dispatches that differ in their throw policy make the same rounds. Whatever is replied, each run
of the one goes with a run of the other that consists of the same attempts with the same waits
between them, in which the retry test is called in the same places; the runs differ in nothing but
the calls of the guard and of the listener. Both end with the last response, as it is or as a
failure, or with the same failure of another kind. In a world they leave the same behind but for
these calls. -/
theorem run_withThrowing (d : Dispatch) (policy : ThrowPolicy) :
    (∀ t out, d.run.Runs t out → ∃ rounds r,
      t = d.woven rounds (d.pauses d.mode 1 rounds) ∧ rounds.getLast? = some r ∧ out = d.verdict r ∧
      (d.withThrowing policy).run.Runs
        ((d.withThrowing policy).woven rounds (d.pauses d.mode 1 rounds))
        ((d.withThrowing policy).verdict r) ∧
      (∀ i r, rounds[i]? = some r → ∃ p p',
        (d.attempt (d.optionsAfter d.options rounds i)).Runs p r.trace r.outcome p' ∧
        ((d.withThrowing policy).attempt (d.optionsAfter d.options rounds i)).Runs p r.trace
          r.outcome p') ∧
      ((d.withThrowing policy).woven rounds (d.pauses d.mode 1 rounds)).unraised = t.unraised ∧
      judged? ((d.withThrowing policy).verdict r) = judged? out) ∧
    ∀ w : World, judged? (w.run (d.withThrowing policy).run).1 = judged? (w.run d.run).1 ∧
      (w.run (d.withThrowing policy).run).2.unraised = (w.run d.run).2.unraised := by
  refine ⟨fun t out h => ?_, fun w => ?_⟩
  · obtain ⟨rounds, r, p', hcourse, rfl, hlast, rfl⟩ := run_runs.mp h
    refine ⟨rounds, r, rfl, hlast, rfl, ?_, fun i r hr => ?_, unraised_woven _, ?_⟩
    · refine run_runs.mpr ⟨rounds, r, p', course_withThrowing hcourse, ?_, hlast, rfl⟩
      rw [pauses_withThrowing]
      rfl
    · obtain ⟨p, p', hattempt⟩ := (course_iff.mp hcourse).1.attempt_runs hr
      exact ⟨p, p', hattempt, hattempt⟩
    · rw [judged?_verdict, judged?_verdict]
  · obtain ⟨hout, -, hworld⟩ :=
      (d.run_shadows_withThrowing policy).run covers_unraised ⟨trivial, .refl w⟩
    exact ⟨hout, (unraised_eq_of_alike hworld).symm⟩

end Dispatch

end Courier
