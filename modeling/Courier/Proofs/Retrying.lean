import Courier.Proofs.Rounds
import Mathlib.Order.Bounds.Defs
/-
How many attempts a dispatch makes, how it waits between them and what it ends
with, read off the outcomes alone. The attempts end with the first one whose
outcome leaves nothing to retry, whose error the retry test refuses, or which
is the last one allowed (`Dispatch.Stops`); only then does it matter whether a
failed response raises (`Dispatch.Result`).

The loop counts down the attempts that are left, while the policy speaks of
the number of an attempt. `Dispatch.course_iff` ties the two: a course of
rounds is a list of attempts that ends with the first one that stops it.
-/
namespace Courier

namespace Tries

/-- The number of attempts that the tries stand for. -/
def allowed : Tries → Nat
  | count n => max n 1
  | backoff delays => delays.length + 1

/-- The attempts can be counted in 32 bits. -/
def Fits : Tries → Prop
  | count n => n ≤ RetryPolicy.attemptLimit
  | backoff delays => delays.length < RetryPolicy.attemptLimit

instance : (tries : Tries) → Decidable tries.Fits
  | count n => inferInstanceAs (Decidable (n ≤ RetryPolicy.attemptLimit))
  | backoff delays => inferInstanceAs (Decidable (delays.length < RetryPolicy.attemptLimit))

theorem one_le_allowed (tries : Tries) : 1 ≤ tries.allowed := by
  cases tries <;> simp only [allowed] <;> omega

theorem Fits.allowed_le {tries : Tries} (h : tries.Fits) :
    tries.allowed ≤ RetryPolicy.attemptLimit := by
  cases tries with
  | count n =>
    simp only [Fits, RetryPolicy.attemptLimit, UInt32.size, allowed] at h ⊢
    omega
  | backoff delays => exact h

theorem Fits.maxAttempts_eq {p : RetryPolicy} (h : p.tries.Fits) :
    p.maxAttempts = p.tries.allowed := by
  unfold RetryPolicy.maxAttempts
  cases htries : p.tries with
  | count n => rfl
  | backoff delays =>
    rw [htries] at h
    exact Nat.min_eq_left h

end Tries

namespace RetryPolicy

variable {p : RetryPolicy} {delays : List Nat} {i : Nat}

/-- Within the backoff entries nothing but the entry counts. -/
theorem delayFor_backoff (h : p.tries = .backoff delays) (hi : i < delays.length) (f : Failure) :
    p.delayFor (i + 1) f = delays[i] := by
  simp [delayFor, h, List.getElem?_eq_getElem hi]

theorem computesDelay_backoff (h : p.tries = .backoff delays) (hi : i < delays.length) :
    p.computesDelay (i + 1) = false := by
  unfold computesDelay
  rw [h]
  cases p.delay with
  | fixed ms => rfl
  | computed delay => simpa using hi

end RetryPolicy

namespace Round

/-- The outcome is a failure other than that of a failed response. -/
def Unrelated (r : Round) : Prop := ∃ f, r.outcome = .error f ∧ ∀ e, f ≠ .http e

theorem response?_eq_none {r : Round} : r.response? = none ↔ r.Unrelated := by
  obtain ⟨t, outcome, truncation⟩ := r
  cases outcome with
  | ok response => simp [response?, Dispatch.judged?, Except.toOption, Unrelated]
  | error f =>
    cases f <;> simp [response?, Dispatch.judged?, Except.toOption, Unrelated]

/-- The error of a round is that of its response, if it failed. -/
theorem error?_eq_some {r : Round} {e : StatusError} : r.error? = some e ↔
    r.response? = some e.response ∧ e.response.failed = true ∧
      e.summary = Summary.of? e.response.body r.truncation := by
  obtain ⟨response, summary⟩ := e
  simp only [error?, Option.bind_eq_some_iff, StatusError.of?, Option.ite_none_right_eq_some,
    Option.some.injEq, StatusError.mk.injEq]
  constructor
  · intro h
    obtain ⟨_, hr, hf, rfl, rfl⟩ := h
    exact ⟨hr, hf, rfl⟩
  · intro h
    obtain ⟨hr, hf, hs⟩ := h
    exact ⟨response, hr, hf, rfl, hs.symm⟩

theorem error?_eq_none {r : Round} : r.error? = none ↔
    r.response? = none ∨ ∃ response, r.response? = some response ∧ response.failed = false := by
  cases hr : r.response? with
  | none => simp [error?, hr]
  | some response => simp [error?, hr, StatusError.of?]

end Round

namespace Dispatch

variable {d : Dispatch} {o : Options} {p p' : Progress} {t : Trace} {rounds : List Round}

/-! ## Attempts that follow one another -/

/-- The options for the attempt after a round. -/
def after (d : Dispatch) (o : Options) (r : Round) : Options :=
  match r.error? with
  | some e => d.rewritten o e
  | none => o

/-- The options after some rounds, the first of which began with `o`. -/
def optionsAfter (d : Dispatch) (o : Options) (rounds : List Round) (i : Nat) : Options :=
  (rounds.take i).foldl d.after o

section

variable {P : Options → Prop} (hkeeps : ∀ test, d.retry.test? = some test → ∀ f o, P o →
  P (test f o).2)
include hkeeps

theorem rewritten_keeps (ho : P o) (e : StatusError) : P (d.rewritten o e) := by
  unfold rewritten
  cases htest : d.retry.test? with
  | none => exact ho
  | some test => exact hkeeps test htest _ o ho

theorem after_keeps (ho : P o) (r : Round) : P (d.after o r) := by
  unfold after
  cases r.error? with
  | none => exact ho
  | some e => exact rewritten_keeps hkeeps ho e

/-- What the retry test keeps of the options holds of them in every round. -/
theorem optionsAfter_keeps (ho : P o) (rounds : List Round) (i : Nat) :
    P (d.optionsAfter o rounds i) := by
  unfold optionsAfter
  induction rounds.take i generalizing o with
  | nil => exact ho
  | cons r rounds ih => exact ih (after_keeps hkeeps ho r)

end

/-- `d.Attempted o p rounds p'`: each round is an attempt, made from what the rounds before it left
of the options `o`. -/
inductive Attempted (d : Dispatch) : Options → Progress → List Round → Progress → Prop
  | nil {o : Options} {p : Progress} : Attempted d o p [] p
  | cons {o : Options} {p p₁ p' : Progress} {r : Round} {rounds : List Round} :
      (d.attempt o).Runs p r.trace r.outcome p₁ → Attempted d (d.after o r) p₁ rounds p' →
      Attempted d o p (r :: rounds) p'

/-- Every round is an attempt with the options that the rounds before it left. -/
theorem Attempted.attempt_runs (h : d.Attempted o p rounds p') {i : Nat} {r : Round}
    (hr : rounds[i]? = some r) :
    ∃ p₁ p₂, (d.attempt (d.optionsAfter o rounds i)).Runs p₁ r.trace r.outcome p₂ := by
  induction h generalizing i with
  | nil => simp at hr
  | cons hattempt _ ih =>
    cases i with
    | zero =>
      obtain rfl := Option.some.inj hr
      exact ⟨_, _, hattempt⟩
    | succ i => exact ih hr

/-- The round leaves nothing to retry, or the retry test refuses to. -/
inductive Settles (d : Dispatch) (o : Options) (r : Round) : Prop
  | unrelated : r.Unrelated → Settles d o r
  | unfailed {response} : r.response? = some response → response.failed = false → Settles d o r
  | refused {e test} :
      r.error? = some e → d.retry.test? = some test → (test (.http e) o).1 = false →
      Settles d o r

/-- The attempt with number `n` is one to stop at: the last one allowed, or one that settles the
matter. -/
def Stops (d : Dispatch) (rounds : List Round) (n : Nat) : Prop :=
  n = d.retry.tries.allowed ∨
    ∃ r, rounds[n - 1]? = some r ∧ d.Settles (d.optionsAfter d.options rounds (n - 1)) r

theorem again?_eq_none {r : Round} : d.again? o r = none ↔ d.Settles o r := by
  constructor
  · intro h
    cases he : r.error? with
    | none =>
      obtain hr | ⟨response, hr, hf⟩ := Round.error?_eq_none.mp he
      · exact .unrelated (Round.response?_eq_none.mp hr)
      · exact .unfailed hr hf
    | some e =>
      have hw : d.wantsAnother o e = false := by simpa [again?, he] using h
      unfold wantsAnother at hw
      split at hw
      · next test htest => exact .refused he htest hw
      · simp at hw
  · intro h
    cases h with
    | unrelated h => simp [again?, Round.error?_eq_none.mpr (.inl (Round.response?_eq_none.mpr h))]
    | unfailed hr hf => simp [again?, Round.error?_eq_none.mpr (.inr ⟨_, hr, hf⟩)]
    | refused he htest h => simp [again?, he, wantsAnother, htest, h]

theorem after_of_again {r : Round} {e : StatusError} {o' : Options}
    (h : d.again? o r = some (e, o')) :
    d.after o r = o' := by
  obtain ⟨he, -, rfl⟩ := again?_eq_some.mp h
  simp [after, he]

/-- A course is a list of attempts none of which settles the matter before the last one, and the
last one does or no attempt is left. -/
theorem course_iff {left : Nat} : d.Course left o p rounds p' ↔
    d.Attempted o p rounds p' ∧ rounds ≠ [] ∧ rounds.length ≤ left + 1 ∧
      (∀ i r, i + 1 < rounds.length → rounds[i]? = some r →
        ¬ d.Settles (d.optionsAfter o rounds i) r) ∧
      (rounds.length = left + 1 ∨ ∃ r, rounds[rounds.length - 1]? = some r ∧
        d.Settles (d.optionsAfter o rounds (rounds.length - 1)) r) := by
  constructor
  · intro h
    induction h with
    | last hattempt hend =>
      refine ⟨.cons hattempt .nil, by simp, by simp, by simp, ?_⟩
      obtain rfl | hagain := hend
      · exact .inl rfl
      · exact .inr ⟨_, rfl, again?_eq_none.mp hagain⟩
    | @next left o p r p₁ e o' rounds p' hattempt hagain hcourse ih =>
      obtain ⟨hrest, hne, hlen, hgo, hend⟩ := ih
      obtain rfl := after_of_again hagain
      have hpos : 0 < rounds.length := List.length_pos_iff.mpr hne
      refine ⟨.cons hattempt hrest, by simp, by simpa using hlen, ?_, ?_⟩
      · intro i r' hi hr'
        cases i with
        | zero =>
          obtain rfl := Option.some.inj hr'
          intro hs
          have hnone := again?_eq_none.mpr hs
          simp [optionsAfter, hagain] at hnone
        | succ i => exact hgo i r' (by simpa using hi) hr'
      · obtain ⟨k, hk⟩ := Nat.exists_eq_add_of_lt hpos
        simp only [List.length_cons, hk] at hend ⊢
        refine hend.imp (fun h => by omega) ?_
        intro h
        obtain ⟨r', hr', hs⟩ := h
        exact ⟨r', by simpa using hr', by simpa [optionsAfter] using hs⟩
  · intro h
    obtain ⟨hattempted, hne, hlen, hgo, hend⟩ := h
    -- The attempts that are left must vary: a course counts them down from its front.
    induction hattempted generalizing left with
    | nil => exact absurd rfl hne
    | @cons o p p₁ p' r rounds hattempt hrest ih =>
      by_cases hnil : rounds = []
      · subst hnil
        cases hrest
        refine .last hattempt (hend.imp (fun h => by simpa using h.symm) ?_)
        intro h
        obtain ⟨r', hr', hs⟩ := h
        obtain rfl := Option.some.inj hr'
        exact again?_eq_none.mpr hs
      · have hpos : 0 < rounds.length := List.length_pos_iff.mpr hnil
        obtain ⟨left, rfl⟩ : ∃ left', left = left' + 1 := ⟨left - 1, by simp at hlen; omega⟩
        cases hagain : d.again? o r with
        | none => exact absurd (again?_eq_none.mp hagain) (hgo 0 r (by simpa using hpos) rfl)
        | some again =>
          obtain ⟨e, o'⟩ := again
          obtain rfl := after_of_again hagain
          refine .next hattempt hagain (ih hnil (by simpa using hlen) ?_ ?_)
          · intro i r' hi hr'
            exact hgo (i + 1) r' (by simpa using hi) hr'
          · obtain ⟨k, hk⟩ := Nat.exists_eq_add_of_lt hpos
            simp only [List.length_cons, hk] at hend ⊢
            refine hend.imp (fun h => by omega) ?_
            intro h
            obtain ⟨r', hr', hs⟩ := h
            exact ⟨r', by simpa using hr', by simpa [optionsAfter] using hs⟩

/-- The number of attempts is the least one to stop at. -/
theorem isLeast_stops_iff : IsLeast {n | 1 ≤ n ∧ d.Stops rounds n} rounds.length ↔
    rounds ≠ [] ∧ rounds.length ≤ d.retry.tries.allowed ∧
      (∀ i r, i + 1 < rounds.length → rounds[i]? = some r →
        ¬ d.Settles (d.optionsAfter d.options rounds i) r) ∧
      (rounds.length = d.retry.tries.allowed ∨ ∃ r, rounds[rounds.length - 1]? = some r ∧
        d.Settles (d.optionsAfter d.options rounds (rounds.length - 1)) r) := by
  have hallowed := d.retry.tries.one_le_allowed
  constructor
  · intro h
    obtain ⟨⟨hpos, hstops⟩, hleast⟩ := h
    refine ⟨List.length_pos_iff.mp hpos, hleast ⟨hallowed, .inl rfl⟩, ?_, hstops⟩
    intro i r hi hr hs
    have hle : rounds.length ≤ i + 1 :=
      hleast ⟨by omega, .inr ⟨r, by simpa using hr, by simpa using hs⟩⟩
    omega
  · intro h
    obtain ⟨hne, hlen, hgo, hend⟩ := h
    refine ⟨⟨List.length_pos_iff.mpr hne, hend⟩, ?_⟩
    -- A number to stop at before the last round would settle the matter too early.
    rintro n ⟨hn, rfl | ⟨r, hr, hs⟩⟩
    · exact hlen
    · refine Nat.le_of_not_lt fun hlt => ?_
      exact hgo (n - 1) r (by omega) hr hs

/-! ## Waits -/

/-- `d.Pause n e t`: in `t` the dispatch waits after the attempt with number `n` failed with `e`, as
long as its backoff entry says, else as long as the delay does. -/
inductive Pause (d : Dispatch) (n : Nat) (e : StatusError) : Trace → Prop
  | entry {delays ms} : d.retry.tries = .backoff delays → delays[n - 1]? = some ms →
      Pause d n e [⟨.sleep ms d.mode, ()⟩]
  | fixed {count ms} : d.retry.tries = .count count → d.retry.delay = .fixed ms →
      Pause d n e [⟨.sleep ms d.mode, ()⟩]
  | computed {count delay} : d.retry.tries = .count count → d.retry.delay = .computed delay →
      Pause d n e [⟨.note (.delayComputed n (.http e)), ()⟩,
        ⟨.sleep (delay n (.http e)) d.mode, ()⟩]

/-- The waits between rounds: one after every round but the last. -/
def Paused (d : Dispatch) (rounds : List Round) (pauses : List Trace) : Prop :=
  pauses.length + 1 = rounds.length ∧
    ∀ i pause, pauses[i]? = some pause → ∃ r e, rounds[i]? = some r ∧ r.error? = some e ∧
      d.Pause (i + 1) e pause

theorem waiting_backoff {mode : Mode} {delays : List Nat} {i : Nat} {e : StatusError}
    (h : d.retry.tries = .backoff delays) (hi : i < delays.length) :
    d.waiting mode (i + 1) e = [⟨.sleep delays[i] mode, ()⟩] := by
  rw [waiting, RetryPolicy.computesDelay_backoff h hi, RetryPolicy.delayFor_backoff h hi]
  rfl

theorem waiting_count {mode : Mode} {count n : Nat} {e : StatusError}
    (h : d.retry.tries = .count count) :
    d.waiting mode n e =
      match d.retry.delay with
      | .fixed ms => [⟨.sleep ms mode, ()⟩]
      | .computed delay =>
        [⟨.note (.delayComputed n (.http e)), ()⟩, ⟨.sleep (delay n (.http e)) mode, ()⟩] := by
  unfold waiting RetryPolicy.computesDelay RetryPolicy.delayFor
  rw [h]
  cases d.retry.delay <;> rfl

theorem pause_iff {i : Nat} {e : StatusError} (hi : i + 1 < d.retry.tries.allowed) :
    d.Pause (i + 1) e t ↔ t = d.waiting d.mode (i + 1) e := by
  cases htries : d.retry.tries with
  | count count =>
    rw [waiting_count htries]
    constructor
    · rintro (⟨h, -⟩ | ⟨-, h⟩ | ⟨-, h⟩)
      · simp [htries] at h
      · simp [h]
      · simp [h]
    · rintro rfl
      cases hdelay : d.retry.delay with
      | fixed ms => exact .fixed htries hdelay
      | computed delay => exact .computed htries hdelay
  | backoff delays =>
    have hlt : i < delays.length := by simpa [htries, Tries.allowed] using hi
    have hentry : delays[i]? = some delays[i] := List.getElem?_eq_getElem hlt
    rw [waiting_backoff htries hlt]
    constructor
    · rintro (⟨h, hms⟩ | ⟨h, -⟩ | ⟨h, -⟩)
      · obtain rfl : delays = _ := by simpa [htries] using h
        obtain rfl := Option.some.inj (hentry.symm.trans hms)
        rfl
      · simp [htries] at h
      · simp [htries] at h
    · rintro rfl
      exact .entry htries hentry

theorem getElem?_pauses {mode : Mode} {n i : Nat} : (d.pauses mode n rounds)[i]? =
    if i + 1 < rounds.length then
      (rounds[i]?).map fun r => (r.error?.map (d.waiting mode (n + i))).getD []
    else none := by
  induction rounds generalizing n i with
  | nil => simp [pauses]
  | cons r rounds ih =>
    cases rounds with
    | nil => simp [pauses]
    | cons r' rounds =>
      cases i with
      | zero => simp [pauses]
      | succ i => simp [pauses, ih, Nat.add_assoc, Nat.add_comm 1 i]

theorem length_pauses {mode : Mode} {n : Nat} (hne : rounds ≠ []) :
    (d.pauses mode n rounds).length + 1 = rounds.length := by
  induction rounds generalizing n with
  | nil => exact absurd rfl hne
  | cons r rounds ih =>
    cases rounds with
    | nil => simp [pauses]
    | cons r' rounds => simpa [pauses] using ih (by simp)

theorem error?_of_not_settles {r : Round} (h : ¬ d.Settles o r) : ∃ e, r.error? = some e := by
  cases hagain : d.again? o r with
  | none => exact absurd (again?_eq_none.mp hagain) h
  | some again =>
    obtain ⟨he, -⟩ := again?_eq_some.mp hagain
    exact ⟨_, he⟩

theorem paused_iff {pauses : List Trace} (hne : rounds ≠ [])
    (hlen : rounds.length ≤ d.retry.tries.allowed)
    (herror : ∀ i r, i + 1 < rounds.length → rounds[i]? = some r → ∃ e, r.error? = some e) :
    d.Paused rounds pauses ↔ pauses = d.pauses d.mode 1 rounds := by
  have hlength : (d.pauses d.mode 1 rounds).length + 1 = rounds.length := length_pauses hne
  constructor
  · intro h
    obtain ⟨hsize, hpause⟩ := h
    refine List.ext_getElem? fun i => ?_
    rw [getElem?_pauses]
    split
    · next hi =>
      obtain ⟨pause, hp⟩ : ∃ pause, pauses[i]? = some pause :=
        ⟨_, List.getElem?_eq_getElem (by omega)⟩
      obtain ⟨r, e, hr, he, hpause⟩ := hpause i pause hp
      rw [pause_iff (by omega)] at hpause
      simp [hp, hr, he, hpause, Nat.add_comm 1 i]
    · next hi => exact List.getElem?_eq_none (by omega)
  · rintro rfl
    refine ⟨hlength, ?_⟩
    intro i pause hp
    rw [getElem?_pauses] at hp
    split at hp
    · next hi =>
      obtain ⟨r, hr, hpause⟩ := Option.map_eq_some_iff.mp hp
      obtain ⟨e, he⟩ := herror i r hi hr
      refine ⟨r, e, hr, he, (pause_iff (by omega)).mpr ?_⟩
      simp [← hpause, he, Nat.add_comm 1 i]
    · simp at hp

/-! ## Results -/

/-- A failed response raises: throwing is on and the guard accepts the response if there is one, or
there was more than one attempt to be made and exhausting them throws. -/
def Raises (d : Dispatch) (response : Response) : Prop :=
  (d.throwing.onFailure = true ∧ ∀ guard, d.throwing.guard? = some guard → guard response = true) ∨
    (1 < d.retry.tries.allowed ∧ d.retry.throwOnExhaustion = true)

/-- `d.Result r out`: the dispatch ends with `out` if `r` is its last round. -/
inductive Result (d : Dispatch) (r : Round) : Outcome → Prop
  | unrelated {f} : r.outcome = .error f → (∀ e, f ≠ .http e) → Result d r (.error f)
  | unfailed {response} :
      r.response? = some response → response.failed = false → Result d r (.ok response)
  | raised {e} : r.error? = some e → d.Raises e.response → Result d r (.error (.http e))
  | failed {e} : r.error? = some e → ¬ d.Raises e.response → Result d r (.ok e.response)

theorem fails_iff (htries : d.retry.tries.Fits) {e : StatusError} :
    d.fails e = true ↔ d.Raises e.response := by
  unfold fails throws Raises
  rw [htries.maxAttempts_eq]
  cases d.throwing.guard? <;> simp

theorem result_iff (htries : d.retry.tries.Fits) {r : Round} {out : Outcome} :
    d.Result r out ↔ out = d.verdict r := by
  unfold verdict
  constructor
  · intro h
    cases h with
    | unrelated h hf => simp [Round.response?_eq_none.mpr ⟨_, h, hf⟩, h]
    | unfailed hr hf => simp [hr, Round.error?_eq_none.mpr (.inr ⟨_, hr, hf⟩)]
    | raised he hraises =>
      simp [he, (Round.error?_eq_some.mp he).1, (fails_iff htries).mpr hraises]
    | @failed e he hraises =>
      have hfails : d.fails e = false := by simpa using mt (fails_iff htries).mp hraises
      simp [he, (Round.error?_eq_some.mp he).1, hfails]
  · rintro rfl
    cases he : r.error? with
    | none =>
      obtain hr | ⟨response, hr, hf⟩ := Round.error?_eq_none.mp he
      · obtain ⟨f, h, hf⟩ := Round.response?_eq_none.mp hr
        simpa [hr, h] using Result.unrelated h hf
      · simpa [hr] using Result.unfailed hr hf
    | some e =>
      rw [(Round.error?_eq_some.mp he).1]
      by_cases hfails : d.fails e = true
      · simpa [hfails] using Result.raised he ((fails_iff htries).mp hfails)
      · simpa [hfails] using Result.failed he (mt (fails_iff htries).mpr hfails)

/-- Every run of a dispatch comes to its end, and it consists of exactly the attempts up to the
first one to stop at, with one wait after each but the last; the last one decides what it ends
with. -/
theorem run_attempts (d : Dispatch) (htries : d.retry.tries.Fits) :
    (∀ oracle past, d.run.Runs (d.run.play oracle past).1 (d.run.play oracle past).2) ∧
    ∀ t out, d.run.Runs t out ↔ ∃ rounds pauses r p',
      d.Attempted d.options Progress.start rounds p' ∧
      IsLeast {n | 1 ≤ n ∧ d.Stops rounds n} rounds.length ∧
      rounds.length ≤ RetryPolicy.attemptLimit ∧
      d.Paused rounds pauses ∧
      t = d.woven rounds pauses ∧
      rounds.getLast? = some r ∧ d.Result r out := by
  have hleft : d.retry.maxAttempts - 1 + 1 = d.retry.tries.allowed := by
    rw [htries.maxAttempts_eq]
    exact Nat.sub_add_cancel d.retry.tries.one_le_allowed
  refine ⟨fun oracle past => Act.runs_play oracle d.run past, fun t out => ?_⟩
  rw [run_runs]
  constructor
  · intro h
    obtain ⟨rounds, r, p', hcourse, rfl, hlast, hout⟩ := h
    obtain ⟨hattempted, hne, hlen, hgo, hend⟩ := course_iff.mp hcourse
    rw [hleft] at hlen hend
    have hpaused : d.Paused rounds (d.pauses d.mode 1 rounds) :=
      (paused_iff hne hlen fun i r hi hr => error?_of_not_settles (hgo i r hi hr)).mpr rfl
    exact ⟨rounds, d.pauses d.mode 1 rounds, r, p', hattempted,
      isLeast_stops_iff.mpr ⟨hne, hlen, hgo, hend⟩, Nat.le_trans hlen htries.allowed_le, hpaused,
      rfl, hlast, (result_iff htries).mpr hout⟩
  · intro h
    obtain ⟨rounds, pauses, r, p', hattempted, hleast, -, hpaused, rfl, hlast, hout⟩ := h
    obtain ⟨hne, hlen, hgo, hend⟩ := isLeast_stops_iff.mp hleast
    have hpauses :=
      (paused_iff hne hlen fun i r hi hr => error?_of_not_settles (hgo i r hi hr)).mp hpaused
    subst hpauses
    refine ⟨rounds, r, p', course_iff.mpr ⟨hattempted, hne, ?_, hgo, ?_⟩, rfl, hlast,
      (result_iff htries).mp hout⟩
    · rw [hleft]
      exact hlen
    · rw [hleft]
      exact hend

/-- A dispatch to a service that is never available. -/
def unavailable (tries : Tries) : Dispatch where
  method := .get
  url := "http://a.test/"
  options := .empty
  middleware := []
  hooks := []
  recorders := []
  stubs := []
  preventsStray := false
  retry := .ofTries tries
  throwing := .never
  mode := .blocking
  draft := 0
  environment := ⟨fun _ => pure (.ok (.ofStatus 503)), true⟩

theorem run_attempts_unavailable : (Tries.backoff [5, 7]).Fits ∧ ∃ t out rounds pauses,
    (unavailable (.backoff [5, 7])).run.Runs t out ∧
      IsLeast {n | 1 ≤ n ∧ (unavailable (.backoff [5, 7])).Stops rounds n} rounds.length ∧
      (unavailable (.backoff [5, 7])).Paused rounds pauses ∧
      t = (unavailable (.backoff [5, 7])).woven rounds pauses := by
  have hfits : (Tries.backoff [5, 7]).Fits := by decide
  obtain ⟨hends, hiff⟩ := run_attempts (unavailable (.backoff [5, 7])) hfits
  have hrun := hends (fun _ e => ((World.initial .default true .unreachable).answer e).1) []
  obtain ⟨rounds, pauses, r, p', -, hleast, -, hpaused, ht, -⟩ := (hiff _ _).mp hrun
  exact ⟨hfits, _, _, rounds, pauses, hrun, hleast, hpaused, ht⟩

example :
    ((World.initial .default true .unreachable).run (unavailable (.backoff [5, 7])).run).2.delays =
    [5, 7] := by decide +kernel

end Dispatch

end Courier
