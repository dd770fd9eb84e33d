import Courier.Draft
import Courier.Proofs.Rounds
/-
Whether the caller waits or gets a handle makes no difference but to who is
told to sleep. Two acts are alike if they perform the same effects under the
same replies, up to the modes of their waits; worlds that run them end alike,
up to the modes in the waits that were noted down (`Act.Alike.run_eq`).

The two loops are alike round by round (`Dispatch.attempts_alike`), and a
draft made asynchronous takes the same snapshots as before.
-/
namespace Courier

/-! ## Worlds up to modes -/

/-- The notice as if the caller had waited. -/
def Notice.modeless : Notice → Notice
  | .slept ms _ => .slept ms .blocking
  | n => n

/-- The world as if the callers had waited for all that was noted down. -/
def World.modeless (w : World) : World := { w with notices := w.notices.map Notice.modeless }

theorem Notice.modeless_modeless (n : Notice) : n.modeless.modeless = n.modeless := by
  cases n <;> rfl

namespace World

variable {w w' : World}

@[simp] theorem modeless_modeless (w : World) : w.modeless.modeless = w.modeless := by
  simp [modeless, Notice.modeless_modeless]

/-- What a world answers, and what that does to it, has nothing to do with the modes of the waits
before. -/
theorem answer_modeless (w : World) (e : Effect) :
    (w.modeless.answer e).1 = (w.answer e).1 ∧
      (w.modeless.answer e).2.modeless = (w.answer e).2.modeless := by
  cases e with
  | note n => simp [answer, tell, modeless, Notice.modeless_modeless]
  | freshBoundary => simp [answer, modeless, Notice.modeless_modeless]
  | truncation => simp [answer, modeless, Notice.modeless_modeless]
  | remember draft q => simp [answer, modeless, Notice.modeless_modeless]
  | record recorder q r? =>
    cases recorder <;> simp [answer, append, modeless, Notice.modeless_modeless]
  | takeCanned number => simp [answer, modeless, sequence, setSequence, Notice.modeless_modeless]
  | writeSink sink bytes =>
    cases sink with
    | buffer name => simp [answer, write, modeless, Notice.modeless_modeless]
    | file path =>
      simp only [answer, write, modeless]
      split <;> simp [Notice.modeless_modeless]
  | sleep ms mode =>
    cases hnotes : w.notesWaits <;> simp [answer, modeless, hnotes, Notice.modeless_modeless]
  | exchange wire timeout => simp [answer, modeless, Notice.modeless_modeless]

theorem answer_eq (hw : w.modeless = w'.modeless) (e : Effect) :
    (w.answer e).1 = (w'.answer e).1 ∧ (w.answer e).2.modeless = (w'.answer e).2.modeless := by
  obtain ⟨hreply, hafter⟩ := answer_modeless w e
  obtain ⟨hreply', hafter'⟩ := answer_modeless w' e
  rw [← hreply, ← hreply', ← hafter, ← hafter', hw]
  exact ⟨rfl, rfl⟩

theorem answer_sleep (hw : w.modeless = w'.modeless) (ms : Nat) (mode mode' : Mode) :
    (w.answer (.sleep ms mode)).2.modeless = (w'.answer (.sleep ms mode')).2.modeless := by
  have hmode : (w'.answer (.sleep ms mode)).2.modeless =
      (w'.answer (.sleep ms mode')).2.modeless := by
    simp only [answer]
    split <;> simp [modeless, Notice.modeless]
  exact (answer_eq hw _).2.trans hmode

end World

/-! ## Acts up to modes -/

namespace Act

variable {α β : Type}

/-- The acts perform the same effects under the same replies, up to the modes of their waits. -/
inductive Alike : Act α → Act α → Prop
  | done (a : α) : Alike (.done a) (.done a)
  | perform {e : Effect} {next next' : e.Reply → Act α} :
      (∀ reply, Alike (next reply) (next' reply)) →
      Alike (.perform e next) (.perform e next')
  | sleep {ms : Nat} {mode mode' : Mode} {next next' : Unit → Act α} : Alike (next ()) (next' ()) →
      Alike (.perform (.sleep ms mode) next) (.perform (.sleep ms mode') next')

theorem Alike.refl (act : Act α) : Alike act act := by
  induction act with
  | done a => exact .done a
  | perform e next ih => exact .perform ih

theorem Alike.bind {act act' : Act α} {f f' : α → Act β} (h : Alike act act')
    (hf : ∀ a, Alike (f a) (f' a)) : Alike (act.bind f) (act'.bind f') := by
  induction h with
  | done a => exact hf a
  | perform _ ih => exact .perform ih
  | sleep _ ih => exact .sleep ih

/-- Worlds that run acts which are alike give the same results and end alike. -/
theorem Alike.run_eq {act act' : Act α} (h : Alike act act') {w w' : World}
    (hw : w.modeless = w'.modeless) :
    (w.run act).1 = (w'.run act').1 ∧ (w.run act).2.modeless = (w'.run act').2.modeless := by
  induction h generalizing w w' with
  | done a => exact ⟨rfl, hw⟩
  | @perform e next next' _ ih =>
    obtain ⟨hreply, hafter⟩ := World.answer_eq hw e
    have hnext := ih (w.answer e).1 hafter
    simp only [World.run]
    rw [← hreply]
    exact hnext
  | sleep _ ih =>
    simp only [World.run]
    exact ih (World.answer_sleep hw _ _ _)

end Act

namespace Run

variable {α β : Type}

/-- The steps are alike from every state of a dispatch. -/
def Alike (x x' : Run α) : Prop := ∀ p, (x p).Alike (x' p)

theorem Alike.refl (x : Run α) : x.Alike x := fun p => Act.Alike.refl (x p)

theorem Alike.bind {x x' : Run α} {f f' : α → Run β} (h : x.Alike x')
    (hf : ∀ a, (f a).Alike (f' a)) :
    (x >>= f).Alike (x' >>= f') := fun p => (h p).bind fun r => hf r.1 r.2

theorem sleep_alike (ms : Nat) (mode mode' : Mode) :
    Alike (Run.effect (.sleep ms mode) : Run Unit) (Run.effect (.sleep ms mode')) :=
  fun _ => .sleep (.done _)

theorem Alike.run' {x x' : Run α} (h : x.Alike x') (p : Progress) :
    Act.Alike (x.run' p) (x'.run' p) :=
  (h p).bind fun r => .done r.1

end Run

/-! ## Dispatches -/

namespace Dispatch

/-- The attempts of dispatches that differ in their mode only. -/
theorem attempts_alike (d : Dispatch) (m mode mode' : Mode) (left n : Nat) (o : Options) :
    (d.attempts mode left n o).Alike (attempts { d with mode := m } mode' left n o) := by
  -- Nothing in a round looks at the mode but the wait at its end.
  induction left generalizing n o with
  | zero => exact Run.Alike.refl (d.attempts mode 0 n o)
  | succ left ih =>
    refine Run.Alike.bind (Run.Alike.refl (d.attempt o)) fun outcome => ?_
    refine Run.Alike.bind (Run.Alike.refl (d.judge o outcome)) fun judgement => ?_
    cases judgement.again? with
    | none => exact Run.Alike.refl _
    | some again =>
      refine Run.Alike.bind (Run.Alike.refl (d.delay n again.1)) fun ms => ?_
      exact Run.Alike.bind (Run.sleep_alike ms mode mode') fun _ => ih (n + 1) again.2

theorem run_alike (d : Dispatch) (m : Mode) : d.run.Alike (run { d with mode := m }) := by
  rw [run_eq, run_eq]
  exact (attempts_alike d m d.mode m (d.retry.maxAttempts - 1) 1 d.options).run' Progress.start

end Dispatch

/-! ## Drafts -/

/-- What is asked of a draft: a request, with data to be sent along or without. -/
inductive Draft.Verb
  | send (m : Method) (url : String) (o : Options)
  | sendData (m : Method) (url : String) (data : Json)

namespace Draft

def ask (d : Draft) : Verb → Act Outcome × Draft
  | .send m url o => d.send m url o
  | .sendData m url data => d.sendData m url data

/-- Sends one request after another, each run to its end before the next one is sent. -/
def askAll : Draft → World → List Verb → List Outcome × Draft × World
  | d, w, [] => ([], d, w)
  | d, w, verb :: verbs =>
    let (outcome, w) := w.run (d.ask verb).1
    let (outcomes, d, w) := askAll (d.ask verb).2 w verbs
    (outcome :: outcomes, d, w)

theorem dispatch_intoAsync (d : Draft) (m : Method) (url : String) (o : Options) :
    d.intoAsync.dispatch m url o = { d.dispatch m url o with mode := .async } := rfl

theorem send_intoAsync (d : Draft) (m : Method) (url : String) (o : Options) :
    (d.send m url o).1.Alike (d.intoAsync.send m url o).1 := by
  have halike := Dispatch.run_alike (d.dispatch m url o) .async
  rw [← dispatch_intoAsync] at halike
  exact halike

theorem ask_intoAsync (d : Draft) (verb : Verb) :
    (d.ask verb).1.Alike (d.intoAsync.ask verb).1 ∧
      (d.intoAsync.ask verb).2 = (d.ask verb).2.intoAsync := by
  cases verb with
  | send m url o => exact ⟨d.send_intoAsync m url o, rfl⟩
  | sendData m url data =>
    have hdata : d.intoAsync.dataOptions m data = d.dataOptions m data := rfl
    simp only [ask, sendData, hdata]
    cases d.dataOptions m data with
    | ok o => exact ⟨d.send_intoAsync m url o, rfl⟩
    | error f => exact ⟨Act.Alike.refl _, rfl⟩

theorem askAll_alike (d : Draft) {w w' : World} (hw : w.modeless = w'.modeless)
    (verbs : List Verb) :
    (d.intoAsync.askAll w verbs).1 = (d.askAll w' verbs).1 ∧
      (d.intoAsync.askAll w verbs).2.1 = (d.askAll w' verbs).2.1.intoAsync ∧
      (d.intoAsync.askAll w verbs).2.2.modeless = (d.askAll w' verbs).2.2.modeless := by
  induction verbs generalizing d w w' with
  | nil => exact ⟨rfl, rfl, hw⟩
  | cons verb verbs ih =>
    obtain ⟨halike, hdraft⟩ := d.ask_intoAsync verb
    obtain ⟨hresult, hafter⟩ := halike.run_eq hw.symm
    obtain ⟨houtcomes, hdrafts, hworlds⟩ := ih (d.ask verb).2 hafter.symm
    simp only [askAll]
    rw [hdraft, hresult, houtcomes]
    exact ⟨rfl, hdrafts, hworlds⟩

/-- A draft and the same draft made asynchronous send alike: all results are the same, what is left
of the drafts is, and so is the world but for the modes of the waits that it noted down. -/
theorem askAll_intoAsync (d : Draft) (w : World) (verbs : List Verb) :
    (d.intoAsync.askAll w verbs).1 = (d.askAll w verbs).1 ∧
      (d.intoAsync.askAll w verbs).2.1 = (d.askAll w verbs).2.1.intoAsync ∧
      (d.intoAsync.askAll w verbs).2.2.modeless = (d.askAll w verbs).2.2.modeless :=
  askAll_alike d rfl verbs

end Draft

end Courier
