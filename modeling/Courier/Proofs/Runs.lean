import Courier.Service
import Courier.World
import Mathlib.Tactic.Simproc.ExistsAndEq
/-
Runs of acts: which effects an act performs under which replies, and what it
ends with. The replies are whatever comes from outside, so what holds of every
run holds whoever answers: a world, or a world in which other acts take their
turns in between.

* `Act.runs_bind`: a run of one act after another is a run of the one and then
  a run of the other.
* `Act.runs_play`, `Act.exists_runs`: however the effects are answered, an act
  comes to its end.
-/
namespace Courier

/-- An effect with the reply to it. -/
structure Step where
  effect : Effect
  reply : effect.Reply

/-- Effects with their replies, the first one first. -/
abbrev Trace := List Step

/-- The event that a step tells. -/
def Step.event? : Step → Option Event
  | ⟨.note (.event e), _⟩ => some e
  | _ => none

/-- The draft and the request, if a step remembers one. -/
def Step.remembered? : Step → Option (Nat × Request)
  | ⟨.remember draft q, _⟩ => some (draft, q)
  | _ => none

namespace Act

variable {α β : Type}

/-- `act.Leads t rest`: answered as in `t`, the act performs the effects in `t`, and `rest` is left
of it. -/
inductive Leads : Act α → Trace → Act α → Prop
  | start {act} : Leads act [] act
  | perform {e next reply t rest} :
      Leads (next reply) t rest → Leads (.perform e next) (⟨e, reply⟩ :: t) rest

/-- `act.Runs t a`: answered as in `t`, the act performs the effects in `t` and ends with `a`. -/
abbrev Runs (act : Act α) (t : Trace) (a : α) : Prop := act.Leads t (.done a)

@[simp] theorem done_leads {a : α} {t : Trace} {rest : Act α} :
    (Act.done a).Leads t rest ↔ t = [] ∧ rest = .done a := by
  constructor
  · intro h
    cases h
    exact ⟨rfl, rfl⟩
  · intro h
    obtain ⟨rfl, rfl⟩ := h
    exact .start

theorem pure_runs {a b : α} {t : Trace} : (pure a : Act α).Runs t b ↔ t = [] ∧ b = a := by
  change (Act.done a).Leads t (.done b) ↔ _
  rw [done_leads, Act.done.injEq]

theorem perform_runs {e : Effect} {next : e.Reply → Act α} {t : Trace} {a : α} :
    (Act.perform e next).Runs t a ↔ ∃ reply t', t = ⟨e, reply⟩ :: t' ∧ (next reply).Runs t' a := by
  constructor
  · intro h
    cases h with
    | perform h => exact ⟨_, _, rfl, h⟩
  · intro h
    obtain ⟨reply, t', rfl, h⟩ := h
    exact .perform h

theorem Leads.append {act mid rest : Act α} {t t' : Trace} (h : act.Leads t mid)
    (h' : mid.Leads t' rest) :
    act.Leads (t ++ t') rest := by
  induction h with
  | start => exact h'
  | perform _ ih => exact .perform (ih h')

/-- One more effect of an act that is under way. -/
theorem Leads.snoc {act : Act α} {e : Effect} {next : e.Reply → Act α} {t : Trace}
    (h : act.Leads t (.perform e next)) (reply : e.Reply) :
    act.Leads (t ++ [⟨e, reply⟩]) (next reply) :=
  h.append (.perform .start)

theorem runs_bind {act : Act α} {f : α → Act β} {t : Trace} {b : β} :
    (act.bind f).Runs t b ↔ ∃ t₁ a t₂, t = t₁ ++ t₂ ∧ act.Runs t₁ a ∧ (f a).Runs t₂ b := by
  induction act generalizing t with
  | done a =>
    constructor
    · intro h
      exact ⟨[], a, t, rfl, .start, h⟩
    · intro h
      obtain ⟨t₁, a', t₂, rfl, h₁, h₂⟩ := h
      obtain ⟨rfl, h⟩ := done_leads.mp h₁
      cases h
      exact h₂
  | perform e next ih =>
    simp only [Act.bind, perform_runs]
    constructor
    · intro h
      obtain ⟨reply, t', rfl, h⟩ := h
      obtain ⟨t₁, a, t₂, rfl, h₁, h₂⟩ := (ih reply).mp h
      exact ⟨⟨e, reply⟩ :: t₁, a, t₂, rfl, ⟨reply, t₁, rfl, h₁⟩, h₂⟩
    · intro h
      obtain ⟨t₁, a, t₂, rfl, ⟨reply, t', rfl, h₁⟩, h₂⟩ := h
      exact ⟨reply, t' ++ t₂, rfl, (ih reply).mpr ⟨t', a, t₂, rfl, h₁, h₂⟩⟩

theorem effect_runs {e : Effect} {t : Trace} {reply : e.Reply} :
    (Act.effect e).Runs t reply ↔ t = [⟨e, reply⟩] := by
  simp only [Act.effect, perform_runs, done_leads, Act.done.injEq]
  constructor
  · intro h
    obtain ⟨_, _, rfl, rfl, rfl⟩ := h
    rfl
  · rintro rfl
    exact ⟨reply, [], rfl, rfl, rfl⟩

/-! ## Every act comes to its end -/

/-- Who answers effects, knowing what happened before. -/
abbrev Oracle := (past : Trace) → (e : Effect) → e.Reply

/-- What happens, and what the act ends with, when an oracle answers. -/
def play (oracle : Oracle) (past : Trace) : Act α → Trace × α
  | .done a => ([], a)
  | .perform e next =>
    let s : Step := ⟨e, oracle past e⟩
    let rest := (next s.reply).play oracle (past ++ [s])
    (s :: rest.1, rest.2)

theorem runs_play (oracle : Oracle) (act : Act α) (past : Trace) :
    act.Runs (act.play oracle past).1 (act.play oracle past).2 := by
  induction act generalizing past with
  | done a => exact .start
  | perform e next ih => exact .perform (ih _ _)

/-- The replies in a trace are those that worlds give. -/
def Lifelike (t : Trace) : Prop := ∀ s ∈ t, ∃ w : World, s.reply = (w.answer s.effect).1

/-- An act that is run in a world has a run there, with the result that the world gives. -/
theorem exists_runs (w : World) (act : Act α) : ∃ t, act.Runs t (w.run act).1 ∧ Lifelike t := by
  induction act generalizing w with
  | done a => exact ⟨[], .start, by simp [Lifelike]⟩
  | perform e next ih =>
    obtain ⟨t, ht, hl⟩ := ih (w.answer e).1 (w.answer e).2
    refine ⟨⟨e, (w.answer e).1⟩ :: t, .perform ht, ?_⟩
    intro s hs
    rcases List.mem_cons.mp hs with rfl | hs
    · exact ⟨w, rfl⟩
    · exact hl s hs

end Act

/-! ## Steps of a dispatch -/

namespace Run

variable {α β : Type} {p p' : Progress} {t : Trace}

/-- `r.Runs p t a p'`: from what the dispatch keeps in `p`, and answered as in `t`, the steps end
with `a` and leave `p'`. -/
def Runs (r : Run α) (p : Progress) (t : Trace) (a : α) (p' : Progress) : Prop :=
  (r p).Runs t (a, p')

@[simp] theorem runs_pure {a b : α} : Runs (pure a) p t b p' ↔ t = [] ∧ b = a ∧ p' = p := by
  change (Act.done (a, p)).Runs t (b, p') ↔ _
  simp

@[simp] theorem runs_bind {x : Run α} {f : α → Run β} {b : β} :
    Runs (x >>= f) p t b p' ↔ ∃ t₁ a p₁ t₂, t = t₁ ++ t₂ ∧ x.Runs p t₁ a p₁ ∧
      (f a).Runs p₁ t₂ b p' := by
  change ((x p).bind fun r => f r.1 r.2).Runs t (b, p') ↔ _
  rw [Act.runs_bind]
  constructor
  · intro h
    obtain ⟨t₁, ⟨a, p₁⟩, t₂, ht, h₁, h₂⟩ := h
    exact ⟨t₁, a, p₁, t₂, ht, h₁, h₂⟩
  · intro h
    obtain ⟨t₁, a, p₁, t₂, ht, h₁, h₂⟩ := h
    exact ⟨t₁, (a, p₁), t₂, ht, h₁, h₂⟩

@[simp] theorem runs_map {f : α → β} {x : Run α} {b : β} :
    Runs (f <$> x) p t b p' ↔ ∃ a, x.Runs p t a p' ∧ b = f a := by
  rw [map_eq_pure_bind, runs_bind]
  simp

@[simp] theorem runs_act {act : Act α} {a : α} :
    Runs (Run.act act) p t a p' ↔ act.Runs t a ∧ p' = p := by
  change (act.bind fun result => .done (result, p)).Runs t (a, p') ↔ _
  simp only [Act.runs_bind, Act.done_leads, Act.done.injEq, Prod.mk.injEq]
  constructor
  · intro h
    obtain ⟨t₁, a', t₂, rfl, h, rfl, rfl, rfl⟩ := h
    exact ⟨by simpa using h, rfl⟩
  · intro h
    obtain ⟨h, rfl⟩ := h
    exact ⟨t, a, [], by simp, h, rfl, rfl, rfl⟩

theorem runs_effect {e : Effect} {reply : e.Reply} :
    Runs (Run.effect e) p t reply p' ↔ t = [⟨e, reply⟩] ∧ p' = p := by
  change Runs (Run.act (Act.effect e)) p t reply p' ↔ _
  rw [runs_act, Act.effect_runs]

-- Instances for effects without a reply to speak of, with its type written out: in the general
-- lemma that type hides the effect from the simplifier.
@[simp] theorem runs_note {n : Notice} {u : Unit} :
    Runs (Run.note n) p t u p' ↔ t = [⟨.note n, ()⟩] ∧ p' = p := runs_effect

@[simp] theorem runs_remember {draft : Nat} {q : Request} {u : Unit} :
    @Runs Unit (Run.effect (.remember draft q)) p t u p' ↔
      t = [⟨.remember draft q, ()⟩] ∧ p' = p := runs_effect

@[simp] theorem runs_sleep {ms : Nat} {mode : Mode} {u : Unit} :
    @Runs Unit (Run.effect (.sleep ms mode)) p t u p' ↔
      t = [⟨.sleep ms mode, ()⟩] ∧ p' = p := runs_effect

@[simp] theorem runs_countCall {height n : Nat} :
    Runs (Run.countCall height) p t n p' ↔ t = [] ∧ n = p.calls height ∧
      p' = { p with calls := fun h => if h = height then p.calls height + 1 else p.calls h } := by
  change (Act.done (p.calls height, _)).Runs t (n, p') ↔ _
  simp

@[simp] theorem runs_keepSent {q : Request} {u : Unit} :
    Runs (Run.keepSent q) p t u p' ↔ t = [] ∧ p' = { p with sent := some q } := by
  change (Act.done ((), _)).Runs t (u, p') ↔ _
  simp

@[simp] theorem runs_takeSent {q? : Option Request} :
    Runs Run.takeSent p t q? p' ↔ t = [] ∧ q? = p.sent ∧ p' = { p with sent := none } := by
  change (Act.done (p.sent, _)).Runs t (q?, p') ↔ _
  simp

/-- The run of a dispatch that starts from a state is an act of its own. -/
theorem runs_run' {x : Run α} {a : α} : Act.Runs (x.run' p) t a ↔ ∃ p', x.Runs p t a p' := by
  change ((x p).bind fun r => .done r.1).Runs t a ↔ _
  rw [Act.runs_bind]
  constructor
  · intro h
    obtain ⟨t₁, ⟨a', p'⟩, t₂, rfl, h, h'⟩ := h
    simp only [Act.done_leads, Act.done.injEq] at h'
    obtain ⟨rfl, rfl⟩ := h'
    exact ⟨p', by simpa [Runs] using h⟩
  · intro h
    obtain ⟨p', h⟩ := h
    exact ⟨t, (a, p'), [], by simp, h, by simp⟩

end Run

end Courier
