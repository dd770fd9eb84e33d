import Courier.Batch
import Courier.Proofs.Runs
/-
Acts that are under way at the same time in one world. Each turn lets one of
them perform its next effect; between turns anything else may happen to the
world, as long as nobody else claims to have sent a request of a draft.

What one act did in such a history is the beginning of a run of that act, so
what holds of every run of a dispatch holds of it among others, too.

* `Interleaving.exists_runs`: each act's own steps can be completed to a run of
  it, and are one if the act has come to its end.
* `Interleaving.sent_eq`: the world remembers the requests in the order of the
  history, whichever act sent them.
* `Batch.exists_interleaving`: a batch that is run in turns is such a history.
-/
namespace Courier

/-- Steps, each with the place of the act that made it. -/
abbrev History := List (Nat × Step)

/-- `Interleaving acts w h left w'`: from `w` on, taking turns as in `h`, the acts came to what is
left of them, and the world to `w'`. -/
inductive Interleaving (acts : List (Act Outcome)) (w : World) :
    History → List (Act Outcome) → World → Prop
  | start : Interleaving acts w [] acts w
  | turn {h left w' i e next} : Interleaving acts w h left w' → left[i]? = some (.perform e next) →
      Interleaving acts w (h ++ [(i, ⟨e, (w'.answer e).1⟩)]) (left.set i (next (w'.answer e).1))
        (w'.answer e).2
  | meanwhile {h left w' w''} : Interleaving acts w h left w' → w''.sent = w'.sent →
      Interleaving acts w h left w''

namespace History

/-- What the act at a place did. -/
def own (h : History) (i : Nat) : Trace := (h.filter (·.1 = i)).map (·.2)

@[simp] theorem own_nil (i : Nat) : own [] i = [] := rfl

theorem own_snoc (h : History) (s : Nat × Step) (i : Nat) :
    own (h ++ [s]) i = own h i ++ if s.1 = i then [s.2] else [] := by
  simp only [own, List.filter_append, List.map_append, List.append_cancel_left_eq]
  by_cases hs : s.1 = i <;> simp [hs]

/-- A turn takes the act whose turn it is one step on, and leaves each of the others where it is. -/
theorem leads_turn {left : List (Act Outcome)} {h : History} {act : Act Outcome}
    {i j : Nat} {e : Effect} {next : e.Reply → Act Outcome} (hj : left[j]? = some (.perform e next))
    (reply : e.Reply)
    (hl : ∃ rest, left[i]? = some rest ∧ act.Leads (h.own i) rest) :
    ∃ rest, (left.set j (next reply))[i]? = some rest ∧
      act.Leads (own (h ++ [(j, ⟨e, reply⟩)]) i) rest := by
  obtain ⟨rest, hrest, hl⟩ := hl
  rw [own_snoc]
  by_cases hji : j = i
  · subst hji
    obtain rfl : rest = .perform e next := by simpa [hrest] using hj
    have hlt : j < left.length := (List.getElem?_eq_some_iff.mp hrest).1
    exact ⟨next reply, by simp [hlt], by simpa using hl.snoc reply⟩
  · exact ⟨rest, by simpa [hji] using hrest, by simpa [hji] using hl⟩

end History

namespace Interleaving

variable {acts left : List (Act Outcome)} {w w' : World} {h : History}

/-- Each act is where its own steps lead. -/
theorem leads_own (hi : Interleaving acts w h left w') {i : Nat} {act : Act Outcome}
    (ha : acts[i]? = some act) : ∃ rest, left[i]? = some rest ∧ act.Leads (h.own i) rest := by
  induction hi with
  | start => exact ⟨act, ha, .start⟩
  | turn _ hj ih => exact History.leads_turn hj _ ih
  | meanwhile _ _ ih => exact ih

theorem lifelike_own (hi : Interleaving acts w h left w') (i : Nat) : Act.Lifelike (h.own i) := by
  induction hi with
  | start => simp [Act.Lifelike]
  | @turn h left w' j e next _ _ ih =>
    rw [History.own_snoc]
    intro s hs
    rcases List.mem_append.mp hs with hs | hs
    · exact ih s hs
    · split at hs
      · obtain rfl := List.mem_singleton.mp hs
        exact ⟨w', rfl⟩
      · simp at hs
  | meanwhile _ _ ih => exact ih

/-- What an act did begins one of its runs; if it has come to its end, that is all of the run. -/
theorem exists_runs (hi : Interleaving acts w h left w') {i : Nat} {act : Act Outcome}
    (ha : acts[i]? = some act) : ∃ rest out, act.Runs (h.own i ++ rest) out ∧
      Act.Lifelike (h.own i ++ rest) ∧ ∀ o, left[i]? = some (.done o) → rest = [] ∧ out = o := by
  obtain ⟨act', hleft, hl⟩ := hi.leads_own ha
  obtain ⟨rest, hrest, hlife⟩ := act'.exists_runs w'
  refine ⟨rest, _, hl.append hrest, ?_, ?_⟩
  · intro s hs
    exact (List.mem_append.mp hs).elim (hi.lifelike_own i s) (hlife s)
  · intro o ho
    obtain rfl : act' = .done o := by simpa [hleft] using ho
    exact ⟨(Act.done_leads.mp hrest).1, rfl⟩

theorem length_eq (hi : Interleaving acts w h left w') : left.length = acts.length := by
  induction hi with
  | start => rfl
  | turn _ _ ih => rw [List.length_set, ih]
  | meanwhile _ _ ih => exact ih

/-- An act that joins the others does not disturb them. -/
theorem join (hi : Interleaving acts w h left w') (act : Act Outcome) :
    Interleaving (acts ++ [act]) w h (left ++ [act]) w' := by
  induction hi with
  | start => exact .start
  | @turn h left w' i e next _ hget ih =>
    have hlt : i < left.length := (List.getElem?_eq_some_iff.mp hget).1
    have hturn := ih.turn (by rw [List.getElem?_append_left hlt]; exact hget)
    rwa [List.set_append_left _ _ hlt] at hturn
  | meanwhile _ hsent ih => exact ih.meanwhile hsent

end Interleaving

/-! ## Requests that are remembered -/

theorem World.sent_answer (w : World) (e : Effect) (reply : e.Reply) :
    (w.answer e).2.sent = (Step.remembered? ⟨e, reply⟩).toList ++ w.sent := by
  cases e with
  | note n => rfl
  | freshBoundary => rfl
  | truncation => rfl
  | remember draft q => rfl
  | record recorder q r? => cases recorder <;> rfl
  | takeCanned number => rfl
  | writeSink sink bytes =>
    cases sink with
    | buffer name => rfl
    | file path =>
      simp only [World.answer, World.write]
      split <;> rfl
  | sleep ms mode =>
    simp only [World.answer]
    split <;> rfl
  | exchange wire timeout => rfl

/-- The world remembers the requests that the acts sent, the last one first. -/
theorem Interleaving.sent_eq {acts left : List (Act Outcome)} {w w' : World} {h : History}
    (hi : Interleaving acts w h left w') :
    w'.sent = (h.filterMap (·.2.remembered?)).reverse ++ w.sent := by
  induction hi with
  | start => rfl
  | @turn h left w' i e next _ _ ih =>
    rw [World.sent_answer w' e (w'.answer e).1, ih, List.filterMap_append, List.reverse_append]
    cases hs : Step.remembered? ⟨e, (w'.answer e).1⟩ <;> simp [hs]
  | meanwhile _ hs ih => rw [hs, ih]

/-! ## Batches -/

/-- `Alternation acts w h left w'`: the acts take turns as in an interleaving, and nothing else
happens. -/
inductive Alternation (acts : List (Act Outcome)) (w : World) :
    History → List (Act Outcome) → World → Prop
  | start : Alternation acts w [] acts w
  | turn {h left w' i e next} : Alternation acts w h left w' → left[i]? = some (.perform e next) →
      Alternation acts w (h ++ [(i, ⟨e, (w'.answer e).1⟩)]) (left.set i (next (w'.answer e).1))
        (w'.answer e).2

namespace Alternation

variable {acts left : List (Act Outcome)} {w w' : World} {h : History}

theorem interleaving (ha : Alternation acts w h left w') : Interleaving acts w h left w' := by
  induction ha with
  | start => exact .start
  | turn _ hget ih => exact ih.turn hget

theorem batch_turn {u : Batch.Underway} (ha : Alternation acts w h (u.map (·.2)) w')
    (limit : Option Nat) (i : Nat) :
    ∃ h', Alternation acts w h' ((Batch.turn limit i u w').1.map (·.2))
      (Batch.turn limit i u w').2 := by
  unfold Batch.turn
  split
  · next act hu =>
    split
    · -- The request is started, which leaves all acts as they are.
      have hsame : (u.set i (true, act)).map (·.2) = u.map (·.2) := by
        obtain ⟨hlt, hget⟩ := List.getElem?_eq_some_iff.mp
          (show (u.map (·.2))[i]? = some act by simp [hu])
        rw [List.map_set, ← hget, List.set_getElem_self]
      exact ⟨h, hsame ▸ ha⟩
    · exact ⟨h, ha⟩
  · next e next hu =>
    refine ⟨h ++ [(i, ⟨e, (w'.answer e).1⟩)], ?_⟩
    rw [List.map_set]
    exact ha.turn (by simp [hu])
  · exact ⟨h, ha⟩

end Alternation

/-- Running a batch in turns, whatever the schedule, lets its requests take turns and nothing
else. -/
theorem Batch.exists_alternation (limit : Option Nat) (schedule : List Nat)
    (u : Underway) (w : World) :
    ∃ h, Alternation (u.map (·.2)) w h ((turns limit schedule u w).1.map (·.2))
      (turns limit schedule u w).2 := by
  suffices hgen : ∀ (u' : Underway) (w' : World) (h : History),
      Alternation (u.map (·.2)) w h (u'.map (·.2)) w' →
      ∃ h', Alternation (u.map (·.2)) w h' ((turns limit schedule u' w').1.map (·.2))
        (turns limit schedule u' w').2 from hgen u w [] .start
  induction schedule with
  | nil => exact fun u' w' h ha => ⟨h, ha⟩
  | cons i schedule ih =>
    intro u' w' h ha
    obtain ⟨h', ha'⟩ := ha.batch_turn limit i
    exact ih _ _ h' ha'

/-- So it interleaves them. -/
theorem Batch.exists_interleaving (limit : Option Nat) (schedule : List Nat)
    (u : Underway) (w : World) :
    ∃ h, Interleaving (u.map (·.2)) w h ((turns limit schedule u w).1.map (·.2))
      (turns limit schedule u w).2 := by
  obtain ⟨h, ha⟩ := exists_alternation limit schedule u w
  exact ⟨h, ha.interleaving⟩

end Courier
