import Courier.Proofs.Batches
import Courier.Proofs.Steps
/-
Batches with a limit. At every moment the requests that were started are the
first so many, and no more of them are open than the limit says: this is the
invariant of a turn (`Batch.Window`), whatever the order of the turns.

With a limit of one nothing overlaps. The request that may do something is the
first that is not settled, so what was done and then what would be done by
awaiting the rest, one request after another, is what awaiting all of them
would have done (`Batch.Turned.awaited_eq`).
-/
namespace Courier

/-! ## Awaiting one after another -/

/-- What comes of awaiting acts one after another: what each did, what it ended with, and the world
after all of them. -/
structure Awaited where
  history : History
  outcomes : List Outcome
  world : World

/-- What was done before comes first. -/
def Awaited.after (h : History) (a : Awaited) : Awaited := { a with history := h ++ a.history }

/-- Awaits acts one after another; `i` is the place of the first. -/
def World.awaited (w : World) (i : Nat) : List (Act Outcome) → Awaited
  | [] => ⟨[], [], w⟩
  | act :: acts =>
    let rest := (w.run act).2.awaited (i + 1) acts
    ⟨(w.steps act).map (i, ·) ++ rest.history, (w.run act).1 :: rest.outcomes, rest.world⟩

namespace World

theorem awaited_done (w : World) (i : Nat) (outs : List Outcome) (acts : List (Act Outcome)) :
    w.awaited i (outs.map .done ++ acts) =
      { w.awaited (i + outs.length) acts with
        outcomes := outs ++ (w.awaited (i + outs.length) acts).outcomes } := by
  induction outs generalizing i with
  | nil => rfl
  | cons out outs ih =>
    have hlength : i + 1 + outs.length = i + (out :: outs).length := by
      rw [List.length_cons]
      omega
    rw [List.map_cons, List.cons_append, awaited]
    simp only [run, steps, List.map_nil, List.nil_append, ih, hlength, List.cons_append]

/-- The first act that has something left to do does it first. -/
theorem awaited_perform (w : World) (outs : List Outcome) (e : Effect)
    (next : e.Reply → Act Outcome) (acts : List (Act Outcome)) :
    w.awaited 0 (outs.map .done ++ .perform e next :: acts) =
      ((w.answer e).2.awaited 0 (outs.map .done ++ next (w.answer e).1 :: acts)).after
        [(outs.length, ⟨e, (w.answer e).1⟩)] := by
  simp only [awaited_done, Nat.zero_add, awaited, Awaited.after, steps, run, List.map_cons,
    List.cons_append, List.nil_append]

end World

namespace Batch

theorem run_outcomes_eq (w : World) (i : Nat) (entries : List (BatchKey × Act Outcome)) :
    w.run (entries.mapM outcome) =
        ((entries.map (·.1)).zip (w.awaited i (entries.map (·.2))).outcomes,
          (w.awaited i (entries.map (·.2))).world) ∧
      w.steps (entries.mapM outcome) = (w.awaited i (entries.map (·.2))).history.map (·.2) := by
  induction entries generalizing w i with
  | nil => exact ⟨rfl, rfl⟩
  | cons entry entries ih =>
    obtain ⟨hrun, hsteps⟩ := ih (w.run entry.2).2 (i + 1)
    refine ⟨by rw [run_outcomes_cons, hrun]; rfl, ?_⟩
    rw [List.mapM_cons]
    change w.steps ((entry.2.bind fun out => .done (entry.1, out)).bind fun result =>
      (entries.mapM outcome).bind fun results => .done (result :: results)) = _
    simp only [World.steps_bind, World.run_bind, World.run, World.steps, List.append_nil, hsteps]
    simp [World.awaited, Function.comp_def]

/-- Running a batch is awaiting its requests in their order. -/
theorem run_eq_awaited (b : Batch) (w : World) :
    w.run b.run =
        (⟨(b.entries.map (·.1)).zip (w.awaited 0 (b.entries.map (·.2))).outcomes⟩,
          (w.awaited 0 (b.entries.map (·.2))).world) ∧
      w.steps b.run = (w.awaited 0 (b.entries.map (·.2))).history.map (·.2) := by
  obtain ⟨hrun, hsteps⟩ := run_outcomes_eq w 0 b.entries
  have hbind : b.run = (b.entries.mapM outcome).bind fun outcomes => .done ⟨outcomes⟩ := rfl
  rw [hbind, World.run_bind, World.steps_bind, hrun, hsteps]
  exact ⟨rfl, List.append_nil _⟩

/-! ## What a turn does -/

variable {limit : Option Nat} {u u' : Underway} {w w' : World} {i : Nat}

/-- The request at a place was started. -/
def isStarted (u : Underway) (i : Nat) : Bool := u[i]?.any (·.1)

/-- The request whose turn it is, if the turn starts it. -/
def startedIn (limit : Option Nat) (i : Nat) (u : Underway) (w : World) : List Nat :=
  if !isStarted u i && isStarted (turn limit i u w).1 i then [i] else []

/-- The step that a turn takes, if the request whose turn it is takes one. -/
def performedIn (i : Nat) (u : Underway) (w : World) : History :=
  match u[i]? with
  | some (true, .perform e _) => [(i, ⟨e, (w.answer e).1⟩)]
  | _ => []

/-- `Turned limit i u w u' w' starts h`: the turn starts a request, lets one take a step, or does
nothing. -/
inductive Turned (limit : Option Nat) (i : Nat) (u : Underway) (w : World) :
    Underway → World → List Nat → History → Prop
  | start {act} : u[i]? = some (false, act) → mayStart limit u i = true →
      Turned limit i u w (u.set i (true, act)) w [i] []
  | step {e next} : u[i]? = some (true, .perform e next) →
      Turned limit i u w (u.set i (true, next (w.answer e).1)) (w.answer e).2 []
        [(i, ⟨e, (w.answer e).1⟩)]
  | wait : Turned limit i u w u w [] []

theorem turned_turn (limit : Option Nat) (i : Nat) (u : Underway) (w : World) :
    Turned limit i u w (turn limit i u w).1 (turn limit i u w).2 (startedIn limit i u w)
      (performedIn i u w) := by
  obtain hentry | ⟨⟨started, act⟩, hentry⟩ : u[i]? = none ∨ ∃ entry, u[i]? = some entry := by
    cases u[i]? <;> simp
  · simpa [startedIn, performedIn, turn, isStarted, hentry] using Turned.wait
  have hlt : i < u.length := (List.getElem?_eq_some_iff.mp hentry).1
  cases started with
  | false =>
    by_cases hmay : mayStart limit u i = true
    · have hset : (u.set i (true, act))[i]? = some (true, act) := List.getElem?_set_self hlt
      simpa [startedIn, performedIn, turn, isStarted, hentry, hmay,
        hset] using Turned.start hentry hmay
    · simpa [startedIn, performedIn, turn, isStarted, hentry, hmay] using Turned.wait
  | true =>
    cases act with
    | done out => simpa [startedIn, performedIn, turn, isStarted, hentry] using Turned.wait
    | perform e next =>
      simpa [startedIn, performedIn, turn, isStarted, hentry] using Turned.step hentry

/-! ## What turns do -/

/-- The requests that are started, in the order of the turns that start them. -/
def started (limit : Option Nat) : List Nat → Underway → World → List Nat
  | [], _, _ => []
  | i :: schedule, u, w =>
    startedIn limit i u w ++ started limit schedule (turn limit i u w).1 (turn limit i u w).2

/-- The steps that are taken, in the order of the turns. -/
def performed (limit : Option Nat) : List Nat → Underway → World → History
  | [], _, _ => []
  | i :: schedule, u, w =>
    performedIn i u w ++ performed limit schedule (turn limit i u w).1 (turn limit i u w).2

/-! ## The window -/

/-- How many requests are settled before the first that is not. -/
def lead (u : Underway) : Nat := (u.takeWhile fun entry => (settled? entry).isSome).length

/-- The request was started and is not settled. -/
def isOpen (entry : Bool × Act Outcome) : Bool := entry.1 && (settled? entry).isNone

/-- The first `k` requests and no others were started, and not more than the limit beyond the first
that is not settled. -/
structure Window (limit k : Nat) (u : Underway) : Prop where
  started : ∀ i, isStarted u i = decide (i < k)
  within : k ≤ lead u + limit

theorem settledAt_iff :
    SettledAt u i ↔ ∃ entry, u[i]? = some entry ∧ (settled? entry).isSome = true := by
  constructor
  · rintro ⟨out, hout⟩
    exact ⟨_, hout, rfl⟩
  · rintro ⟨entry, hentry, hsome⟩
    obtain ⟨out, hout⟩ := Option.isSome_iff_exists.mp hsome
    exact ⟨out, by rw [hentry, settled?_eq_some.mp hout]⟩

theorem le_lead {k : Nat} : k ≤ lead u ↔ ∀ i < k, SettledAt u i := by
  induction u generalizing k with
  | nil =>
    cases k with
    | zero => simp
    | succ k =>
      exact iff_of_false (by simp [lead]) fun h => by simpa [SettledAt] using h 0 (Nat.succ_pos k)
  | cons entry u ih =>
    cases k with
    | zero => simp
    | succ k =>
      by_cases hsome : (settled? entry).isSome = true
      · have hlead : lead (entry :: u) = lead u + 1 := by simp [lead, hsome]
        have hfirst : SettledAt (entry :: u) 0 := settledAt_iff.mpr ⟨entry, rfl, hsome⟩
        rw [hlead, Nat.succ_le_succ_iff, ih, Nat.forall_lt_succ_left]
        exact (and_iff_right hfirst).symm
      · have hlead : lead (entry :: u) = 0 := by simp [lead, hsome]
        refine iff_of_false (by omega) fun h => hsome ?_
        obtain ⟨entry', hentry', hsome'⟩ := settledAt_iff.mp (h 0 (Nat.succ_pos k))
        obtain rfl : entry = entry' := by simpa using hentry'
        exact hsome'

theorem lead_le_turn (limit : Option Nat) (i : Nat) (u : Underway) (w : World) :
    lead u ≤ lead (turn limit i u w).1 :=
  le_lead.mpr fun j hj => (le_lead.mp (Nat.le_refl _) j hj).turn limit i w

theorem isStarted_set (hi : i < u.length) (entry : Bool × Act Outcome) (j : Nat) :
    isStarted (u.set i entry) j = if i = j then entry.1 else isStarted u j := by
  by_cases hij : i = j
  · subst hij
    simp [isStarted, List.getElem?_set_self hi]
  · simp [isStarted, List.getElem?_set_ne hij, hij]

theorem mayStart_some {limit : Nat} (hi : i < u.length) :
    mayStart (some limit) u i = true ↔ (∀ j < i, isStarted u j = true) ∧ i < lead u + limit := by
  have htake : (u.take i).all (·.1) = true ↔ ∀ j < i, isStarted u j = true := by
    simp only [List.all_eq_true, List.mem_iff_getElem, List.getElem_take, List.length_take]
    constructor
    · intro h j hj
      simpa [isStarted, List.getElem?_eq_getElem (Nat.lt_trans hj hi)] using h _ ⟨j, by omega, rfl⟩
    · rintro h _ ⟨j, hj, rfl⟩
      have hlt : j < u.length := by omega
      simpa [isStarted, List.getElem?_eq_getElem hlt] using h j (by omega)
  simp [mayStart, htake, lead]

theorem isStarted_of_settled (h : SettledAt u i) : isStarted u i = true := by
  obtain ⟨out, hout⟩ := h
  simp [isStarted, hout]

namespace Window

variable {limit k : Nat} {starts : List Nat} {h : History}

theorem lead_le (hw : Window limit k u) : lead u ≤ k := by
  by_contra hlt
  have hstarted := isStarted_of_settled (le_lead.mp (Nat.le_refl _) k (Nat.lt_of_not_le hlt))
  simp [hw.started] at hstarted

/-- No more requests are open than the limit says. -/
theorem countP_isOpen (hw : Window limit k u) : u.countP isOpen ≤ limit := by
  have hsettled : (u.take (lead u)).countP isOpen = 0 := by
    rw [List.countP_eq_zero]
    intro entry hentry
    obtain ⟨i, hi, rfl⟩ := List.mem_iff_getElem.mp hentry
    obtain ⟨out, hout⟩ := le_lead.mp (Nat.le_refl (lead u)) i (by simp at hi; omega)
    obtain ⟨hlt, hget⟩ := List.getElem?_eq_some_iff.mp hout
    rw [List.getElem_take, hget]
    simp [isOpen, settled?]
  have hwaiting : (u.drop k).countP isOpen = 0 := by
    rw [List.countP_eq_zero]
    intro entry hentry
    obtain ⟨i, hi, rfl⟩ := List.mem_iff_getElem.mp hentry
    have hlt : k + i < u.length := by simp at hi; omega
    have hstarted := hw.started (k + i)
    simp only [isStarted, List.getElem?_eq_getElem hlt, Option.any_some] at hstarted
    simp [isOpen, hstarted]
  have hsplit : u = u.take (lead u) ++ ((u.drop (lead u)).take (k - lead u) ++ u.drop k) := by
    have hdrop : u.drop k = (u.drop (lead u)).drop (k - lead u) := by
      rw [List.drop_drop, Nat.add_sub_cancel' hw.lead_le]
    rw [hdrop, List.take_append_drop, List.take_append_drop]
  have hbetween : ((u.drop (lead u)).take (k - lead u)).countP isOpen ≤ k - lead u :=
    List.countP_le_length.trans (List.length_take_le _ _)
  have hwithin := hw.within
  rw [hsplit, List.countP_append, List.countP_append, hsettled, hwaiting]
  omega

/-- A turn starts the next request or none. -/
theorem turned (hw : Window limit k u) (ht : Turned (some limit) i u w u' w' starts h)
    (hlead : lead u ≤ lead u') :
    ∃ m, starts = List.range' k m ∧ Window limit (k + m) u' := by
  have hwithin := hw.within
  cases ht with
  | start hentry hmay =>
    have hi : i < u.length := (List.getElem?_eq_some_iff.mp hentry).1
    obtain ⟨hbefore, hlt⟩ := (mayStart_some hi).mp hmay
    -- It is not started yet, and all before it are.
    obtain rfl : i = k := by
      have hnot : k ≤ i := by simpa [isStarted, hentry] using (hw.started i).symm
      have hall : i ≤ k := Nat.le_of_not_lt fun hki => by simpa [hw.started] using hbefore k hki
      exact Nat.le_antisymm hall hnot
    refine ⟨1, rfl, ⟨fun j => ?_, by omega⟩⟩
    rw [isStarted_set hi, hw.started]
    split
    · simp; omega
    · simp; omega
  | step hentry =>
    have hi : i < u.length := (List.getElem?_eq_some_iff.mp hentry).1
    refine ⟨0, rfl, ⟨fun j => ?_, by omega⟩⟩
    rw [isStarted_set hi]
    split
    · next hij => simpa [isStarted, ← hij, hentry] using hw.started j
    · exact hw.started j
  | wait => exact ⟨0, rfl, hw⟩

end Window

/-- However the turns are taken, they start the requests in their order, and the window is kept. -/
theorem window_turns {limit k : Nat} (hw : Window limit k u) (schedule : List Nat) (w : World) :
    ∃ m, started (some limit) schedule u w = List.range' k m ∧
      Window limit (k + m) (turns (some limit) schedule u w).1 := by
  induction schedule generalizing k u w with
  | nil => exact ⟨0, rfl, hw⟩
  | cons i schedule ih =>
    obtain ⟨m, hstarts, hturn⟩ := hw.turned (turned_turn _ _ _ _) (lead_le_turn (some limit) i u w)
    obtain ⟨n, hstarted, hturns⟩ := ih hturn (turn (some limit) i u w).2
    refine ⟨m + n, ?_, by rwa [← Nat.add_assoc]⟩
    rw [started, hstarts, hstarted, List.range'_append_1]

theorem window_underway (b : Batch) (limit : Nat) : Window limit 0 b.underway where
  started := by simp [isStarted, underway, Option.any_map]
  within := Nat.zero_le _

/-! ## The history of a batch -/

/-- To start a request leaves all of them as they are. -/
theorem map_set_start {act : Act Outcome} {before after : Bool}
    (hentry : u[i]? = some (before, act)) :
    (u.set i (after, act)).map (·.2) = u.map (·.2) := by
  obtain ⟨hlt, hget⟩ :=
    List.getElem?_eq_some_iff.mp (show (u.map (·.2))[i]? = some act by simp [hentry])
  rw [List.map_set, ← hget, List.set_getElem_self]

theorem Turned.alternation {starts : List Nat} {acts : List (Act Outcome)} {before : World}
    {h h' : History} (ht : Turned limit i u w u' w' starts h')
    (ha : Alternation acts before h (u.map (·.2)) w) :
    Alternation acts before (h ++ h') (u'.map (·.2)) w' := by
  cases ht with
  | start hentry _ => rwa [map_set_start hentry, List.append_nil]
  | step hentry =>
    rw [List.map_set]
    exact ha.turn (by simp [hentry])
  | wait => rwa [List.append_nil]

/-- The steps that are taken are a history of the requests, in which nothing else happens. -/
theorem alternation_performed (limit : Option Nat) (schedule : List Nat)
    (u : Underway) (w : World) :
    Alternation (u.map (·.2)) w (performed limit schedule u w)
      ((turns limit schedule u w).1.map (·.2)) (turns limit schedule u w).2 := by
  suffices hgen : ∀ (u' : Underway) (w' : World) (h : History),
    Alternation (u.map (·.2)) w h (u'.map (·.2)) w' →
      Alternation (u.map (·.2)) w (h ++ performed limit schedule u' w')
        ((turns limit schedule u' w').1.map (·.2))
        (turns limit schedule u' w').2 from hgen u w [] .start
  induction schedule with
  | nil =>
    intro u' w' h ha
    simpa [performed, turns] using ha
  | cons i schedule ih =>
    intro u' w' h ha
    rw [performed, ← List.append_assoc]
    exact ih _ _ _ ((turned_turn limit i u' w').alternation ha)

theorem Turned.isStarted_of {starts : List Nat} {h : History}
    (ht : Turned limit i u w u' w' starts h) {j : Nat}
    (hj : isStarted u j = true ∨ ∃ s, (j, s) ∈ h) : isStarted u' j = true := by
  cases ht with
  | start hentry _ =>
    have hi : i < u.length := (List.getElem?_eq_some_iff.mp hentry).1
    rw [isStarted_set hi]
    split
    · rfl
    · simpa using hj
  | step hentry =>
    have hi : i < u.length := (List.getElem?_eq_some_iff.mp hentry).1
    rw [isStarted_set hi]
    split
    · rfl
    · next hne =>
      obtain hj | ⟨s, hs⟩ := hj
      · exact hj
      · exact absurd (by simpa using hs) fun heq : j = i ∧ _ => hne heq.1.symm
  | wait => simpa using hj

/-- Only requests that were started take steps. -/
theorem isStarted_turns (schedule : List Nat) {j : Nat}
    (hj : isStarted u j = true ∨ ∃ s, (j, s) ∈ performed limit schedule u w) :
    isStarted (turns limit schedule u w).1 j = true := by
  induction schedule generalizing u w with
  | nil => simpa [performed, turns] using hj
  | cons i schedule ih =>
    have hturn := turned_turn limit i u w
    refine ih (u := (turn limit i u w).1) (w := (turn limit i u w).2) ?_
    obtain hj | ⟨s, hs⟩ := hj
    · exact .inl (hturn.isStarted_of (.inl hj))
    · obtain hs | hs := List.mem_append.mp hs
      · exact .inl (hturn.isStarted_of (.inr ⟨s, hs⟩))
      · exact .inr ⟨s, hs⟩

/-! ## One at a time -/

/-- What is settled, what has its turn next, and what comes after it. -/
theorem exists_settled_before {entry : Bool × Act Outcome} (hentry : u[i]? = some entry)
    (h : ∀ j < i, SettledAt u j) : ∃ (outs : List Outcome) (behind : Underway), outs.length = i ∧
      u = outs.map (fun out => (true, .done out)) ++ entry :: behind := by
  induction u generalizing i with
  | nil => simp at hentry
  | cons first u ih =>
    cases i with
    | zero =>
      obtain rfl : first = entry := by simpa using hentry
      exact ⟨[], u, rfl, rfl⟩
    | succ i =>
      obtain ⟨out, hout⟩ := h 0 (Nat.succ_pos i)
      obtain rfl : first = (true, .done out) := by simpa using hout
      obtain ⟨outs, behind, rfl, rfl⟩ :=
        ih (by simpa using hentry) fun j hj => h (j + 1) (Nat.succ_lt_succ hj)
      exact ⟨out :: outs, behind, rfl, rfl⟩

/-- One at a time, a turn does what awaiting the requests would do next. -/
theorem Turned.awaited_eq {k : Nat} {starts : List Nat} {h : History} (hw : Window 1 k u)
    (ht : Turned (some 1) i u w u' w' starts h) :
    w.awaited 0 (u.map (·.2)) = (w'.awaited 0 (u'.map (·.2))).after h := by
  cases ht with
  | start hentry _ =>
    rw [map_set_start hentry]
    rfl
  | @step e next hentry =>
    -- It was started, so all before it are settled.
    have hi : i < k := by simpa [isStarted, hentry] using hw.started i
    have hbefore : ∀ j < i, SettledAt u j := le_lead.mp (by have := hw.within; omega)
    obtain ⟨outs, behind, rfl, rfl⟩ := exists_settled_before hentry hbefore
    have hdone : (outs.map fun out => (true, Act.done out)).map (·.2) = outs.map Act.done := by simp
    have hset : (outs.map (fun out => (true, Act.done out)) ++ (true, .perform e next) ::
        behind).set outs.length (true, next (w.answer e).1) =
          outs.map (fun out => (true, Act.done out)) ++ (true, next (w.answer e).1) :: behind := by
      simp
    rw [hset, List.map_append, List.map_append, hdone, List.map_cons, List.map_cons,
      World.awaited_perform]
  | wait => rfl

/-- One at a time, whatever the order of the turns, what was done and then what is left to do is
what awaiting the requests one after another would have done. -/
theorem awaited_eq_turns {k : Nat} (hw : Window 1 k u) (schedule : List Nat) (w : World) :
    w.awaited 0 (u.map (·.2)) =
      ((turns (some 1) schedule u w).2.awaited 0 ((turns (some 1) schedule u w).1.map (·.2))).after
        (performed (some 1) schedule u w) := by
  induction schedule generalizing k u w with
  | nil => rfl
  | cons i schedule ih =>
    have hturn := turned_turn (some 1) i u w
    obtain ⟨m, -, hnext⟩ := hw.turned hturn (lead_le_turn (some 1) i u w)
    rw [hturn.awaited_eq hw, ih hnext]
    simp only [Awaited.after, performed, List.append_assoc]
    rfl

/-- Once all requests are settled, nothing is left to do. -/
theorem awaited_settled {b : Batch} {r : BatchResults} (hlength : u.length = b.entries.length)
    (hr : b.results? u = some r) (w : World) :
    w.awaited 0 (u.map (·.2)) = ⟨[], r.entries.map (·.2), w⟩ := by
  obtain ⟨-, rfl⟩ := (results?_eq_some hlength).mp hr
  have hdone : (r.entries.map fun entry => (true, Act.done entry.2)).map (·.2) =
      (r.entries.map (·.2)).map Act.done ++ [] := by simp
  rw [hdone, World.awaited_done, World.awaited, List.append_nil]

/-- One at a time, the batch comes to what it comes to if it is run one request after another. -/
theorem inTurns_one {b : Batch} (hlimit : b.limit = some 1) {schedule : List Nat} {r : BatchResults}
    (hr : b.inTurns schedule w = some r) :
    performed b.limit schedule b.underway w = (w.awaited 0 (b.entries.map (·.2))).history ∧
      w.run b.run = (r, (turns b.limit schedule b.underway w).2) := by
  have hlength : (turns b.limit schedule b.underway w).1.length = b.entries.length := by
    simp [length_turns, underway]
  have hacts : b.underway.map (·.2) = b.entries.map (·.2) := by simp [underway, Function.comp_def]
  have hawaited := awaited_eq_turns (window_underway b 1) schedule w
  rw [← hlimit, hacts, awaited_settled hlength hr] at hawaited
  obtain ⟨hkeys, -⟩ := (results?_eq_some hlength).mp hr
  rw [(run_eq_awaited b w).1, hawaited]
  refine ⟨(List.append_nil _).symm, ?_⟩
  have hzip : (b.entries.map (·.1)).zip (r.entries.map (·.2)) = r.entries := by
    rw [← hkeys, List.zip_map']
    exact List.map_id' _
  simp only [Awaited.after, hzip]

/-! ## Batches with a limit -/

/-- The requests and the world after the turns of a schedule. -/
def standing (b : Batch) (schedule : List Nat) (w : World) : Underway × World :=
  turns b.limit schedule b.underway w

/-- The requests that the turns of a schedule start, in their order. -/
def starts (b : Batch) (schedule : List Nat) (w : World) : List Nat :=
  started b.limit schedule b.underway w

/-- What the requests do in the turns of a schedule. -/
def history (b : Batch) (schedule : List Nat) (w : World) : History :=
  performed b.limit schedule b.underway w

/-- What comes of awaiting the requests one after another. -/
def awaited (b : Batch) (w : World) : Awaited := w.awaited 0 (b.entries.map (·.2))

/-- The limit that was set last is the limit of the batch, and it is at least one. -/
theorem limit_made_last {before after : List Call} {n : Nat} (hlast : ∀ m, .limit m ∉ after) :
    (made (before ++ .limit n :: after)).limit = some (max n 1) := by
  rw [made_append, List.foldl_cons]
  induction after using List.reverseRecOn with
  | nil => rfl
  | append_singleton after c ih =>
    rw [List.foldl_append]
    cases c with
    | limit m => exact absurd (by simp) (hlast m)
    | _ => exact ih fun m hm => hlast m (List.mem_append_left _ hm)

/-- With a limit of `n`, whatever the order of the turns, at most `n` requests are open at every
moment, or one if `n` is zero. The requests are started in their order, each once, and take their
steps once they are started. If every request has its turn again and again, all are settled in the
end. With a limit of one or none, what was done at any moment begins what awaiting the requests one
after another does, step by step and with the same replies, and once all are settled it is all of
that, with the same results and in the same world. -/
theorem made_keeps_window {before after calls : List Call} {n : Nat}
    (hcalls : calls = before ++ .limit n :: after) (hlast : ∀ m, .limit m ∉ after) (w : World) :
    (∀ schedule,
      ((made calls).standing schedule w).1.countP isOpen ≤ max n 1 ∧
      Alternation ((made calls).entries.map (·.2)) w ((made calls).history schedule w)
        (((made calls).standing schedule w).1.map (·.2)) ((made calls).standing schedule w).2 ∧
      ∃ k, (made calls).starts schedule w = List.range k ∧
        (∀ i, isStarted ((made calls).standing schedule w).1 i = decide (i < k)) ∧
        ∀ s ∈ (made calls).history schedule w, s.1 < k) ∧
    (∀ schedule, Fair schedule → ∃ m r, (made calls).inTurns ((List.range m).map schedule) w =
      some r) ∧
    (n ≤ 1 → ∀ schedule,
      (made calls).history schedule w <+: ((made calls).awaited w).history ∧
      ∀ r, (made calls).inTurns schedule w = some r →
        (made calls).history schedule w = ((made calls).awaited w).history ∧
        ((made calls).history schedule w).map (·.2) = w.steps (made calls).run ∧
        w.run (made calls).run = (r, ((made calls).standing schedule w).2)) := by
  have hlimit : (made calls).limit = some (max n 1) := hcalls ▸ limit_made_last hlast
  generalize made calls = b at hlimit
  have hone (hn : n ≤ 1) : b.limit = some 1 := hlimit.trans (congrArg some (Nat.max_eq_right hn))
  have hacts : b.underway.map (·.2) = b.entries.map (·.2) := by simp [underway, Function.comp_def]
  refine ⟨fun schedule => ?_, fun schedule hfair => ?_, fun hn schedule => ⟨?_, fun r hr => ?_⟩⟩
  · obtain ⟨k, hstarts, hwindow⟩ := window_turns (window_underway b (max n 1)) schedule w
    rw [Nat.zero_add, ← hlimit] at hwindow
    refine ⟨hwindow.countP_isOpen, ?_, k, ?_, hwindow.started, fun s hs => ?_⟩
    · rw [← hacts]
      exact alternation_performed b.limit schedule b.underway w
    · rw [starts, hlimit, hstarts, List.range_eq_range']
    · simpa [hwindow.started] using isStarted_turns schedule (.inr ⟨s.2, hs⟩)
  · have hpos : b.limit ≠ some 0 := by simp [hlimit]
    obtain ⟨m, hm⟩ := exists_settled hfair hpos b.underway w (Nat.le_refl _)
    obtain ⟨r, hr⟩ := exists_results (b := b) (by simp [length_after, underway]) fun i hi =>
      hm i (by rwa [length_after] at hi)
    exact ⟨m, r, hr⟩
  · have hawaited := awaited_eq_turns (window_underway b 1) schedule w
    rw [hacts] at hawaited
    rw [awaited, hawaited, history, hone hn]
    exact List.prefix_append _ _
  · obtain ⟨hhistory, hrun⟩ := inTurns_one (hone hn) hr
    exact ⟨hhistory, (congrArg (List.map _) hhistory).trans (run_eq_awaited b w).2.symm, hrun⟩

/-- The same dispatch twice, which draws from a queue, one at a time. -/
def sharing : List Call :=
  [.push Dispatch.guarded.run, .limit 0, .add (.named "again") Dispatch.guarded.run]

theorem made_keeps_window_sharing : ∃ (schedule : List Nat) (r : BatchResults),
    (∀ m, Call.limit m ∉ [Call.add (.named "again") Dispatch.guarded.run]) ∧
    (made sharing).inTurns schedule (.initial .default true .unreachable) = some r ∧
    (made sharing).starts schedule (.initial .default true .unreachable) = [0, 1] ∧
    ((made sharing).history schedule (.initial .default true .unreachable)).map (·.2) =
      (World.initial .default true .unreachable).steps (made sharing).run := by
  have hlast : ∀ m, Call.limit m ∉ [Call.add (.named "again") Dispatch.guarded.run] := by simp
  -- The turns of the second come first, but it has to wait.
  obtain ⟨schedule, hschedule⟩ : ∃ schedule, schedule = (List.replicate 12 [1, 0]).flatten :=
    ⟨_, rfl⟩
  have hsettled : ((made sharing).inTurns schedule (.initial .default true .unreachable)).isSome =
      true := by
    subst hschedule
    decide +kernel
  have hstarts : (made sharing).starts schedule (.initial .default true .unreachable) = [0, 1] := by
    subst hschedule
    decide +kernel
  obtain ⟨r, hr⟩ := Option.isSome_iff_exists.mp hsettled
  have hcalls : sharing =
      [.push Dispatch.guarded.run] ++ .limit 0 :: [.add (.named "again") Dispatch.guarded.run] :=
        rfl
  obtain ⟨-, -, hone⟩ := made_keeps_window hcalls hlast (.initial .default true .unreachable)
  obtain ⟨-, hresults⟩ := hone (by decide) schedule
  exact ⟨schedule, r, hlast, hr, hstarts, (hresults r hr).2.1⟩

end Batch

end Courier
