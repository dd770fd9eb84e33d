import Courier.Proofs.Answering
import Mathlib.Data.List.Induction
/-
Queues of answers that are shared: dispatches take from a queue while others
add to it and set what is repeated when it is empty. A ledger of what was added
and handed out, kept by looking at the history alone, agrees with the queue at
every moment (`Ledger.Matches`), so every answer is handed out at most once, in
the order in which the answers were added, and what is not is still there.
-/
namespace Courier

/-! ## Histories of a queue -/

/-- What happens while a queue is in use: a step of one of the acts, or a change from outside. -/
inductive Happening
  | step (i : Nat) (s : Step)
  | push (c : Canned)
  | whenEmpty (r : Response)

/-- `Sharing number acts w h left w'`: from `w` on, the acts take turns, and the queue `number` is
changed, as in `h`; this leaves `left` of the acts, and the world `w'`. All else in the world may
change meanwhile. -/
inductive Sharing (number : Nat) (acts : List (Act Outcome)) (w : World) :
    List Happening → List (Act Outcome) → World → Prop
  | start : Sharing number acts w [] acts w
  | turn {h left w' i e next} :
      Sharing number acts w h left w' → left[i]? = some (.perform e next) →
      Sharing number acts w (h ++ [.step i ⟨e, (w'.answer e).1⟩])
        (left.set i (next (w'.answer e).1)) (w'.answer e).2
  | push {h left w'} (c : Canned) : Sharing number acts w h left w' →
      Sharing number acts w (h ++ [.push c]) left
        (w'.setSequence number ((w'.sequence number).push c))
  | whenEmpty {h left w'} (r : Response) : Sharing number acts w h left w' →
      Sharing number acts w (h ++ [.whenEmpty r]) left
        (w'.setSequence number ((w'.sequence number).whenEmpty r))
  | meanwhile {h left w' w''} : Sharing number acts w h left w' →
      w''.sequences[number]? = w'.sequences[number]? → Sharing number acts w h left w''

namespace Happening

/-- The step that is made, with the place of the act that makes it. -/
def step? : Happening → Option (Nat × Step)
  | step i s => some (i, s)
  | _ => none

/-- What is added to the queue. -/
def pushed? : Happening → Option Canned
  | push c => some c
  | _ => none

/-- The response that is to be repeated from then on. -/
def repeated? : Happening → Option Response
  | whenEmpty r => some r
  | _ => none

end Happening

/-- What a step got out of a queue. -/
def Step.drawn? (number : Nat) : Step → Option Canned
  | ⟨.takeCanned number', canned?⟩ => if number' = number then canned? else none
  | _ => none

theorem Step.drawn?_eq_none {number : Nat} {e : Effect} (reply : e.Reply)
    (he : e ≠ .takeCanned number) :
    drawn? number ⟨e, reply⟩ = none := by
  cases e with
  | takeCanned number' =>
    have hne : number' ≠ number := fun heq => he (heq ▸ rfl)
    simp [drawn?, hne]
  | _ => rfl

/-! ## Ledgers -/

/-- What was added to a queue, what was handed out of it and to which act, and what is repeated when
it is empty. -/
structure Ledger where
  pushed : List Canned
  handed : List (Nat × Canned)
  fallback : Option Canned

namespace Ledger

variable {number : Nat} {l : Ledger} {s : Sequence}

def empty : Ledger := ⟨[], [], none⟩

/-- What is handed out next: the first answer that was not yet, else what is repeated. -/
def next? (l : Ledger) : Option Canned := l.pushed[l.handed.length]?.or l.fallback

/-- The ledger after something happened. An answer that is taken while none is left was repeated, so
nothing is handed out. -/
def enter (number : Nat) (l : Ledger) : Happening → Ledger
  | .push c => { l with pushed := l.pushed ++ [c] }
  | .whenEmpty r => { l with fallback := some (.response r) }
  | .step i s =>
    match s.drawn? number with
    | some c =>
      if l.handed.length < l.pushed.length then { l with handed := l.handed ++ [(i, c)] } else l
    | none => l

/-- The ledger of a queue that is new at the beginning of a history. -/
def kept (number : Nat) (h : List Happening) : Ledger := h.foldl (enter number) .empty

@[simp] theorem kept_snoc (h : List Happening) (event : Happening) :
    kept number (h ++ [event]) = (kept number h).enter number event := by
  simp [kept]

/-- The queue holds what was added and not yet handed out. -/
structure Matches (l : Ledger) (s : Sequence) : Prop where
  queue : l.handed.map (·.2) ++ s.queue = l.pushed
  fallback : s.fallback = l.fallback

theorem Matches.push (h : l.Matches s) (c : Canned) :
    (l.enter number (.push c)).Matches (s.push c) where
  queue := by simp [enter, Sequence.push, ← h.queue]
  fallback := h.fallback

theorem Matches.whenEmpty (h : l.Matches s) (r : Response) :
    (l.enter number (.whenEmpty r)).Matches (s.whenEmpty r) where
  queue := h.queue
  fallback := rfl

theorem Matches.getElem? (h : l.Matches s) : l.pushed[l.handed.length]? = s.queue.head? := by
  rw [← h.queue, ← List.length_map (f := (·.2)),
    List.getElem?_append_right (Nat.le_refl _), Nat.sub_self, List.head?_eq_getElem?]

theorem Matches.next_eq (h : l.Matches s) : s.next.1 = l.next? := by
  rw [next?, h.getElem?, ← h.fallback, Sequence.next]
  cases s.queue <;> rfl

/-- Taking an answer is entered as what it is. -/
theorem Matches.take (h : l.Matches s) (i : Nat) :
    (l.enter number (.step i ⟨.takeCanned number, s.next.1⟩)).Matches s.next.2 := by
  have hlength : l.handed.length + s.queue.length = l.pushed.length := by
    simp [← h.queue]
  obtain ⟨queue, fallback⟩ := s
  cases queue with
  | nil =>
    -- No answer is left, so the ledger stays as it is.
    have hnone : ¬ l.handed.length < l.pushed.length := by
      simp at hlength
      omega
    cases fallback <;> simpa [Sequence.next, enter, Step.drawn?, hnone] using h
  | cons c rest =>
    have hsome : l.handed.length < l.pushed.length := by
      simp at hlength
      omega
    constructor
    · simpa [Sequence.next, enter, Step.drawn?, hsome] using h.queue
    · simpa [Sequence.next, enter, Step.drawn?, hsome] using h.fallback

/-- A step changes nothing but what was handed out. -/
theorem enter_step (i : Nat) (s : Step) : (l.enter number (.step i s)).pushed = l.pushed ∧
    (l.enter number (.step i s)).fallback = l.fallback := by
  simp only [enter]
  split
  · split <;> exact ⟨rfl, rfl⟩
  · exact ⟨rfl, rfl⟩

theorem pushed_kept (number : Nat) (h : List Happening) :
    (kept number h).pushed = h.filterMap Happening.pushed? := by
  induction h using List.reverseRecOn with
  | nil => rfl
  | append_singleton h event ih =>
    rw [kept_snoc, List.filterMap_append, ← ih]
    cases event with
    | push c => rfl
    | whenEmpty r => exact (List.append_nil _).symm
    | step i s => exact (enter_step i s).1.trans (List.append_nil _).symm

theorem fallback_kept (number : Nat) (h : List Happening) :
    (kept number h).fallback = (h.filterMap Happening.repeated?).getLast?.map .response := by
  induction h using List.reverseRecOn with
  | nil => rfl
  | append_singleton h event ih =>
    rw [kept_snoc, List.filterMap_append]
    cases event with
    | push c => simpa [enter, List.filterMap_cons, Happening.repeated?] using ih
    | whenEmpty r => simp [enter, Happening.repeated?]
    | step i s => simpa [(enter_step i s).2, List.filterMap_cons, Happening.repeated?] using ih

end Ledger

/-! ## The queue in its world -/

/-- The answer to a request that got something out of a queue, or nothing. -/
def Canned.answer (q : Request) : Option Canned → Outcome
  | some c => c.resolve q
  | none => .error .sequenceExhausted

namespace World

theorem sequence_setSequence {w : World} {number : Nat} (h : number < w.sequences.length)
    (s : Sequence) :
    (w.setSequence number s).sequence number = s := by
  simp [sequence, setSequence, h]

/-- What comes of asking a queue for the answer to a request. -/
theorem run_resolve (w : World) (number : Nat) (q : Request) (p : Progress) :
    w.run ((Stub.sequence number).resolve q p) =
      ((Canned.answer q (w.sequence number).next.1, p),
        w.setSequence number (w.sequence number).next.2) := by
  have hanswer : w.answer (.takeCanned number) =
      ((w.sequence number).next.1, w.setSequence number (w.sequence number).next.2) := rfl
  change w.run (.perform (.takeCanned number) _) = _
  rw [World.run, hanswer]
  cases (w.sequence number).next.1 <;> rfl

end World

namespace Sharing

variable {number : Nat} {acts left : List (Act Outcome)} {w w' : World} {h : List Happening}

/-- The ledger of the history tells what is in the queue. -/
theorem matches_kept (hs : Sharing number acts w h left w') (hnumber : number < w.sequences.length)
    (hempty : w.sequence number = .empty) : number < w'.sequences.length ∧
      (Ledger.kept number h).Matches (w'.sequence number) := by
  induction hs with
  | start => exact ⟨hnumber, by rw [hempty]; exact ⟨rfl, rfl⟩⟩
  | @turn h left w' i e next _ _ ih =>
    obtain ⟨hlt, hmatches⟩ := ih
    refine ⟨by rwa [(w'.spares_answer e).queues], ?_⟩
    rw [Ledger.kept_snoc]
    by_cases he : e = .takeCanned number
    · subst he
      rw [w'.sequence_take]
      exact hmatches.take i
    · rw [Ledger.enter, Step.drawn?_eq_none _ he, (w'.spares_answer e).sequence number he]
      exact hmatches
  | push c _ ih =>
    obtain ⟨hlt, hmatches⟩ := ih
    refine ⟨by simpa [World.setSequence] using hlt, ?_⟩
    rw [Ledger.kept_snoc, World.sequence_setSequence hlt]
    exact hmatches.push c
  | whenEmpty r _ ih =>
    obtain ⟨hlt, hmatches⟩ := ih
    refine ⟨by simpa [World.setSequence] using hlt, ?_⟩
    rw [Ledger.kept_snoc, World.sequence_setSequence hlt]
    exact hmatches.whenEmpty r
  | @meanwhile h left w' w'' _ hsame ih =>
    obtain ⟨hlt, hmatches⟩ := ih
    have hsequence : w''.sequence number = w'.sequence number := by
      rw [World.sequence, World.sequence, hsame]
    have hlt' := (List.getElem?_eq_some_iff.mp (hsame.trans (List.getElem?_eq_getElem hlt))).1
    exact ⟨hlt', by rwa [hsequence]⟩

theorem snoc_eq_append_cons {α : Type} {l before after : List α} {a b : α}
    (heq : l ++ [a] = before ++ b :: after) :
    (l = before ∧ a = b) ∨ ∃ after', l = before ++ b :: after' := by
  obtain ⟨between, rfl, hbetween⟩ | ⟨between, rfl, hbetween⟩ := List.append_eq_append_iff.mp heq
  · cases between with
    | nil => exact .inl ⟨by simp, (List.cons.inj hbetween).1⟩
    | cons => simp at hbetween
  · cases between with
    | nil => exact .inl ⟨by simp, (List.cons.inj hbetween).1.symm⟩
    | cons b' between =>
      obtain ⟨rfl, -⟩ := List.cons.inj hbetween
      exact .inr ⟨between, rfl⟩

/-- What went before some moment of a history is a history, too, and a step was answered by the
world that this led to. -/
theorem before (hs : Sharing number acts w h left w') {before after : List Happening}
    {event : Happening} (heq : h = before ++ event :: after) :
    ∃ left₁ w₁, Sharing number acts w before left₁ w₁ ∧
      ∀ i s, event = .step i s → s.reply = (w₁.answer s.effect).1 := by
  -- The moment is the last one of the history, or it lies before that.
  induction hs generalizing after with
  | start => simp at heq
  | @turn h left w' i e next hs hget ih =>
    obtain ⟨rfl, rfl⟩ | ⟨after', hbefore⟩ := snoc_eq_append_cons heq
    · exact ⟨left, w', hs, by rintro i s ⟨⟩; rfl⟩
    · exact ih hbefore
  | @push h left w' c hs ih =>
    obtain ⟨rfl, rfl⟩ | ⟨after', hbefore⟩ := snoc_eq_append_cons heq
    · exact ⟨left, w', hs, by simp⟩
    · exact ih hbefore
  | @whenEmpty h left w' r hs ih =>
    obtain ⟨rfl, rfl⟩ | ⟨after', hbefore⟩ := snoc_eq_append_cons heq
    · exact ⟨left, w', hs, by simp⟩
    · exact ih hbefore
  | meanwhile _ _ ih => exact ih heq

/-- What an act did is what leads it to where it is. -/
theorem leads_own (hs : Sharing number acts w h left w') {i : Nat} {act : Act Outcome}
    (ha : acts[i]? = some act) :
    ∃ rest, left[i]? = some rest ∧
      act.Leads (History.own (h.filterMap Happening.step?) i) rest := by
  induction hs with
  | start => exact ⟨act, ha, .start⟩
  | turn _ hj ih =>
    rw [List.filterMap_append]
    exact History.leads_turn hj _ ih
  | push c _ ih => simpa [List.filterMap_cons, Happening.step?] using ih
  | whenEmpty r _ ih => simpa [List.filterMap_cons, Happening.step?] using ih
  | meanwhile _ _ ih => exact ih

end Sharing

/-- A request that is answered from a queue takes one answer from it. -/
theorem Dispatch.Answered.draws {d : Dispatch} {q : Request} {m : Matcher} {t : Trace}
    {out : Outcome} {number : Nat} (h : d.Answered q (.stub m) t out)
    (hstub : m.stub q = .sequence number) :
    ∃ canned? t₁ t₂, t = t₁ ++ ⟨.takeCanned number, canned?⟩ :: t₂ ∧
      (∀ s ∈ t₁ ++ t₂, s.effect ≠ .takeCanned number) ∧
      (∀ r, Canned.answer q canned? = .ok r → Delivers q r t₂ out) ∧
      ∀ f, Canned.answer q canned? = .error f → out = .error f := by
  have hasking (matchers : List Matcher) : ∀ s ∈ Matcher.asking q matchers,
      s.effect ≠ .takeCanned number := by
    intro s hs
    obtain ⟨label, hit, he⟩ := Matcher.mem_asking hs
    simp [he]
  have hresolves {t : Trace} {resolved : Outcome} (h : (m.stub q).Resolves q t resolved) :
      ∃ canned?, t = [⟨.takeCanned number, canned?⟩] ∧ resolved = Canned.answer q canned? := by
    rw [hstub] at h
    cases h with
    | taken _ c => exact ⟨some c, rfl, rfl⟩
    | exhausted => exact ⟨none, rfl, rfl⟩
  have hdelivers {r : Response} {t : Trace} (h : Delivers q r t out) : ∀ s ∈ t,
      s.effect ≠ .takeCanned number := by
    intro s hs he
    have hperforms := h.performs (.canned (.response r)) s hs
    rw [he] at hperforms
    cases hperforms with
    | take hqueue => simp at hqueue
  cases h with
  | @stub skipped _ _ _ _ hstubs _ _ hanswers =>
    cases hanswers with
    | response h₁ h₂ =>
      obtain ⟨canned?, rfl, hresolved⟩ := hresolves h₁
      refine ⟨canned?, Matcher.asking q (skipped ++ [m]), _, rfl,
        List.forall_mem_append.mpr ⟨hasking _, hdelivers h₂⟩, fun r hr => ?_, by simp [← hresolved]⟩
      obtain rfl := Except.ok.inj (hresolved.trans hr)
      exact h₂
    | failure h₁ =>
      obtain ⟨canned?, rfl, hresolved⟩ := hresolves h₁
      refine ⟨canned?, Matcher.asking q (skipped ++ [m]), [], rfl,
        List.forall_mem_append.mpr ⟨hasking _, List.forall_mem_nil _⟩, by simp [← hresolved], ?_⟩
      exact fun f hf => hresolved.trans hf

/-! ## Sharing -/

/-- However a queue is shared, the answers that were handed out and then those that are left are the
answers that were added, in the order in which they were. Whoever asks gets the next of them, or, if
none is left, what is to be repeated, which changes nothing. -/
theorem sharing_hands_out {acts left : List (Act Outcome)} {w w' : World} {number : Nat}
    {h : List Happening} (hnumber : number = w.newSequence.1)
    (hs : Sharing number acts w.newSequence.2 h left w') :
    ((Ledger.kept number h).handed.map (·.2) ++ (w'.sequence number).queue =
      h.filterMap Happening.pushed?) ∧
    (∀ before i canned? after, h = before ++ .step i ⟨.takeCanned number, canned?⟩ :: after →
      canned? = (Ledger.kept number before).next?) ∧
    (∀ i (act : Act Outcome), acts[i]? = some act →
      ∃ rest, left[i]? = some rest ∧ act.Leads (History.own (h.filterMap Happening.step?) i) rest) ∧
    (∀ d q m t out, Dispatch.Answered d q (.stub m) t out → m.stub q = .sequence number →
      ∃ canned? t₁ t₂, t = t₁ ++ ⟨.takeCanned number, canned?⟩ :: t₂ ∧
        (∀ s ∈ t₁ ++ t₂, s.effect ≠ .takeCanned number) ∧
        (∀ r, Canned.answer q canned? = .ok r → Delivers q r t₂ out) ∧
        ∀ f, Canned.answer q canned? = .error f → out = .error f) ∧
    ∀ q p,
      (∀ c rest, (w'.sequence number).queue = c :: rest →
        (w'.run ((Stub.sequence number).resolve q p)).1.1 = c.resolve q ∧
        ((w'.run ((Stub.sequence number).resolve q p)).2.sequence number).queue = rest) ∧
      ((w'.sequence number).queue = [] →
        (w'.run ((Stub.sequence number).resolve q p)).1.1 =
          Canned.answer q ((h.filterMap Happening.repeated?).getLast?.map .response) ∧
        (w'.run ((Stub.sequence number).resolve q p)).2 = w' ∧
        ∀ c, ((w'.setSequence number ((w'.sequence number).push c)).run
          ((Stub.sequence number).resolve q p)).1.1 = c.resolve q) := by
  have hlt : number < w.newSequence.2.sequences.length := by simp [hnumber, World.newSequence]
  have hempty : w.newSequence.2.sequence number = .empty := by
    simp [hnumber, World.newSequence, World.sequence]
  obtain ⟨hlt', hmatches⟩ := hs.matches_kept hlt hempty
  refine ⟨?_, ?_, fun i act ha => hs.leads_own ha, fun d q m t out h hstub => h.draws hstub,
    fun q p => ⟨?_, ?_⟩⟩
  · rw [← Ledger.pushed_kept number]
    exact hmatches.queue
  · intro before i canned? after heq
    obtain ⟨left₁, w₁, hbefore, hreply⟩ := hs.before heq
    have hdrawn : canned? = (w₁.sequence number).next.1 := hreply i _ rfl
    exact hdrawn.trans (hbefore.matches_kept hlt hempty).2.next_eq
  · intro c rest hqueue
    have hnext : (w'.sequence number).next =
        (some c, { w'.sequence number with queue := rest }) := by
      simp [Sequence.next, hqueue]
    rw [World.run_resolve, hnext]
    exact ⟨rfl, congrArg Sequence.queue (World.sequence_setSequence hlt' _)⟩
  · intro hqueue
    have hnext : (w'.sequence number).next =
        ((w'.sequence number).fallback, w'.sequence number) := by
      simp [Sequence.next, hqueue]
    have hsame : w'.setSequence number (w'.sequence number) = w' := by
      simp [World.setSequence, World.sequence, hlt']
    rw [World.run_resolve, hnext, hmatches.fallback, Ledger.fallback_kept]
    refine ⟨rfl, hsame, fun c => ?_⟩
    rw [World.run_resolve, World.sequence_setSequence hlt', Sequence.next_push_of_empty hqueue]
    rfl

/-- Asking the first queue for the answer to a request. -/
def asking : Act Outcome :=
  let url : Url := ⟨"http", "", "", none, none, .rootless "", none, none⟩
  ((Stub.sequence 0).resolve ⟨.get, url, .empty, [], .empty⟩).run' .start

theorem sharing_hands_out_asking : ∃ (h : List Happening) (left : List (Act Outcome)) (w' : World),
    Sharing 0 [asking, asking] (World.initial .default true .unreachable).newSequence.2 h left w' ∧
    (Ledger.kept 0 h).handed.map (·.2) ++ (w'.sequence 0).queue = h.filterMap Happening.pushed? ∧
    (Ledger.kept 0 h).handed.length = 1 ∧ (h.filterMap Happening.pushed?).length = 2 := by
  have hfailed : Sharing 0 [asking, asking]
      (World.initial .default true .unreachable).newSequence.2 _ _ _ :=
    .turn .start (i := 1) rfl
  have hpushed := (hfailed.push (.response (.ofStatus 500))).push (.failure ⟨.connect, "refused"⟩)
  have hserved := hpushed.turn (i := 0) rfl
  exact ⟨_, _, _, hserved,
    (sharing_hands_out (w := .initial .default true .unreachable) rfl hserved).1, rfl, rfl⟩

end Courier
