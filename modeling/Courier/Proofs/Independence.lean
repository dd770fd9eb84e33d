import Courier.Proofs.Effects
import Courier.Proofs.Interleaving
/-
Acts that take turns in one world without disturbing one another. Of all that
is in a world, only queues, files and the network answer an act according to
what was done to them before (`Store`). Acts are apart if none of them changes
a store that another one reads (`World.Apart`); then each of them is answered
as if it were alone (`Alternation.grants`).

Boundaries are numbered for all acts together, so an act may get other numbers
than it would get alone. Acts that make nothing of them end as they would end
alone (`Act.Unnumbered.run_eq`).
-/
namespace Courier

/-! ## Acts that are alone -/

namespace World

/-- The reply of a step is the one that the world gives, but a boundary may have any stamp. -/
def Gives (w : World) (s : Step) : Prop :=
  s.reply = (w.answer s.effect).1 ∨ ∃ stamp, s = ⟨.freshBoundary, Multipart.boundary stamp⟩

/-- `w.Grants t v`: the replies in a trace are those of a world in which nothing else happens, and
this leads to the world `v`. -/
inductive Grants : World → Trace → World → Prop
  | nil {w} : Grants w [] w
  | cons {w s t v} : w.Gives s → Grants (w.answer s.effect).2 t v → Grants w (s :: t) v

/-- The effect is one that the act may perform when it is alone. -/
def Performs (w : World) (act : Act Outcome) (e : Effect) : Prop :=
  ∃ t v next, w.Grants t v ∧ act.Leads t (.perform e next)

/-- What the act may end with when it is alone. -/
def Yields (w : World) (act : Act Outcome) (out : Outcome) : Prop :=
  ∃ t v, w.Grants t v ∧ act.Runs t out

variable {w v : World} {t : Trace}

theorem Grants.snoc (h : w.Grants t v) {s : Step} (hs : v.Gives s) :
    w.Grants (t ++ [s]) (v.answer s.effect).2 := by
  induction h with
  | nil => exact .cons hs .nil
  | cons hs' _ ih => exact .cons hs' (ih hs)

/-- An act that is run in a world is alone there. -/
theorem yields_run (w : World) (act : Act Outcome) : w.Yields act (w.run act).1 := by
  induction act generalizing w with
  | done out => exact ⟨[], w, .nil, .start⟩
  | perform e next ih =>
    obtain ⟨t, v, hgrants, hruns⟩ := ih (w.answer e).1 (w.answer e).2
    exact ⟨⟨e, (w.answer e).1⟩ :: t, v, .cons (.inl rfl) hgrants, .perform hruns⟩

theorem Grants.settings (h : w.Grants t v) :
    v.truncation = w.truncation ∧ v.network = w.network := by
  induction h with
  | nil => exact ⟨rfl, rfl⟩
  | @cons w s t v _ _ ih =>
    have hspares := w.spares_answer s.effect
    exact ⟨ih.1.trans hspares.truncation, ih.2.trans hspares.network⟩

end World

/-! ## Stores -/

/-- What the world answers acts from. -/
inductive Store
  | queue (number : Nat)
  | files
  | network

/-- Where a path leads, if anywhere, does not depend on the files. -/
def Directory.Decides (path : String) : Prop := ∀ d d' : Directory, d.locate path = d'.locate path

/-- A request is answered in the same way, whatever went before it. -/
def Network.Forgets (network : Network) (wire : WireRequest) : Prop :=
  ∀ past past', network past wire = network past' wire

namespace Effect

/-- The reply to the effect depends on the store. -/
inductive Reads (network : Network) : Effect → Store → Prop
  | queue (number : Nat) : Reads network (.takeCanned number) (.queue number)
  | files {path bytes} :
      ¬ Directory.Decides path → Reads network (.writeSink (.file path) bytes) .files
  | network {wire timeout} :
      ¬ network.Forgets wire → Reads network (.exchange wire timeout) .network

/-- The effect may change the store. -/
inductive Changes : Effect → Store → Prop
  | queue (number : Nat) : Changes (.takeCanned number) (.queue number)
  | files (path : String) (bytes : Bytes) : Changes (.writeSink (.file path) bytes) .files
  | network (wire : WireRequest) (timeout : Nat) : Changes (.exchange wire timeout) .network

theorem Reads.changes {network : Network} {e : Effect} {store : Store} (h : e.Reads network store) :
    e.Changes store := by
  cases h with
  | queue number => exact .queue number
  | files _ => exact .files _ _
  | network _ => exact .network _ _

end Effect

namespace World

variable {w v : World} {e : Effect} {store : Store}

/-- A store is the same in two worlds. -/
def Agree (w v : World) : Store → Prop
  | .queue number => w.sequence number = v.sequence number
  | .files => w.files = v.files
  | .network => w.exchanges = v.exchanges

theorem Agree.symm (h : w.Agree v store) : v.Agree w store := by
  cases store <;> exact Eq.symm h

theorem Agree.trans {x : World} (h : w.Agree v store) (h' : v.Agree x store) : w.Agree x store := by
  cases store <;> exact Eq.trans h h'

/-- An effect leaves the stores that it does not change as they are. -/
theorem agree_answer_self (h : ¬ e.Changes store) : (w.answer e).2.Agree w store := by
  have hspares := w.spares_answer e
  cases store with
  | queue number =>
    refine hspares.sequence number ?_
    rintro rfl
    exact h (.queue number)
  | files =>
    refine hspares.files ?_
    rintro path bytes rfl
    exact h (.files path bytes)
  | network =>
    refine hspares.exchanges ?_
    rintro wire timeout rfl
    exact h (.network wire timeout)

/-- An effect does the same to a store wherever that is the same. -/
theorem Agree.answer (h : w.Agree v store) : (w.answer e).2.Agree (v.answer e).2 store := by
  by_cases hchanges : e.Changes store
  · cases hchanges with
    | queue number =>
      have hsequence : w.sequence number = v.sequence number := h
      change (w.answer _).2.sequence number = (v.answer _).2.sequence number
      rw [sequence_take, sequence_take, hsequence]
    | files path bytes =>
      have hfiles : w.files = v.files := h
      change (w.write (.file path) bytes).2.files = (v.write (.file path) bytes).2.files
      simp only [write, hfiles]
      split
      · exact hfiles
      · rfl
    | network wire timeout =>
      have hexchanges : w.exchanges = v.exchanges := h
      change w.exchanges ++ [wire] = v.exchanges ++ [wire]
      rw [hexchanges]
  · exact ((agree_answer_self hchanges).trans h).trans (agree_answer_self hchanges).symm

/-- A world that agrees with another one on what an effect depends on gives the same reply. -/
theorem gives_of_agree (htruncation : w.truncation = v.truncation)
    (hnetwork : w.network = v.network) (h : ∀ store, e.Reads v.network store → w.Agree v store) :
    v.Gives ⟨e, (w.answer e).1⟩ := by
  cases e with
  | freshBoundary => exact .inr ⟨⟨w.clock w.boundaries, w.boundaries⟩, rfl⟩
  | truncation => exact .inl htruncation
  | takeCanned number =>
    have hsequence : w.sequence number = v.sequence number := h _ (.queue number)
    refine .inl ?_
    change (w.sequence number).next.1 = (v.sequence number).next.1
    rw [hsequence]
  | writeSink sink bytes =>
    refine .inl ?_
    cases sink with
    | buffer name => rfl
    | file path =>
      have hlocate : w.files.locate path = v.files.locate path := by
        by_cases hdecides : Directory.Decides path
        · exact hdecides _ _
        · have hfiles : w.files = v.files := h _ (.files hdecides)
          rw [hfiles]
      change (w.write (.file path) bytes).1 = (v.write (.file path) bytes).1
      simp only [write, Directory.write, hlocate]
      cases v.files.locate path <;> rfl
  | exchange wire timeout =>
    refine .inl ?_
    change w.network w.exchanges wire = v.network v.exchanges wire
    rw [hnetwork]
    by_cases hforgets : v.network.Forgets wire
    · exact hforgets _ _
    · have hexchanges : w.exchanges = v.exchanges := h _ (.network hforgets)
      rw [hexchanges]
  | _ => exact .inl rfl

/-! ## Acts that are apart -/

/-- No act changes what another one is answered from. -/
def Apart (w : World) (acts : List (Act Outcome)) : Prop :=
  ∀ (i j : Nat) (act act' : Act Outcome) e e' store, i ≠ j → acts[i]? = some act →
    acts[j]? = some act' →
    w.Performs act e → w.Performs act' e' → e.Changes store → ¬ e'.Reads w.network store

/-- Acts that change nothing but stores of their own are apart. -/
theorem apart_of_confined {acts : List (Act Outcome)} (owns : Nat → Store → Prop)
    (howns : ∀ i j store, owns i store → owns j store → i = j)
    (h : ∀ i (act : Act Outcome), acts[i]? = some act →
      act.Confined fun e => ∀ store, e.Changes store → owns i store) :
    w.Apart acts := by
  intro i j act act' e e' store hne hi hj hperforms hperforms' hchanges hreads
  obtain ⟨t, v, next, -, hleads⟩ := hperforms
  obtain ⟨t', v', next', -, hleads'⟩ := hperforms'
  refine hne (howns i j store ?_ ?_)
  · exact (h i act hi).next hleads store hchanges
  · exact (h j act' hj).next hleads' store hreads.changes

/-- Each of some acts that are apart is answered as if it were alone, and what it is answered from
is as it would be then. -/
theorem Apart.grants {acts left : List (Act Outcome)} {w' : World} {h : History}
    (hapart : w.Apart acts) (ha : Alternation acts w h left w') :
    w'.truncation = w.truncation ∧ w'.network = w.network ∧
      ∀ i (act : Act Outcome), acts[i]? = some act → ∃ v, w.Grants (h.own i) v ∧
        ∀ e store, w.Performs act e → e.Reads w.network store → w'.Agree v store := by
  induction ha with
  | start => exact ⟨rfl, rfl, fun i act _ => ⟨w, .nil, fun e store _ _ => by cases store <;> rfl⟩⟩
  | @turn h left w' j e next ha hget ih =>
    obtain ⟨htruncation, hnetwork, hown⟩ := ih
    have hspares := w'.spares_answer e
    refine ⟨hspares.truncation.trans htruncation, hspares.network.trans hnetwork,
      fun i act hi => ?_⟩
    obtain ⟨v, hgrants, hagree⟩ := hown i act hi
    obtain ⟨hsettled, hlinked⟩ := hgrants.settings
    -- What the turn is of, its act performs when it is alone.
    obtain ⟨actor, hactor⟩ : ∃ actor, acts[j]? = some actor := by
      have hlt : j < left.length := (List.getElem?_eq_some_iff.mp hget).1
      rw [ha.interleaving.length_eq] at hlt
      exact ⟨_, List.getElem?_eq_getElem hlt⟩
    obtain ⟨v', hgrants', -⟩ := hown j actor hactor
    obtain ⟨rest, hrest, hleads⟩ := ha.interleaving.leads_own hactor
    obtain rfl : rest = .perform e next := Option.some.inj (hrest.symm.trans hget)
    have hperforms : w.Performs actor e := ⟨_, v', next, hgrants', hleads⟩
    rw [History.own_snoc]
    by_cases hji : j = i
    · subst hji
      obtain rfl : act = actor := Option.some.inj (hi.symm.trans hactor)
      have hgives : v.Gives ⟨e, (w'.answer e).1⟩ := by
        refine gives_of_agree (htruncation.trans hsettled.symm) (hnetwork.trans hlinked.symm)
          fun store hreads => ?_
        exact hagree e store hperforms (hlinked ▸ hreads)
      refine ⟨(v.answer e).2, by simpa using hgrants.snoc hgives,
        fun e' store hperforms' hreads => ?_⟩
      exact (hagree e' store hperforms' hreads).answer
    · refine ⟨v, by simpa [hji] using hgrants, fun e' store hperforms' hreads => ?_⟩
      have hkept : ¬ e.Changes store :=
        fun hchanges => hapart j i actor act e e' store hji hactor hi hperforms hperforms'
          hchanges hreads
      exact (agree_answer_self hkept).trans (hagree e' store hperforms' hreads)

/-- An act among others that it is apart from ends with what it may end with alone. -/
theorem Apart.yields {acts left : List (Act Outcome)} {w' : World} {h : History}
    (hapart : w.Apart acts) (ha : Alternation acts w h left w') {i : Nat} {act : Act Outcome}
    {out : Outcome} (hi : acts[i]? = some act)
    (hdone : left[i]? = some (.done out)) : w.Yields act out := by
  obtain ⟨-, -, hown⟩ := hapart.grants ha
  obtain ⟨v, hgrants, -⟩ := hown i act hi
  obtain ⟨rest, hrest, hleads⟩ := ha.interleaving.leads_own hi
  obtain rfl : rest = .done out := Option.some.inj (hrest.symm.trans hdone)
  exact ⟨_, v, hgrants, hleads⟩

end World

/-! ## Acts without numbers -/

namespace Act

variable {α β : Type}

/-- The act goes on in the same way whatever boundaries it gets. -/
inductive Unnumbered : Act α → Prop
  | done (a : α) : Unnumbered (.done a)
  | boundary {rest : Act α} : Unnumbered rest → Unnumbered (.perform .freshBoundary fun _ => rest)
  | perform {e : Effect} {next : e.Reply → Act α} :
      e ≠ .freshBoundary → (∀ reply, Unnumbered (next reply)) →
      Unnumbered (.perform e next)

theorem Unnumbered.bind {act : Act α} {f : α → Act β} (h : act.Unnumbered)
    (hf : ∀ t a, act.Runs t a → (f a).Unnumbered) : (act.bind f).Unnumbered := by
  induction h with
  | done a => exact hf [] a .start
  | @boundary rest _ ih =>
    exact .boundary (ih fun t a hruns => hf (⟨.freshBoundary, ""⟩ :: t) a (.perform hruns))
  | perform he _ ih =>
    exact .perform he fun reply => ih reply fun t a hruns => hf _ a (.perform hruns)

/-- An act that gets no boundaries makes nothing of them. -/
theorem Confined.unnumbered {act : Act α} (h : act.Confined (· ≠ .freshBoundary)) :
    act.Unnumbered := by
  induction act with
  | done a => exact .done a
  | perform e next ih =>
    exact .perform (h.next .start) fun reply => ih reply (h.leads (.perform .start)).2

/-- Alone, there is only one thing that such an act may end with. -/
theorem Unnumbered.eq_run {act : Act Outcome} {w : World} {out : Outcome} (h : act.Unnumbered)
    (hyields : w.Yields act out) : out = (w.run act).1 := by
  obtain ⟨t, v, hgrants, hruns⟩ := hyields
  induction h generalizing w t with
  | done a =>
    obtain ⟨-, h⟩ := done_leads.mp hruns
    cases h
    rfl
  | boundary _ ih =>
    cases hruns with
    | perform hruns =>
      cases hgrants with
      | cons _ hgrants => exact ih _ hgrants hruns
  | @perform e next he _ ih =>
    cases hruns with
    | @perform _ _ reply _ _ hruns =>
      cases hgrants with
      | cons hgives hgrants =>
        obtain hreply | ⟨stamp, hstep⟩ := hgives
        · have hreply : reply = (w.answer e).1 := hreply
          change out = ((w.answer e).2.run (next (w.answer e).1)).1
          rw [← hreply]
          exact ih _ _ hgrants hruns
        · exact absurd (congrArg Step.effect hstep) he

end Act

end Courier
