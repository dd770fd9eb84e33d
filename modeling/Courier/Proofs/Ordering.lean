import Courier.Proofs.Exchanges
import Courier.Proofs.Together
/-
The order of recorded exchanges. A request is sent off at one step of its
dispatch and recorded at a later one, when it was answered, and other dispatches
have their turns in between. So the history has the exchanges in the order of
their answers (`Dispatch.alternation_records`): those of each dispatch in the
order in which it sent them off, and those of one dispatch among those of the
others as the turns fall.

The steps that count are read off as marks (`Dispatch.mark?`). Each dispatch
marks a request as sent, then its exchange as kept, and so on
(`Dispatch.Paired`), whatever the others do.
-/
namespace Courier

/-! ## Strands -/

section

variable {α β : Type} {l l' : List (Nat × α)} {i : Nat}

/-- What has a number, in order. -/
def strand (l : List (Nat × α)) (i : Nat) : List α := (l.filter (·.1 = i)).map (·.2)

/-- What is read off the elements, each with its number. -/
def readOff (f : Nat → α → Option β) (l : List (Nat × α)) : List (Nat × β) :=
  l.filterMap fun a => (f a.1 a.2).map (a.1, ·)

theorem readOff_append (f : Nat → α → Option β) (l l' : List (Nat × α)) :
    readOff f (l ++ l') = readOff f l ++ readOff f l' := List.filterMap_append

@[simp] theorem strand_cons_self (i : Nat) (x : α) (l : List (Nat × α)) :
    strand ((i, x) :: l) i = x :: strand l i := by
  simp [strand]

theorem strand_cons_of_ne {j : Nat} (h : i ≠ j) (x : α) (l : List (Nat × α)) :
    strand ((i, x) :: l) j = strand l j := by
  simp [strand, h]

theorem strand_readOff (f : Nat → α → Option β) (l : List (Nat × α)) (i : Nat) :
    strand (readOff f l) i = (strand l i).filterMap (f i) := by
  induction l with
  | nil => rfl
  | cons a l ih =>
    obtain ⟨j, x⟩ := a
    by_cases hji : j = i
    · subst hji
      cases hf : f j x <;> simpa [readOff, hf] using ih
    · rw [strand_cons_of_ne hji, ← ih]
      cases hf : f j x <;> simp [readOff, hf, strand_cons_of_ne hji]

/-- Lists with the same strands are the same up to their order. -/
theorem perm_of_strands (h : ∀ i, strand l i = strand l' i) : l.Perm l' := by
  classical
  have hcount (l : List (Nat × α)) (a : Nat × α) : l.count a = (strand l a.1).count a.2 := by
    induction l with
    | nil => rfl
    | cons b l ih =>
      obtain ⟨i, x⟩ := b
      obtain ⟨j, y⟩ := a
      by_cases hij : i = j
      · subst hij
        simp [List.count_cons, ih]
      · rw [strand_cons_of_ne hij, ← ih, List.count_cons_of_ne (by simp [hij])]
  rw [List.perm_iff_count]
  intro a
  rw [hcount, hcount, h]

/-- They are the same if their numbers come in the same order, too. -/
theorem eq_of_strands (h : ∀ i, strand l i = strand l' i) (hplaces : l.map (·.1) = l'.map (·.1)) :
    l = l' := by
  induction l generalizing l' with
  | nil => exact (List.map_eq_nil_iff.mp hplaces.symm).symm
  | cons a l ih =>
    obtain _ | ⟨a', l'⟩ := l'
    · simp at hplaces
    · obtain ⟨i, x⟩ := a
      obtain ⟨i', x'⟩ := a'
      obtain ⟨rfl, htail⟩ : i = i' ∧ _ := List.cons.inj hplaces
      have hfirst := h i
      rw [strand_cons_self, strand_cons_self] at hfirst
      obtain ⟨rfl, hself⟩ := List.cons.inj hfirst
      have hrest : ∀ j, strand l j = strand l' j := by
        intro j
        by_cases hij : i = j
        · exact hij ▸ hself
        · have hj := h j
          rwa [strand_cons_of_ne hij, strand_cons_of_ne hij] at hj
      rw [ih hrest htail]

end

namespace Dispatch

/-! ## Marks of a dispatch -/

/-- What a step does to the order of requests: it sends one off, or keeps an exchange in the
history. -/
inductive Mark
  | sent (q : Request)
  | kept (e : Recorded)

def Mark.sent? : Mark → Option Request
  | sent q => some q
  | kept _ => none

def Mark.kept? : Mark → Option Recorded
  | sent _ => none
  | kept e => some e

/-- The mark of a step; a request is sent off as the last hook leaves it. -/
def mark? (d : Dispatch) : Step → Option Mark
  | ⟨.remember _ q, _⟩ => some (.sent (Hook.leave d.hooks q))
  | ⟨.record .history q r?, _⟩ => some (.kept ⟨q, r?⟩)
  | _ => none

/-- Each request that is sent off is kept next; the last one may still be to be kept. -/
inductive Paired : List Mark → Prop
  | nil : Paired []
  | sent (q : Request) : Paired [.sent q]
  | kept (q : Request) (r? : Option Response) {marks} :
      Paired marks → Paired (.sent q :: .kept ⟨q, r?⟩ :: marks)

variable {d : Dispatch} {t : Trace} {out : Outcome}

theorem overlooks_mark (d : Dispatch) : Overlooks d.mark? := by
  rintro ⟨e, reply⟩ h
  cases e <;> simp_all [Effect.isAside, mark?]

/-- What is read off a run is read off its passes. -/
theorem exists_passes_run (hd : d.Mediated) (h : d.run.Runs t out) : ∃ passes : List Pass,
    (∀ pass ∈ passes, pass.Valid d) ∧ ∀ {α : Type} {f : Step → Option α}, Overlooks f →
      t.filterMap f = passes.flatMap fun pass => (pass.trace d).filterMap f := by
  obtain ⟨rounds, -, p', hcourse, rfl, -⟩ := run_runs.mp h
  obtain ⟨accounts, rfl, haccounts⟩ := (course_iff.mp hcourse).1.accounted hd
  have haccounted : ∀ account ∈ accounts, ∃ o, d.Accounted o account.1 account.2 := by
    intro account hmem
    obtain ⟨i, hi⟩ := List.mem_iff_getElem?.mp hmem
    exact ⟨_, haccounts i _ _ hi⟩
  refine ⟨accounts.flatMap (·.2), ?_, fun {α f} hf => ?_⟩
  · intro pass hpass
    obtain ⟨account, hmem, hpass⟩ := List.mem_flatMap.mp hpass
    obtain ⟨o, haccount⟩ := haccounted account hmem
    exact haccount.valid pass hpass
  · rw [filterMap_woven_of_overlooks hf, List.flatMap_map, List.flatMap_assoc]
    refine List.flatMap_congr fun account hmem => ?_
    obtain ⟨o, haccount⟩ := haccounted account hmem
    exact haccount.filterMap_eq hf

/-- The marks of a pass. -/
theorem Pass.Valid.filterMap_mark (hd : d.Mediated)
    (hone : d.recorders.count .history = 1) {pass : Pass} (h : pass.Valid d) :
    (pass.trace d).filterMap d.mark? = [.sent (pass.sent d), .kept (pass.recorded d)] := by
  have hrecording (recorders : List Recorder) (q : Request) (out : Outcome) :
      (recording recorders q out).filterMap d.mark? =
        List.replicate (recorders.count .history) (.kept ⟨q, out.toOption⟩) := by
    induction recorders with
    | nil => rfl
    | cons recorder recorders ih =>
      rw [recording, List.map_cons, List.filterMap_cons, ← recording, ih]
      cases recorder <;> simp [mark?, List.replicate_succ]
  rw [h.filterMap_trace hd d.overlooks_mark, hrecording, hone]
  rfl

theorem Paired.initial {marks marks' : List Mark} (h : Paired marks') (hmarks : marks <+: marks') :
    Paired marks := by
  induction h generalizing marks with
  | nil => exact List.prefix_nil.mp hmarks ▸ .nil
  | sent q =>
    obtain rfl | ⟨tail, rfl, htail⟩ := List.prefix_cons_iff.mp hmarks
    · exact .nil
    · exact List.prefix_nil.mp htail ▸ .sent q
  | kept q r? _ ih =>
    obtain rfl | ⟨tail, rfl, htail⟩ := List.prefix_cons_iff.mp hmarks
    · exact .nil
    · obtain rfl | ⟨tail', rfl, htail'⟩ := List.prefix_cons_iff.mp htail
      · exact .sent q
      · exact .kept q r? (ih htail')

/-- Each request of a run is kept before the next one is sent, and all of them are when it is
over. -/
theorem run_marks (hd : d.Mediated) (hone : d.recorders.count .history = 1) (h : d.run.Runs t out) :
    Paired (t.filterMap d.mark?) ∧
      ((t.filterMap d.mark?).filterMap Mark.kept?).map (·.request) =
        (t.filterMap d.mark?).filterMap Mark.sent? := by
  obtain ⟨passes, hvalid, hfilter⟩ := exists_passes_run hd h
  rw [hfilter d.overlooks_mark]
  clear hfilter
  induction passes with
  | nil => exact ⟨.nil, rfl⟩
  | cons pass passes ih =>
    obtain ⟨hpass, hpasses⟩ := List.forall_mem_cons.mp hvalid
    obtain ⟨hpaired, hall⟩ := ih hpasses
    rw [List.flatMap_cons, hpass.filterMap_mark hd hone]
    refine ⟨.kept _ _ hpaired, ?_⟩
    exact congrArg (List.cons (pass.sent d)) hall

/-- Exchanges are kept in the order in which the requests were sent. -/
theorem Paired.requests {marks : List Mark} (h : Paired marks) :
    (marks.filterMap Mark.kept?).map (·.request) <+: marks.filterMap Mark.sent? := by
  induction h with
  | nil => exact List.prefix_rfl
  | sent q => exact List.nil_prefix
  | kept q r? _ ih => exact (List.prefix_cons_inj q).mpr ih

end Dispatch

/-! ## Marks of a history -/

namespace History

open Dispatch

variable {ds : List Dispatch} {h : History}

/-- The marks of all dispatches, each with the place of its dispatch. -/
def marks (ds : List Dispatch) (h : History) : List (Nat × Mark) :=
  readOff (fun i s => ds[i]?.bind (·.mark? s)) h

/-- The requests in the order in which they were sent off. -/
def sentOff (ds : List Dispatch) (h : History) : List (Nat × Request) :=
  readOff (fun _ mark => mark.sent?) (h.marks ds)

/-- The exchanges in the order in which they were kept. -/
def kept (ds : List Dispatch) (h : History) : List (Nat × Recorded) :=
  readOff (fun _ mark => mark.kept?) (h.marks ds)

/-- The requests in the order in which they were answered, and their exchanges kept. -/
def answered (ds : List Dispatch) (h : History) : List (Nat × Request) :=
  (h.kept ds).map fun entry => (entry.1, entry.2.request)

/-- A step adds to what is read off the marks what its own mark gives. -/
theorem readOff_marks_snoc {β : Type} (f : Mark → Option β) {i : Nat} {d : Dispatch}
    (hi : ds[i]? = some d) (s : Step) :
    (readOff (fun _ => f) (marks ds (h ++ [(i, s)]))).map (·.2) =
      (readOff (fun _ => f) (h.marks ds)).map (·.2) ++ ((d.mark? s).bind f).toList := by
  have hsingle : (readOff (fun _ => f) (marks ds [(i, s)])).map (·.2) =
      ((d.mark? s).bind f).toList := by
    cases hm : d.mark? s with
    | none => simp [marks, readOff, hi, hm]
    | some m => cases hf : f m <;> simp [marks, readOff, hi, hm, hf]
  rw [marks, readOff_append, readOff_append, List.map_append]
  exact congrArg (_ ++ ·) hsingle

theorem strand_marks {i : Nat} {d : Dispatch} (hi : ds[i]? = some d) :
    strand (h.marks ds) i = (h.own i).filterMap d.mark? := by
  rw [marks, strand_readOff, hi]
  rfl

theorem strand_sentOff (i : Nat) :
    strand (h.sentOff ds) i = (strand (h.marks ds) i).filterMap Mark.sent? :=
  strand_readOff _ _ i

theorem strand_answered (i : Nat) :
    strand (h.answered ds) i = ((strand (h.marks ds) i).filterMap Mark.kept?).map (·.request) := by
  have hmap (l : List (Nat × Recorded)) :
      strand (l.map fun entry => (entry.1, entry.2.request)) i = (strand l i).map (·.request) := by
    simp [strand, List.filter_map, Function.comp_def]
  rw [answered, hmap, kept, strand_readOff]

/-- No request is sent off while another one is not answered. -/
inductive OneByOne : List Mark → Prop
  | nil : OneByOne []
  | sent (q : Request) : OneByOne [.sent q]
  | kept (q : Request) (e : Recorded) {marks} :
      OneByOne marks → OneByOne (.sent q :: .kept e :: marks)

/-- What is kept next is then the exchange of the request that was sent last, for its dispatch is
the only one that has anything to keep. -/
theorem answered_of_oneByOne (hpaired : ∀ i, Paired (strand (h.marks ds) i))
    (hone : OneByOne ((h.marks ds).map (·.2))) : h.answered ds <+: h.sentOff ds := by
  unfold answered sentOff kept
  generalize h.marks ds = marks at hpaired hone
  generalize hmarks : marks.map (·.2) = sequence at hone
  induction hone generalizing marks with
  | nil =>
    obtain rfl := List.map_eq_nil_iff.mp hmarks
    exact List.prefix_rfl
  | sent q =>
    obtain ⟨⟨i, m⟩, rfl, rfl⟩ := List.map_eq_singleton_iff.mp hmarks
    exact List.nil_prefix
  | kept q e _ ih =>
    obtain ⟨⟨i, m⟩, behind, rfl, rfl, hbehind⟩ := List.map_eq_cons_iff.mp hmarks
    obtain ⟨⟨j, m'⟩, tail, rfl, rfl, htail⟩ := List.map_eq_cons_iff.mp hbehind
    have hij : i = j := by
      refine Decidable.byContradiction fun hne => ?_
      have hj := hpaired j
      rw [strand_cons_of_ne hne, strand_cons_self] at hj
      cases hj
    subst hij
    have hi := hpaired i
    rw [strand_cons_self, strand_cons_self] at hi
    obtain _ | _ | ⟨_, r?, hi⟩ := hi
    have hrest : ∀ k, Paired (strand tail k) := by
      intro k
      by_cases hik : i = k
      · exact hik ▸ hi
      · have hk := hpaired k
        rwa [strand_cons_of_ne hik, strand_cons_of_ne hik] at hk
    exact (List.prefix_cons_inj (i, q)).mpr (ih tail hrest htail)

end History

/-! ## Dispatches among others -/

namespace Dispatch

variable {ds : List Dispatch} {w w' : World} {h : History} {left : List (Act Outcome)}

/-- What a dispatch marks does not depend on the others. -/
theorem paired_strand (hds : ∀ d ∈ ds, d.Mediated ∧ d.recorders.count .history = 1)
    (ha : Alternation (ds.map run) w h left w') (i : Nat) :
    Paired (strand (h.marks ds) i) ∧ ((∀ act ∈ left, ∃ out, act = .done out) →
      strand (h.answered ds) i = strand (h.sentOff ds) i) := by
  rw [History.strand_answered, History.strand_sentOff]
  cases hi : ds[i]? with
  | none =>
    have hnone : strand (h.marks ds) i = [] := by
      rw [History.marks, strand_readOff, hi]
      simp
    rw [hnone]
    exact ⟨.nil, fun _ => rfl⟩
  | some d =>
    have hact : (ds.map run)[i]? = some d.run := by simp [hi]
    obtain ⟨hd, hone⟩ := hds d (List.mem_of_getElem? hi)
    obtain ⟨rest, out, hruns, -, hend⟩ := ha.interleaving.exists_runs hact
    obtain ⟨hpaired, hall⟩ := run_marks hd hone hruns
    rw [History.strand_marks hi]
    rw [List.filterMap_append] at hpaired hall
    refine ⟨hpaired.initial (List.prefix_append _ _), fun hleft => ?_⟩
    obtain ⟨act, hget, -⟩ := ha.interleaving.leads_own hact
    obtain ⟨o, rfl⟩ := hleft act (List.mem_of_getElem? hget)
    obtain ⟨rfl, -⟩ := hend o hget
    simpa using hall

theorem exists_dispatch (ha : Alternation (ds.map run) w h left w') {i : Nat} {act : Act Outcome}
    (hget : left[i]? = some act) : ∃ d ∈ ds, ds[i]? = some d := by
  have hlt := (List.getElem?_eq_some_iff.mp hget).1
  rw [ha.interleaving.length_eq, List.length_map] at hlt
  exact ⟨ds[i], List.getElem_mem hlt, List.getElem?_eq_getElem hlt⟩

/-- The history has the exchanges as they were kept. -/
theorem history_alternation (ha : Alternation (ds.map run) w h left w') :
    w'.history = w.history ++ (h.kept ds).map (·.2) := by
  induction ha with
  | start => exact (List.append_nil _).symm
  | @turn h left w' i e next ha hget ih =>
    obtain ⟨d, -, hi⟩ := exists_dispatch ha hget
    let s : Step := ⟨e, (w'.answer e).1⟩
    have hstep : Trace.recordedBy [s] .history = ((d.mark? s).bind Mark.kept?).toList := by
      cases e with
      | record recorder q r? => cases recorder <;> rfl
      | _ => rfl
    calc (w'.answer e).2.history
        = w'.history ++ Trace.recordedBy [s] .history := w'.kept_answer e s.2 .history
      _ = w.history ++ ((h.kept ds).map (·.2) ++ ((d.mark? s).bind Mark.kept?).toList) := by
        rw [ih, hstep, List.append_assoc]
      _ = w.history ++ (History.kept ds (h ++ [(i, s)])).map (·.2) :=
        congrArg _ (History.readOff_marks_snoc Mark.kept? hi s).symm

/-- Where no hook puts another request in its place, the world remembers the requests as they were
sent off. -/
theorem sent_alternation (hhooks : ∀ d ∈ ds, d.hooks = [])
    (ha : Alternation (ds.map run) w h left w') :
    w'.sent.map (·.2) = ((h.sentOff ds).map (·.2)).reverse ++ w.sent.map (·.2) := by
  induction ha with
  | start => rfl
  | @turn h left w' i e next ha hget ih =>
    obtain ⟨d, hd, hi⟩ := exists_dispatch ha hget
    let s : Step := ⟨e, (w'.answer e).1⟩
    have hstep : (Step.remembered? s).toList.map (·.2) =
        ((d.mark? s).bind Mark.sent?).toList.reverse := by
      cases e with
      | record recorder q r? => cases recorder <;> rfl
      | remember draft q => simp [s, mark?, Mark.sent?, Step.remembered?, hhooks d hd, Hook.leave]
      | _ => rfl
    have hsent : (History.sentOff ds (h ++ [(i, s)])).map (·.2) =
        (h.sentOff ds).map (·.2) ++ ((d.mark? s).bind Mark.sent?).toList :=
          History.readOff_marks_snoc Mark.sent? hi s
    calc (w'.answer e).2.sent.map (·.2)
        = (Step.remembered? s).toList.map (·.2) ++ w'.sent.map (·.2) := by
          rw [w'.sent_answer e s.2, List.map_append]
      _ = ((History.sentOff ds (h ++ [(i, s)])).map (·.2)).reverse ++ w.sent.map (·.2) := by
        rw [ih, hstep, hsent, List.reverse_append, List.append_assoc]

/-- The exchanges of dispatches that are under way at the same time stand in the history in the
order in which they were answered. Each dispatch has its own there in the order in which it sent
them off, and so have all of them as long as no request is sent off while another one is not
answered. When all dispatches have come to their end, the history has all requests that were sent
off, and it has them in the order in which they were exactly if the dispatches were answered in that
order. -/
theorem alternation_records (hds : ∀ d ∈ ds, d.Mediated ∧ d.recorders.count .history = 1)
    (ha : Alternation (ds.map run) w h left w') :
    w'.history = w.history ++ (h.kept ds).map (·.2) ∧
    (∀ i, strand (h.answered ds) i <+: strand (h.sentOff ds) i) ∧
    (History.OneByOne ((h.marks ds).map (·.2)) → h.answered ds <+: h.sentOff ds) ∧
    ((∀ act ∈ left, ∃ out, act = .done out) →
      (h.answered ds).Perm (h.sentOff ds) ∧
      (h.answered ds = h.sentOff ds ↔ (h.answered ds).map (·.1) = (h.sentOff ds).map (·.1))) := by
  refine ⟨history_alternation ha, fun i => ?_, ?_, fun hleft => ?_⟩
  · rw [History.strand_answered, History.strand_sentOff]
    exact (paired_strand hds ha i).1.requests
  · exact History.answered_of_oneByOne fun i => (paired_strand hds ha i).1
  · have hstrands : ∀ i, strand (h.answered ds) i = strand (h.sentOff ds) i :=
      fun i => (paired_strand hds ha i).2 hleft
    exact ⟨perm_of_strands hstrands, fun heq => by rw [heq], eq_of_strands hstrands⟩

/-- A client that fakes all answers, and so keeps a history. -/
def faker : Client := (Client.new ⟨fun _ => pure (.ok (.ofStatus 200)), false⟩ false).fake

/-- A request whose answer is written to a file, which takes its time. -/
def slow : Dispatch :=
  faker.request.1.dispatch .get "https://api.test/slow"
    { Options.empty with sink := some (.file "slow.txt") }

/-- A request that is answered at once. -/
def fast : Dispatch := faker.request.2.request.1.dispatch .get "https://api.test/fast" .empty

theorem mediated_faker : ∀ d ∈ [slow, fast], d.Mediated ∧ d.recorders.count .history = 1 := by
  have hmediated (d : Dispatch) (hmiddleware : d.middleware = [])
      (htransport : d.environment.transport = fun _ => pure (.ok (.ofStatus 200))) :
        d.Mediated := by
    refine ⟨by simp [hmiddleware], fun q => ?_⟩
    rw [htransport]
    exact .pure _
  intro d hmem
  obtain rfl | hmem := List.mem_cons.mp hmem
  · exact ⟨hmediated slow rfl rfl, rfl⟩
  · obtain rfl := List.mem_singleton.mp hmem
    exact ⟨hmediated fast rfl rfl, rfl⟩

/-- Side by side, the one that was sent off first is recorded last. -/
theorem exists_overtaken : ∃ h left w',
    Alternation ([slow, fast].map run) (.initial .default true .unreachable) h left w' ∧
    (∀ act ∈ left, ∃ out, act = .done out) ∧
    (h.sentOff [slow, fast]).map (·.2.url.text) =
      ["https://api.test/slow", "https://api.test/fast"] ∧
    w'.history.map (·.request.url.text) = ["https://api.test/fast", "https://api.test/slow"] := by
  let b : Batch := ⟨[(.named "slow", slow.run), (.named "fast", fast.run)], 0, none⟩
  let w : World := .initial .default true .unreachable
  obtain ⟨h, left, halternation, hleft⟩ := Batch.together_alternates (b := b) nofun w
  have hrun : ((b.runTogether w).2.sent.map (·.2.url.text),
      (b.runTogether w).2.history.map (·.request.url.text)) =
      (["https://api.test/fast", "https://api.test/slow"],
          ["https://api.test/fast", "https://api.test/slow"]) := by
    decide +kernel
  obtain ⟨hremembered, hhistory⟩ := Prod.mk.inj hrun
  have hhooks : ∀ d ∈ [slow, fast], d.hooks = [] :=
    List.forall_mem_cons.mpr ⟨rfl, List.forall_mem_singleton.mpr rfl⟩
  -- What the world remembers stands there the last one first.
  have hsent : (h.sentOff [slow, fast]).map (·.2) =
      ((b.runTogether w).2.sent.map (·.2)).reverse := by
    rw [sent_alternation hhooks halternation, List.reverse_append, List.reverse_reverse]
    rfl
  have hurls := congrArg (List.map (·.url.text)) hsent
  rw [List.map_map, List.map_reverse, List.map_map] at hurls
  exact ⟨h, left, _, halternation, hleft, hurls.trans (congrArg List.reverse hremembered), hhistory⟩

theorem alternation_records_overtaken : ∃ h left w',
    (∀ d ∈ [slow, fast], d.Mediated ∧ d.recorders.count .history = 1) ∧
    Alternation ([slow, fast].map run) (.initial .default true .unreachable) h left w' ∧
    w'.history = (h.kept [slow, fast]).map (·.2) ∧
    (h.answered [slow, fast]).Perm (h.sentOff [slow, fast]) ∧
      h.answered [slow, fast] ≠ h.sentOff [slow, fast] := by
  obtain ⟨h, left, w', halternation, hleft, hsent, hurls⟩ := exists_overtaken
  obtain ⟨hhistory, -, -, hsettled⟩ := alternation_records mediated_faker halternation
  refine ⟨h, left, w', mediated_faker, halternation, hhistory, (hsettled hleft).1, fun heq => ?_⟩
  have hanswered : (h.answered [slow, fast]).map (·.2.url.text) =
      w'.history.map (·.request.url.text) := by
    rw [hhistory]
    simp [History.answered, World.initial]
  rw [heq, hsent, hurls] at hanswered
  simp at hanswered

theorem not_records_as_sent :
    ¬ ∀ (ds : List Dispatch) (w w' : World) (h : History) (left : List (Act Outcome)),
    (∀ d ∈ ds, d.Mediated ∧ d.recorders.count .history = 1) → Alternation (ds.map run) w h left w' →
    (∀ act ∈ left, ∃ out, act = .done out) →
    w'.history.map (·.request) = w.history.map (·.request) ++ (h.sentOff ds).map (·.2) := by
  intro hall
  obtain ⟨h, left, w', halternation, hleft, hsent, hurls⟩ := exists_overtaken
  have hrequests :=
    congrArg (List.map (·.url.text)) (hall _ _ _ _ _ mediated_faker halternation hleft)
  rw [List.map_map, List.map_append, List.map_map, List.map_map] at hrequests
  have hcontra : ["https://api.test/fast", "https://api.test/slow"] =
      ["https://api.test/slow", "https://api.test/fast"] := hurls.symm.trans (hrequests.trans hsent)
  simp at hcontra

end Dispatch

end Courier
