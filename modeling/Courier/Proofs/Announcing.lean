import Courier.Proofs.Boundary
import Courier.Proofs.Interleaving
import Courier.Proofs.Quiet
import Courier.Proofs.Retrying
/-
Which events a dispatch tells, and which requests it remembers for its draft,
among whatever else goes on. An attempt tells of the request that it handed to
the sending stage (`Dispatch.Announced`), and of nothing else: the request
that an attempt keeps as sent is taken away at its end, so none is left over
for the next one (`Dispatch.attempt_announced`).

Nothing is told between the attempts, and none follows a connection failure.
-/
namespace Courier

namespace Dispatch

variable {d : Dispatch} {o : Options} {p p' : Progress} {t : Trace} {rounds : List Round}

/-! ## The sending stage -/

/-- The service that requests are handed to once they went through the middleware: the sending stage
with all that is below it. -/
def sending (d : Dispatch) : Service :=
  sendingStage d.draft d.environment.announces d.hooks
    (recordingStage d.recorders (fakingStage d.stubs d.preventsStray
      (.ofTransport d.environment.transport)))

theorem service_eq (d : Dispatch) : d.service = compose d.middleware d.sending := by
  rw [service, stages, compose_append]
  rfl

/-- What a dispatch was given does not meddle with events: each stage of its middleware calls the
service inside at most once for each of its calls, and its transport is quiet. -/
structure Orderly (d : Dispatch) : Prop where
  middleware : ∀ stage ∈ d.middleware, stage.AtMostOnce
  transport : d.environment.transport.Quiet

theorem announce_runs {draft : Nat} {announces : Bool} {q : Request} {u : Unit} :
    (announce draft announces q).Runs p t u p' ↔
      t = ⟨.remember draft q, ()⟩ ::
        (if announces then [⟨.note (.event (.sending q)), ()⟩] else []) ∧
        p' = { p with sent := some q } := by
  unfold announce
  cases announces with
  | true => simp
  | false => simp

/-- The sending stage keeps and announces the request that is handed to it. -/
theorem sending_runs (hd : d.Orderly) {q : Request} {out : Outcome}
    (h : (d.sending.call q).Runs p t out p') :
    t.events = (if d.environment.announces then [.sending q] else []) ∧
      t.remembered = [(d.draft, q)] ∧
      p'.sent = some q := by
  have hbelow : Service.Quiet (recordingStage d.recorders (fakingStage d.stubs d.preventsStray
      (.ofTransport d.environment.transport))) :=
    ((Service.Quiet.ofTransport hd.transport).faking d.stubs d.preventsStray).recording d.recorders
  obtain ⟨t₁, u, p₁, t₂, rfl, h₁, h₂⟩ := Run.runs_bind.mp h
  obtain ⟨rfl, rfl⟩ := announce_runs.mp h₁
  obtain ⟨ht₂, hp'⟩ :=
    Run.Quiet.bind (Hook.applyAll_quiet d.hooks q) (fun q' => hbelow q') _ t₂ out p' h₂
  rw [Trace.events_append, Trace.remembered_append, ht₂.events_eq, ht₂.remembered_eq, hp']
  cases d.environment.announces with
  | true => exact ⟨rfl, rfl, rfl⟩
  | false => exact ⟨rfl, rfl, rfl⟩

/-- What is told and remembered in a call of the service is about the request that reaches the
sending stage, if one does. -/
theorem service_runs (hd : d.Orderly) {q : Request} {out : Outcome}
    (h : (d.service.call q).Runs p t out p') :
    ∃ q?, d.sending.Passes p p' t q? ∧
      t.events = (if d.environment.announces then q?.toList.map .sending else []) ∧
      t.remembered = q?.toList.map (d.draft, ·) ∧ p'.sent = q?.or p.sent := by
  rw [service_eq] at h
  obtain ⟨q?, hpasses⟩ := compose_atMostOnce hd.middleware d.sending q p t out p' h
  refine ⟨q?, hpasses, ?_⟩
  cases hpasses with
  | stopped ht hp' => simp [ht.events_eq, ht.remembered_eq, hp']
  | through ht₁ hp₁ hcall ht₃ hp' =>
    obtain ⟨hevents, hremembered, hsent⟩ := sending_runs hd hcall
    simp [ht₁.events_eq, ht₁.remembered_eq, ht₃.events_eq, ht₃.remembered_eq, hevents,
      hremembered, hp', hsent]

/-! ## Attempts -/

/-- The events of an attempt that built the request `built`, handed `q?` to the sending stage if to
any, and came to an outcome. -/
def told (d : Dispatch) (built : Request) (q? : Option Request) (outcome : Outcome) : List Event :=
  if d.environment.announces then
    q?.toList.map .sending ++
      match outcome, q? with
      | .ok r, some q => [.received q r]
      | .error (.connection f), _ => [.connectionFailed (q?.getD built) f]
      | _, _ => []
  else []

/-- `d.Announced o r q?`: the attempt of the round, made from the options `o`, handed `q?` to the
sending stage, and what it told and remembered is about that request, or about the one it built if
there is none. -/
inductive Announced (d : Dispatch) (o : Options) (r : Round) : Option Request → Prop
  | unbuilt {boundary f} : Request.build boundary d.method d.url o = .error f →
      r.trace = [⟨.freshBoundary, boundary⟩] → r.outcome = .error f → f.isConnection = false →
      r.trace.events = [] → r.trace.remembered = [] → Announced d o r none
  | built {boundary q q? outcome t t'} {p p' : Progress} :
      Request.build boundary d.method d.url o = .ok q →
      (d.service.call q).Runs p t outcome p' → r.outcome = settled outcome →
      r.trace = ⟨.freshBoundary, boundary⟩ :: (t ++ t') → d.sending.Passes p p' t q? →
      r.trace.events = d.told q q? r.outcome → r.trace.remembered = q?.toList.map (d.draft, ·) →
      Announced d o r q?

theorem events_announcing (q : Request) (q? : Option Request) (outcome : Outcome) :
    (if d.environment.announces then q?.toList.map .sending else []) ++
      (d.announcing q q? outcome).events =
      d.told q q? (settled outcome) := by
  unfold told announcing settled
  cases d.environment.announces with
  | true =>
    cases outcome with
    | ok r => cases q? <;> simp [Trace.events, Step.event?]
    | error f => cases f <;> cases q? <;> simp [Trace.events, Step.event?]
  | false =>
    cases outcome with
    | ok r => cases q? <;> simp [Trace.events]
    | error f => cases f <;> simp [Trace.events]

theorem remembered_announcing (q : Request) (q? : Option Request) (outcome : Outcome) :
    (d.announcing q q? outcome).remembered = [] := by
  unfold announcing
  cases d.environment.announces with
  | true =>
    cases outcome with
    | ok r => cases q? <;> simp [Trace.remembered, Step.remembered?]
    | error f => cases f <;> simp [Trace.remembered, Step.remembered?]
  | false =>
    cases outcome with
    | ok r => cases q? <;> simp [Trace.remembered]
    | error f => cases f <;> simp [Trace.remembered]

/-- An attempt that begins with nothing kept as sent tells of its own request, and leaves nothing
kept. -/
theorem attempt_announced (hd : d.Orderly) {r : Round}
    (h : (d.attempt o).Runs p r.trace r.outcome p') (hp : p.sent = none) :
    p'.sent = none ∧ ∃ q?, d.Announced o r q? := by
  obtain ⟨boundary, t, ht, ⟨f, hbuild, rfl, hout, rfl⟩ |
      ⟨q, t₁, outcome, p₁, hbuild, hcall, rfl, hout, rfl⟩⟩ :=
    attempt_runs.mp h
  · refine ⟨hp, none, .unbuilt hbuild ht hout (Request.offline_build _ _ _ _ f hbuild) ?_ ?_⟩
    · rw [ht]
      rfl
    · rw [ht]
      rfl
  · obtain ⟨q?, hpasses, hevents, hremembered, hsent⟩ := service_runs hd hcall
    -- What is kept as sent at the end of the call was kept in it, since nothing was before.
    rw [hp, Option.or_none] at hsent
    refine ⟨rfl, q?, .built hbuild hcall hout ht hpasses ?_ ?_⟩
    · rw [ht, hout, ← events_announcing, ← hevents, ← hsent, ← Trace.events_append]
      rfl
    · have hnothing := remembered_announcing (d := d) q p₁.sent outcome
      rw [ht, ← hremembered, ← List.append_nil t₁.remembered, ← hnothing, ← Trace.remembered_append]
      rfl

/-! ## Rounds -/

/-- What a dispatch does between its attempts. -/
inductive Between : Effect → Prop
  | truncation : Between .truncation
  | tested (f : Failure) : Between (.note (.tested f))
  | guarded (r : Response) : Between (.note (.guarded r))
  | raised (listener : String) (e : StatusError) : Between (.note (.raised listener e))
  | delayComputed (n : Nat) (f : Failure) : Between (.note (.delayComputed n f))
  | sleep (ms : Nat) (mode : Mode) : Between (.sleep ms mode)

theorem between_judging (r : Round) : ∀ s ∈ d.judging r, Between s.effect := by
  have htesting (e : StatusError) : ∀ s ∈ d.testing e, Between s.effect := by
    unfold testing
    split
    · exact List.forall_mem_singleton.mpr (.tested _)
    · simp
  have hguarding (e : StatusError) : ∀ s ∈ d.guarding e, Between s.effect := by
    unfold guarding
    split
    · exact List.forall_mem_singleton.mpr (.guarded _)
    · simp
  have hraising (e : StatusError) : ∀ s ∈ d.raising e, Between s.effect := by
    unfold raising
    split
    · split
      · exact List.forall_mem_singleton.mpr (.raised _ _)
      · simp
    · simp
  unfold judging
  split
  · simp
  · exact List.forall_mem_singleton.mpr .truncation
  · next e _ _ =>
    refine List.forall_mem_cons.mpr ⟨.truncation, ?_⟩
    exact List.forall_mem_append.mpr
      ⟨List.forall_mem_append.mpr ⟨htesting e, hguarding e⟩, hraising e⟩

theorem between_waiting (mode : Mode) (n : Nat) (e : StatusError) :
    ∀ s ∈ d.waiting mode n e, Between s.effect := by
  unfold waiting
  refine List.forall_mem_append.mpr ⟨?_, List.forall_mem_singleton.mpr (.sleep _ _)⟩
  split
  · exact List.forall_mem_singleton.mpr (.delayComputed _ _)
  · simp

theorem between_pauses {mode : Mode} {n : Nat} :
    ∀ pause ∈ d.pauses mode n rounds, ∀ s ∈ pause, Between s.effect := by
  intro pause hmem
  obtain ⟨i, hi⟩ := List.mem_iff_getElem?.mp hmem
  rw [getElem?_pauses] at hi
  split at hi
  · obtain ⟨r, -, rfl⟩ := Option.map_eq_some_iff.mp hi
    cases r.error? with
    | none => simp
    | some e => exact between_waiting mode _ e
  · simp at hi

/-- What is read off nothing between the attempts is read off the attempts. -/
theorem filterMap_woven {α : Type} {f : Step → Option α} {mode : Mode} {n : Nat}
    (hf : ∀ s : Step, Between s.effect → f s = none) :
    (d.woven rounds (d.pauses mode n rounds)).filterMap f = rounds.flatMap fun r =>
      r.trace.filterMap f := by
  have hnone {t : Trace} (h : ∀ s ∈ t, Between s.effect) : t.filterMap f = [] :=
    List.filterMap_eq_nil_iff.mpr fun s hs => hf s (h s hs)
  have hpauses : ∀ pause ∈ d.pauses mode n rounds, pause.filterMap f = [] :=
    fun pause hmem => hnone (between_pauses pause hmem)
  generalize d.pauses mode n rounds = pauses at hpauses
  induction rounds generalizing pauses with
  | nil => rfl
  | cons r rounds ih =>
    have hhead : (pauses.headD []).filterMap f = [] := by
      cases pauses with
      | nil => rfl
      | cons pause pauses => exact hpauses pause List.mem_cons_self
    have htail := ih pauses.tail fun pause hmem => hpauses pause (List.mem_of_mem_tail hmem)
    simp only [woven, List.filterMap_append, hnone (between_judging r), hhead, List.append_nil,
      htail, List.flatMap_cons]

theorem events_woven {mode : Mode} {n : Nat} :
    (d.woven rounds (d.pauses mode n rounds)).events = rounds.flatMap fun r => r.trace.events := by
  refine filterMap_woven fun s hs => ?_
  obtain ⟨e, reply⟩ := s
  cases hs <;> rfl

theorem remembered_woven {mode : Mode} {n : Nat} :
    (d.woven rounds (d.pauses mode n rounds)).remembered = rounds.flatMap fun r =>
      r.trace.remembered := by
  refine filterMap_woven fun s hs => ?_
  obtain ⟨e, reply⟩ := s
  cases hs <;> rfl

/-- Every attempt begins with nothing kept as sent, so each round tells of its own request. -/
theorem Attempted.announced (hd : d.Orderly) (h : d.Attempted o p rounds p')
    (hp : p.sent = none) {i : Nat} {r : Round} (hr : rounds[i]? = some r) :
    ∃ q?, d.Announced (d.optionsAfter o rounds i) r q? := by
  induction h generalizing i with
  | nil => simp at hr
  | cons hattempt _ ih =>
    obtain ⟨hp₁, hannounced⟩ := attempt_announced hd hattempt hp
    cases i with
    | zero =>
      obtain rfl := Option.some.inj hr
      exact hannounced
    | succ i => exact ih hp₁ hr

/-! ## Connection failures -/

theorem told_connectionFailed {built q : Request} {q? : Option Request} {outcome : Outcome}
    {f : ConnectionFailure} {before later : List Event}
    (h : d.told built q? outcome = before ++ .connectionFailed q f :: later) :
    later = [] ∧ ∃ f', outcome = .error (.connection f') := by
  unfold told at h
  split at h
  · cases outcome with
    | ok r => cases q? <;> simp [List.cons_eq_append_iff] at h
    | error failure =>
      cases failure with
      | connection f' => cases q? <;> simp [List.cons_eq_append_iff] at h <;> simp [h]
      | _ => cases q? <;> simp [List.cons_eq_append_iff] at h
  · simp at h

/-- A connection failure is the last event of its attempt. -/
theorem Announced.connectionFailed {r : Round} {q? : Option Request} {q : Request}
    {f : ConnectionFailure} {before later : List Event} (ha : d.Announced o r q?)
    (h : r.trace.events = before ++ .connectionFailed q f :: later) : later = [] ∧ r.Unrelated := by
  cases ha with
  | unbuilt _ _ _ _ hevents _ => simp [hevents] at h
  | built _ _ _ _ _ hevents _ =>
    rw [hevents] at h
    obtain ⟨hlater, f', hout⟩ := told_connectionFailed h
    exact ⟨hlater, .connection f', hout, by simp⟩

/-- No attempt follows a connection failure, so it is the last event of all. -/
theorem Course.connectionFailed {left : Nat} (hd : d.Orderly) (h : d.Course left o p rounds p')
    (hp : p.sent = none) {q : Request} {f : ConnectionFailure} {before later : List Event}
    (he : (rounds.flatMap fun r => r.trace.events) = before ++ .connectionFailed q f :: later) :
    later = [] := by
  induction h generalizing before with
  | last hattempt _ =>
    obtain ⟨-, q?, hannounced⟩ := attempt_announced hd hattempt hp
    rw [List.flatMap_singleton] at he
    exact (hannounced.connectionFailed he).1
  | @next left o p r p₁ e o' rounds p' hattempt hagain hcourse ih =>
    obtain ⟨hp₁, q?, hannounced⟩ := attempt_announced hd hattempt hp
    have hrelated : ¬ r.Unrelated := by
      intro hunrelated
      have hnone := again?_eq_none.mpr (.unrelated (d := d) (o := o) hunrelated)
      simp [hagain] at hnone
    -- The failure is told in a later round, or in this one, after which there is none.
    rw [List.flatMap_cons, List.append_eq_append_iff] at he
    obtain ⟨between, rfl, hrest⟩ | ⟨between, hevents, hrest⟩ := he
    · exact ih hp₁ hrest
    · cases between with
      | nil =>
        have hrest' : (rounds.flatMap fun r => r.trace.events) =
            [] ++ .connectionFailed q f :: later := hrest.symm
        exact ih hp₁ hrest'
      | cons event between =>
        obtain ⟨rfl, hlater⟩ := List.cons.inj hrest
        exact absurd (hannounced.connectionFailed hevents).2 hrelated

end Dispatch

/-! ## Dispatches among others -/

/-- The request of a draft that was remembered last. -/
def History.lastRemembered? (h : History) (draft : Nat) : Option Request :=
  ((h.filterMap fun s => s.2.remembered?).filter (·.1 == draft)).getLast?.map (·.2)

theorem Interleaving.lastSent?_eq {acts left : List (Act Outcome)} {w w' : World} {h : History}
    (hi : Interleaving acts w h left w') (draft : Nat) :
    w'.lastSent? draft = (h.lastRemembered? draft).or (w.lastSent? draft) := by
  unfold World.lastSent? History.lastRemembered?
  rw [hi.sent_eq, List.find?_append, ← List.head?_filter, List.filter_reverse, List.head?_reverse,
    Option.map_or]

namespace Dispatch

/-- However dispatches take turns, each attempt of each of them tells and remembers what it handed
to the sending stage itself, a connection failure is the last event of its dispatch, and a draft was
told the request that any of its dispatches handed over last. -/
theorem interleaving_announces {ds : List Dispatch} {w w' : World} {h : History}
    {left : List (Act Outcome)} (horderly : ∀ d ∈ ds, d.Orderly)
    (hi : Interleaving (ds.map run) w h left w') :
    (∀ i d, ds[i]? = some d → ∃ (rest : Trace) (out : Outcome) (rounds : List Round),
      d.run.Runs (h.own i ++ rest) out ∧
      (∀ o, left[i]? = some (.done o) → rest = [] ∧ out = o) ∧
      h.own i ++ rest = d.woven rounds (d.pauses d.mode 1 rounds) ∧
      (∀ j r, rounds[j]? = some r → ∃ q?, d.Announced (d.optionsAfter d.options rounds j) r q?) ∧
      (h.own i).events ++ rest.events = (rounds.flatMap fun r => r.trace.events) ∧
      (h.own i).remembered ++ rest.remembered = (rounds.flatMap fun r => r.trace.remembered) ∧
      ∀ before q f later,
        (h.own i).events ++ rest.events = before ++ .connectionFailed q f :: later → later = []) ∧
    ∀ draft, w'.lastSent? draft = (h.lastRemembered? draft).or (w.lastSent? draft) := by
  refine ⟨fun i d hd => ?_, hi.lastSent?_eq⟩
  have hget : (ds.map run)[i]? = some d.run := by rw [List.getElem?_map, hd]; rfl
  have hdorderly := horderly d (List.mem_of_getElem? hd)
  obtain ⟨rest, out, hruns, -, hdone⟩ := hi.exists_runs hget
  obtain ⟨rounds, -, p', hcourse, ht, -⟩ := run_runs.mp hruns
  have hattempted := (course_iff.mp hcourse).1
  have hevents : (h.own i).events ++ rest.events = (rounds.flatMap fun r => r.trace.events) := by
    rw [← Trace.events_append, ht, events_woven]
  have hremembered : (h.own i).remembered ++ rest.remembered =
      (rounds.flatMap fun r => r.trace.remembered) := by
    rw [← Trace.remembered_append, ht, remembered_woven]
  refine ⟨rest, out, rounds, hruns, hdone, ht,
    fun j r hr => hattempted.announced hdorderly rfl hr, hevents, hremembered, ?_⟩
  intro before q f later hlater
  rw [hevents] at hlater
  exact hcourse.connectionFailed hdorderly rfl hlater

/-- The dispatch to a service that is never available, watched by middleware. -/
def watched : Dispatch :=
  { unavailable (.count 2) with
    middleware := [loggingStage .outcomes .shared, (Middleware.tracing "outer").stage]
    environment := ⟨Script.transport ⟨[], .ok (.ofStatus 503)⟩, true⟩ }

theorem orderly_watched : watched.Orderly where
  middleware := by
    intro stage hmem
    obtain rfl | hmem := List.mem_cons.mp hmem
    · exact loggingStage_atMostOnce _ _
    · obtain rfl := List.mem_singleton.mp hmem
      exact Middleware.tracing_atMostOnce _
  transport := Script.transport_quiet _

theorem interleaving_announces_watched :
    ∃ (h : History) (left : List (Act Outcome)) (w' : World) (rest : Trace) (rounds : List Round),
      Interleaving ([watched, watched].map run) (.initial .default true .unreachable) h left w' ∧
      (∀ d ∈ [watched, watched], d.Orderly) ∧
      (h.own 0).events ++ rest.events = (rounds.flatMap fun r => r.trace.events) ∧
      (h.lastRemembered? 0).isSome = true := by
  have horderly : ∀ d ∈ [watched, watched], d.Orderly := by
    intro d hd
    obtain rfl : d = watched := by simpa using hd
    exact orderly_watched
  obtain ⟨h, hi⟩ := Batch.exists_interleaving none [0, 1, 0, 1, 0, 1, 0, 1]
    ([watched, watched].map fun d => (false, d.run)) (.initial .default true .unreachable)
  rw [List.map_map] at hi
  obtain ⟨hdispatches, hlast⟩ := interleaving_announces horderly hi
  obtain ⟨rest, out, rounds, -, -, -, -, hevents, -⟩ := hdispatches 0 _ rfl
  refine ⟨h, _, _, rest, rounds, hi, horderly, hevents, ?_⟩
  have hsome : (World.lastSent? (Batch.turns none [0, 1, 0, 1, 0, 1, 0, 1]
      ([watched, watched].map fun d => (false, d.run)) (.initial .default true .unreachable)).2
        0).isSome =
      true := by decide +kernel
  have hinitial : (World.initial .default true .unreachable).lastSent? 0 = none := rfl
  rw [hlast, hinitial, Option.or_none] at hsome
  exact hsome

end Dispatch

end Courier
