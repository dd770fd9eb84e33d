import Courier.Proofs.Rebuilding
import Courier.Proofs.Stacking
import Mathlib.Data.List.Find
import Mathlib.Data.List.Forall2
/-
Observers of a dispatch: who listens to its events, who records its exchanges,
stages that log, hooks that put no request in the place of another, and the
listener of the statistics. Two dispatches that differ in nothing else
(`Dispatch.SameButObservers`) make the same rounds, in which the same requests
pass and are answered by the same stubs, and end alike, in whatever order the
observers stand and however many they are (`Dispatch.run_unobserved`).

Only the listener can be seen by others than the dispatch: it is among the
options, and those go along with the request. A stub may answer by it
(`Dispatch.not_run_unobserved`). So where it is muted, what the dispatch was
given must not look for it (`Dispatch.Deaf`, `Stage.Uniform`).
-/
namespace Courier

variable {mute : Bool} {q q' : Request}

/-! ## Stages below the middleware -/

namespace Hook

/-- The hook puts no request in the place of another. -/
def Idle (hook : Hook) : Prop := ∀ q, hook.replace q = none

theorem Idle.left_eq {hook : Hook} (h : hook.Idle) (q : Request) : hook.left q = q := by
  simp [left, h q]

theorem left_like {hook : Hook} (h : mute = true → hook.Deaf) (hq : q.Like mute q') :
    (hook.left q).Like mute (hook.left q') := by
  cases mute with
  | false => exact congrArg hook.left hq
  | true => exact h rfl q q' hq

/-- Idle hooks make no difference to the request that is left. -/
theorem leave_like {hooks hooks' : List Hook} (h : Padded Idle hooks hooks')
    (hdeaf : mute = true → ∀ hook ∈ hooks, hook.Deaf) (hq : q.Like mute q') :
    (leave hooks q).Like mute (leave hooks' q') := by
  induction h generalizing q q' with
  | nil => exact hq
  | keep _ ih =>
    refine ih (fun hmute hook hmem => hdeaf hmute hook (List.mem_cons_of_mem _ hmem)) ?_
    exact left_like (fun hmute => hdeaf hmute _ List.mem_cons_self) hq
  | @left hook hooks hooks' hidle _ ih =>
    change (leave hooks (hook.left q)).Like mute (leave hooks' q')
    rw [hidle.left_eq]
    exact ih (fun hmute hook hmem => hdeaf hmute hook (List.mem_cons_of_mem _ hmem)) hq
  | @right hook hooks hooks' hidle _ ih =>
    change (leave hooks q).Like mute (leave hooks' (hook.left q'))
    rw [hidle.left_eq]
    exact ih hdeaf hq

/-- The calls of hooks are aside; what counts is the request that they leave. -/
theorem applyAll_aside (hooks : List Hook) (q : Request) (p : Progress) :
    (applyAll hooks q p).Aside (.observing mute) (· = (leave hooks q, p)) := by
  induction hooks generalizing q with
  | nil => exact .done rfl
  | cons hook hooks ih =>
    change Act.Aside _ _ ((hook.apply q >>= applyAll hooks) p)
    unfold apply
    cases hook.label? with
    | none => exact ih (hook.left q)
    | some label => exact .perform rfl fun _ => ih (hook.left q)

theorem applyAll_shadows {kept : Progress → Progress → Prop} {hooks hooks' : List Hook}
    (h : Padded Idle hooks hooks') (hdeaf : mute = true → ∀ hook ∈ hooks, hook.Deaf)
    (hq : q.Like mute q') :
    Run.Shadows (.observing mute) kept (Request.Like mute) (applyAll hooks q)
      (applyAll hooks' q') := by
  intro p p' hp
  refine (applyAll_aside hooks q p).shadows (applyAll_aside hooks' q' p') ?_
  rintro _ _ rfl rfl
  exact ⟨leave_like h hdeaf hq, hp⟩

end Hook

theorem recording_aside (recorders : List Recorder) (q : Request) (r? : Option Response) :
    Run.Aside (.observing mute)
      (recorders.forM fun recorder => Run.effect (.record recorder q r?)) := by
  induction recorders with
  | nil => exact .pure
  | cons recorder recorders ih =>
    have hrecord : Run.Aside (.observing mute) (Run.effect (.record recorder q r?)) :=
      fun _ => .perform rfl fun _ => .done rfl
    exact hrecord.seq ih

theorem recordingStage_shadows {kept : Progress → Progress → Prop} {inner inner' : Service}
    (h : inner.Shadows mute kept inner') (recorders recorders' : List Recorder) :
    (recordingStage recorders inner).Shadows mute kept (recordingStage recorders' inner') := by
  intro q q' hq
  refine .bind (h q q' hq) ?_
  rintro outcome _ rfl
  exact (recording_aside recorders q outcome.toOption).left
    ((recording_aside recorders' q' outcome.toOption).right (.pure rfl))

theorem publishing_aside (announces : Bool) (e : Event) :
    Run.Aside (.observing mute) (if announces then Run.note (.event e) else pure ()) := by
  cases announces with
  | true => exact .note rfl
  | false => exact .pure

/-- What was sent last may differ in its listener, or not be sent at all: only observers are
told. -/
theorem announce_shadows (heights : List (Nat × Nat)) (draft : Nat) (announces announces' : Bool)
    (hq : q.Like mute q') : Run.Shadows (.observing mute) (Matched heights) (fun _ _ => True)
      (announce draft announces q) (announce draft announces' q') := by
  intro p p' hp
  refine .remember hq ?_
  refine (publishing_aside announces (.sending q) { p with sent := some q }).shadows
    (publishing_aside announces' (.sending q') { p' with sent := some q' }) fun r r' hr hr' =>
      ⟨trivial, ?_⟩
  rw [hr, hr']
  exact hp

namespace Dispatch

variable {d d' : Dispatch} {o o' : Options}

/-! ## Observers -/

/-- The dispatches are the same but for observers: stages that log and idle hooks, any number of
them anywhere, the recorders, those who listen to events and, if it is muted, the listener of the
statistics. -/
structure SameButObservers (mute : Bool) (d d' : Dispatch) : Prop where
  method : d'.method = d.method
  url : d'.url = d.url
  options : d.options.muted mute = d'.options.muted mute
  middleware : Padded Stage.Logs d.middleware d'.middleware
  hooks : Padded Hook.Idle d.hooks d'.hooks
  stubs : d'.stubs = d.stubs
  preventsStray : d'.preventsStray = d.preventsStray
  retry : d'.retry = d.retry
  throwing : d'.throwing = d.throwing
  mode : d'.mode = d.mode
  draft : d'.draft = d.draft
  transport : d'.environment.transport = d.environment.transport

/-- Besides its middleware, nothing that a dispatch was given looks for the listener of the
statistics. -/
structure Deaf (d : Dispatch) : Prop where
  hooks : ∀ hook ∈ d.hooks, hook.Deaf
  stubs : ∀ m ∈ d.stubs, m.Deaf
  tests : d.TestsAlike fun o o' => o.muted true = o'.muted true
  transport : d.environment.transport.Deaf

theorem SameButObservers.mediated (hsame : d.SameButObservers mute d') (h : d.Mediated) :
    d'.Mediated where
  middleware := by
    intro stage hmem
    obtain hmem | ⟨detail, truncation, rfl⟩ := hsame.middleware.mem_right hmem
    · exact h.middleware stage hmem
    · refine loggingStage_mediates (fun _ => ?_) ?_ detail truncation <;> rfl
  transport := hsame.transport ▸ h.transport

/-! ## Attempts -/

theorem sending_shadows (hsame : d.SameButObservers mute d') (hdeaf : mute = true → d.Deaf)
    (heights : List (Nat × Nat)) : d.sending.Shadows mute (Matched heights) d'.sending := by
  have hfaking : d.faking.Shadows mute (Matched heights) d'.faking := by
    intro q q' hq
    have htransport : Run.Shadows (.observing mute) (Matched heights) Eq
        ((Service.ofTransport d.environment.transport).call q)
        ((Service.ofTransport d.environment.transport).call q') :=
      .act (Transport.shadows (fun hmute => (hdeaf hmute).transport) hq)
    unfold faking
    rw [hsame.stubs, hsame.preventsStray, hsame.transport]
    exact fakingStage_shadows (fun hmute => (hdeaf hmute).stubs) d.preventsStray hq htransport 0 0
  intro q q' hq
  change Run.Shadows _ _ _ (announce d.draft d.environment.announces q >>=
    fun _ => Hook.applyAll d.hooks q >>=
    (recordingStage d.recorders d.faking).call)
        (announce d'.draft d'.environment.announces q' >>= fun _ =>
      Hook.applyAll d'.hooks q' >>= (recordingStage d'.recorders d'.faking).call)
  rw [hsame.draft]
  refine .bind (announce_shadows heights d.draft _ _ hq) fun _ _ _ => ?_
  exact .bind (Hook.applyAll_shadows hsame.hooks (fun hmute => (hdeaf hmute).hooks) hq)
      fun left left' hleft =>
    recordingStage_shadows hfaking d.recorders d'.recorders left left' hleft

theorem service_shadows (hsame : d.SameButObservers mute d') (hdeaf : mute = true → d.Deaf)
    {heights : List (Nat × Nat)} (haligned : Aligned mute 3 d.middleware d'.middleware heights) :
    d.service.Shadows mute (Matched heights) d'.service := by
  rw [service_eq, service_eq]
  exact haligned.compose_shadows rfl rfl (sending_shadows hsame hdeaf heights)
    (fun _ => id) fun _ => .inl

/-- What is published of an outcome is aside. -/
theorem settle_aside (d : Dispatch) (q : Request) (sent? : Option Request) (outcome : Outcome)
    (p : Progress) :
    (d.settle q sent? outcome p).Aside (.observing mute) (· = (settled outcome, p)) := by
  have hpublish (e : Event) (out : Outcome) :
      Act.Aside (.observing mute) (· = (out, p))
          ((d.publish e >>= fun _ => pure out : Run Outcome) p) :=
    (publishing_aside d.environment.announces e p).bind fun r hr => .done (by rw [hr])
  cases outcome with
  | ok r =>
    cases sent? with
    | none => exact .done rfl
    | some sent => exact hpublish _ _
  | error f =>
    cases f with
    | connection f => exact hpublish _ _
    | _ => exact .done rfl

theorem attempt_shadows (hsame : d.SameButObservers mute d') (hdeaf : mute = true → d.Deaf)
    {heights : List (Nat × Nat)} (haligned : Aligned mute 3 d.middleware d'.middleware heights)
    (ho : o.muted mute = o'.muted mute) :
    Run.Shadows (.observing mute) (Matched heights) Eq (d.attempt o) (d'.attempt o') := by
  unfold attempt
  rw [hsame.method, hsame.url]
  refine .bind (.effect .freshBoundary) ?_
  rintro boundary _ ⟨rfl, -⟩
  obtain ⟨f, hbuild, hbuild'⟩ | ⟨q, q', hbuild, hbuild', hq⟩ :=
    Request.build_like ho boundary d.method d.url
  · rw [hbuild, hbuild']
    exact .pure rfl
  · rw [hbuild, hbuild']
    refine .bind (service_shadows hsame hdeaf haligned q q' hq) ?_
    rintro outcome _ rfl p p' hp
    -- What was sent may differ in its listener, but nobody except observers is told of it.
    refine ((d.settle_aside q p.sent outcome { p with sent := none }).shadows
      (d'.settle_aside q' p'.sent outcome { p' with sent := none })) ?_
    rintro _ _ rfl rfl
    exact ⟨rfl, hp⟩

/-! ## The loop -/

theorem testsAlike (hdeaf : mute = true → d.Deaf) :
    d.TestsAlike fun o o' => o.muted mute = o'.muted mute := by
  cases mute with
  | false =>
    rintro test - f o _ rfl
    exact ⟨rfl, rfl⟩
  | true => exact (hdeaf rfl).tests

theorem run_shadows_unobserved (hsame : d.SameButObservers mute d') (hdeaf : mute = true → d.Deaf)
    {heights : List (Nat × Nat)} (haligned : Aligned mute 3 d.middleware d'.middleware heights) :
    d.run.Shadows (.observing mute) Eq d'.run := by
  have hattempt (o o' : Options) (ho : o.muted mute = o'.muted mute) :
      Run.Shadows (.observing mute) (Matched heights) Eq (d.attempt o) (d'.attempt o') :=
    attempt_shadows hsame hdeaf haligned ho
  refine run_shadows hsame.retry hsame.mode hattempt (fun o o' outcome ho => ?_)
    (fun _ _ => rfl) hsame.options
  refine judge_shadows hsame.retry (testsAlike hdeaf) (raises_shadows hsame.throwing)
    (fun _ => rfl) ?_ ho outcome
  rintro e b _ rest rfl
  rfl

end Dispatch

/-! ## Rounds -/

/-- The rounds come to the same, and nothing is seen to differ in their attempts. -/
structure Round.SameUnobserved (mute : Bool) (r r' : Round) : Prop where
  trace : r'.trace.unobserved mute = r.trace.unobserved mute
  outcome : r'.outcome = r.outcome
  truncation : r'.truncation = r.truncation

theorem Round.SameUnobserved.response?_eq {r r' : Round} (h : r.SameUnobserved mute r') :
    r'.response? = r.response? := by
  rw [response?, h.outcome, ← response?]

theorem Round.SameUnobserved.error?_eq {r r' : Round} (h : r.SameUnobserved mute r') :
    r'.error? = r.error? := by
  rw [error?, h.response?_eq, h.truncation, ← error?]

namespace Dispatch

variable {d d' : Dispatch} {o o' : Options} {p p' p₁ : Progress} {rounds rounds' : List Round}
  {heights : List (Nat × Nat)}

theorem attempt_unobserved (hsame : d.SameButObservers mute d') (hdeaf : mute = true → d.Deaf)
    (haligned : Aligned mute 3 d.middleware d'.middleware heights)
    (ho : o.muted mute = o'.muted mute)
    (hp : Matched heights p p') {r : Round} (h : (d.attempt o).Runs p r.trace r.outcome p₁)
    (hfair : ∀ s ∈ r.trace, mute = true → s.Deaf) :
    ∃ r' p₁', (d'.attempt o').Runs p' r'.trace r'.outcome p₁' ∧ Matched heights p₁ p₁' ∧
      r.SameUnobserved mute r' := by
  obtain ⟨t', ⟨out', p₁'⟩, hruns, ⟨hout, hp₁⟩, hseen⟩ :=
    (attempt_shadows hsame hdeaf haligned ho p p' hp).exists_runs (sees_unobserved mute) h hfair
  exact ⟨⟨t', out', r.truncation⟩, p₁', hruns, hp₁, hseen, hout.symm, rfl⟩

theorem rewritten_unobserved (hsame : d.SameButObservers mute d') (hdeaf : mute = true → d.Deaf)
    (ho : o.muted mute = o'.muted mute) (e : StatusError) :
    d'.wantsAnother o' e = d.wantsAnother o e ∧
      (d.rewritten o e).muted mute = (d'.rewritten o' e).muted mute := by
  unfold wantsAnother rewritten
  rw [hsame.retry]
  cases htest : d.retry.test? with
  | none => exact ⟨rfl, ho⟩
  | some test =>
    obtain ⟨hagain, hnext⟩ := testsAlike hdeaf test htest (.http e) o o' ho
    exact ⟨hagain.symm, hnext⟩

theorem again?_unobserved (hsame : d.SameButObservers mute d') (hdeaf : mute = true → d.Deaf)
    (ho : o.muted mute = o'.muted mute) {r r' : Round} (hr : r.SameUnobserved mute r') :
    (d.again? o r = none → d'.again? o' r' = none) ∧ ∀ e o₁, d.again? o r = some (e, o₁) →
      ∃ o₁', d'.again? o' r' = some (e, o₁') ∧ o₁.muted mute = o₁'.muted mute := by
  have htest := rewritten_unobserved hsame hdeaf ho
  constructor
  · intro h
    unfold again? at h ⊢
    rw [hr.error?_eq]
    cases herror : r.error? with
    | none => rfl
    | some e => simpa [herror, (htest e).1] using h
  · intro e o₁ h
    obtain ⟨herror, hwants, rfl⟩ := again?_eq_some.mp h
    exact ⟨_, again?_eq_some.mpr ⟨hr.error?_eq.trans herror, (htest e).1.trans hwants, rfl⟩,
      (htest e).2⟩

/-- To every round of the one dispatch there is one of the other. -/
theorem Course.unobserved {left : Nat} (h : d.Course left o p rounds p₁)
    (hsame : d.SameButObservers mute d') (hdeaf : mute = true → d.Deaf)
    (haligned : Aligned mute 3 d.middleware d'.middleware heights)
    (ho : o.muted mute = o'.muted mute) (hp : Matched heights p p')
    (hfair : ∀ r ∈ rounds, ∀ s ∈ r.trace, mute = true → s.Deaf) :
    ∃ rounds' p₁', d'.Course left o' p' rounds' p₁' ∧
      List.Forall₂ (Round.SameUnobserved mute) rounds rounds' := by
  -- Options and calls need not be the same, but stay alike from round to round.
  induction h generalizing o' p' with
  | @last left o p r p₁ hattempt hend =>
    obtain ⟨r', p₁', hattempt', -, hr⟩ :=
      attempt_unobserved hsame hdeaf haligned ho hp hattempt (hfair r List.mem_cons_self)
    have hlast := (again?_unobserved hsame hdeaf ho hr).1
    exact ⟨[r'], p₁', .last hattempt' (hend.imp_right hlast), .cons hr .nil⟩
  | @next left o p r p₁ e o₁ rounds p₂ hattempt hagain _ ih =>
    obtain ⟨r', p₁', hattempt', hp₁, hr⟩ :=
      attempt_unobserved hsame hdeaf haligned ho hp hattempt (hfair r List.mem_cons_self)
    obtain ⟨o₁', hagain', ho₁⟩ := (again?_unobserved hsame hdeaf ho hr).2 e o₁ hagain
    obtain ⟨rounds', p₂', hcourse', hrounds⟩ :=
      ih ho₁ hp₁ fun r hmem => hfair r (List.mem_cons_of_mem _ hmem)
    exact ⟨r' :: rounds', p₂', .next hattempt' hagain' hcourse', .cons hr hrounds⟩

/-- The waits are the same. -/
theorem pauses_unobserved (hsame : d.SameButObservers mute d')
    (hrounds : List.Forall₂ (Round.SameUnobserved mute) rounds rounds') (n : Nat) :
    d'.pauses d'.mode n rounds' = d.pauses d.mode n rounds := by
  induction hrounds generalizing n with
  | nil => rfl
  | @cons r r' rounds rounds' hr hrest ih =>
    cases hrest with
    | nil => rfl
    | cons =>
      have hwaiting (e : StatusError) : d'.waiting d'.mode n e = d.waiting d.mode n e := by
        rw [waiting, hsame.retry, hsame.mode, ← waiting]
      simp only [pauses, ih, hr.error?_eq, funext hwaiting]

theorem verdict_unobserved (hsame : d.SameButObservers mute d') {r r' : Round}
    (hr : r.SameUnobserved mute r') :
    d'.verdict r' = d.verdict r := by
  have hfails (e : StatusError) : d'.fails e = d.fails e := by
    unfold fails throws
    rw [hsame.throwing, hsame.retry]
  simp only [verdict, hr.response?_eq, hr.error?_eq, hr.outcome, hfails]

/-! ## Passes -/

/-- By what the dispatch answers a request. -/
def answerer (d : Dispatch) (q : Request) : Answerer :=
  match d.stubs.find? (·.accepts q) with
  | some m => .stub m
  | none => if d.preventsStray then .refusal else .transport

theorem Answered.eq_answerer {q : Request} {by' : Answerer} {t : Trace} {out : Outcome}
    (h : d.Answered q by' t out) : by' = d.answerer q := by
  unfold answerer
  cases h with
  | stub hstubs hskipped hm _ => rw [Matcher.find?_eq_some.mpr ⟨hm, _, _, hstubs, hskipped⟩]
  | refusal hrefuse hprevents => simp [Matcher.find?_eq_none.mpr hrefuse, hprevents]
  | transport hrefuse hprevents _ => simp [Matcher.find?_eq_none.mpr hrefuse, hprevents]

theorem answerer_unobserved (hsame : d.SameButObservers mute d') (hdeaf : mute = true → d.Deaf)
    {q q' : Request} (hq : q.Like mute q') : d'.answerer q' = d.answerer q := by
  have haccepts : ∀ m ∈ d.stubs, m.accepts q' = m.accepts q := fun m hm =>
    hq.lift (P := fun q q' => m.accepts q' = m.accepts q) (fun _ => rfl) fun hmute q q' hq =>
      ((hdeaf hmute).stubs m hm q q' hq).1.symm
  unfold answerer
  rw [hsame.stubs, hsame.preventsStray, List.find?_congr haccepts]

/-- The requests that reached the sending stage are the same, those that the hooks left are, too,
and both are answered by the same stub, or refused, or handed to the transport. -/
structure Pass.SameUnobserved (mute : Bool) (d d' : Dispatch) (pass pass' : Pass) : Prop where
  reached : pass.reached.Like mute pass'.reached
  sent : (pass.sent d).Like mute (pass'.sent d')
  by' : pass'.by' = pass.by'

theorem passes_unobserved (hsame : d.SameButObservers mute d') (hdeaf : mute = true → d.Deaf)
    {passes passes' : List Pass} (hvalid : ∀ pass ∈ passes, pass.Valid d)
    (hvalid' : ∀ pass ∈ passes', pass.Valid d')
    (hreached : List.Forall₂ (fun pass pass' => Request.Like mute pass.reached pass'.reached)
      passes passes') :
    List.Forall₂ (Pass.SameUnobserved mute d d') passes passes' := by
  induction hreached with
  | nil => exact .nil
  | cons hpass _ ih =>
    obtain ⟨hv, hvalid⟩ := List.forall_mem_cons.mp hvalid
    obtain ⟨hv', hvalid'⟩ := List.forall_mem_cons.mp hvalid'
    have hsent := Hook.leave_like hsame.hooks (fun hmute => (hdeaf hmute).hooks) hpass
    refine .cons ⟨hpass, hsent, ?_⟩ (ih hvalid hvalid')
    rw [hv.eq_answerer, hv'.eq_answerer]
    exact answerer_unobserved hsame hdeaf hsent

/-- Of the requests that are remembered, all but the listeners can be seen. -/
theorem remembered_unobserved (mute : Bool) (t : Trace) :
    (t.unobserved mute).remembered = t.remembered.map fun entry =>
      (entry.1, entry.2.muted mute) := by
  have hstep (s : Step) : (s.unobserved? mute).bind Step.remembered? =
      s.remembered?.map fun entry => (entry.1, entry.2.muted mute) := by
    obtain ⟨e, reply⟩ := s
    cases e with
    | note n => cases n <;> rfl
    | _ => rfl
  rw [Trace.remembered, Trace.unobserved, List.filterMap_filterMap, Trace.remembered,
    List.map_filterMap]
  exact congrArg (fun f => t.filterMap f) (funext hstep)

theorem Accounted.unobserved (hsame : d.SameButObservers mute d') (hdeaf : mute = true → d.Deaf)
    (hd : d.Mediated) (hd' : d'.Mediated) {r r' : Round} (hr : r.SameUnobserved mute r')
    {passes passes' : List Pass}
    (h : d.Accounted o r passes) (h' : d'.Accounted o' r' passes') :
    List.Forall₂ (Pass.SameUnobserved mute d d') passes passes' := by
  refine passes_unobserved hsame hdeaf h.valid h'.valid ?_
  have hremembered : r.trace.remembered.map (fun entry => (entry.1, entry.2.muted mute)) =
      r'.trace.remembered.map fun entry => (entry.1, entry.2.muted mute) := by
    rw [← remembered_unobserved, ← remembered_unobserved, hr.trace]
  rw [h.remembered_eq hd, h'.remembered_eq hd', List.map_map, List.map_map, ← List.forall₂_eq_eq_eq,
    List.forall₂_map_left_iff, List.forall₂_map_right_iff] at hremembered
  exact hremembered.imp fun pass pass' hpass => (Prod.mk.inj hpass).2

/-! ## Runs -/

theorem getElem?_unobserved (hrounds : List.Forall₂ (Round.SameUnobserved mute) rounds rounds')
    {i : Nat} {r r' : Round} (hr : rounds[i]? = some r) (hr' : rounds'[i]? = some r') :
    r.SameUnobserved mute r' := by
  obtain ⟨hi, rfl⟩ := List.getElem?_eq_some_iff.mp hr
  obtain ⟨hi', rfl⟩ := List.getElem?_eq_some_iff.mp hr'
  exact hrounds.get hi hi'

theorem getLast?_unobserved (hrounds : List.Forall₂ (Round.SameUnobserved mute) rounds rounds')
    {r : Round} (hr : rounds.getLast? = some r) :
    ∃ r', rounds'.getLast? = some r' ∧ r.SameUnobserved mute r' := by
  rw [← List.head?_reverse] at hr ⊢
  have hreverse := List.forall₂_reverse_iff.mpr hrounds
  generalize rounds.reverse = l at hr hreverse
  generalize rounds'.reverse = l' at hreverse
  cases hreverse with
  | nil => simp at hr
  | cons hlast _ =>
    obtain rfl := Option.some.inj hr
    exact ⟨_, rfl, hlast⟩

/-- Observers make no difference to a dispatch whose middleware gets at the stages below by calling
them, and treats alike what is alike. Whatever is replied, each run of the dispatch goes with a run
of the same dispatch among other observers that comes to the same. It consists of as many attempts,
with the same waits between them; in each attempt nothing that is not observed differs, neither what
is taken from queues nor what the transport does, and the requests that pass are the same and are
answered by the same. In a world both end alike, and what they leave behind is the same but for what
observers are told and what recorders keep. If there may be another listener of the statistics,
nobody must look for it. -/
theorem run_unobserved (mute : Bool) (d d' : Dispatch) (hmediated : d.Mediated)
    (huniform : ∀ stage ∈ d.middleware, stage.Uniform mute) (hsame : d.SameButObservers mute d')
    (hdeaf : mute = true → d.Deaf) :
    (∀ t out, d.run.Runs t out → (mute = true → ∀ s ∈ t, s.Deaf) →
      ∃ accounts accounts' : List (Round × List Pass),
      t = d.woven (accounts.map (·.1)) (d.pauses d.mode 1 (accounts.map (·.1))) ∧
      d'.run.Runs (d'.woven (accounts'.map (·.1)) (d.pauses d.mode 1 (accounts.map (·.1)))) out ∧
      accounts'.length = accounts.length ∧
      ∀ i r passes r' passes', accounts[i]? = some (r, passes) →
        accounts'[i]? = some (r', passes') →
        d.Accounted (d.optionsAfter d.options (accounts.map (·.1)) i) r passes ∧
        d'.Accounted (d'.optionsAfter d'.options (accounts'.map (·.1)) i) r' passes' ∧
        r.SameUnobserved mute r' ∧ List.Forall₂ (Pass.SameUnobserved mute d d') passes passes') ∧
    ∀ w : World, (mute = true → w.Deaf) → (w.run d'.run).1 = (w.run d.run).1 ∧
      (w.run d'.run).2.unobserved mute = (w.run d.run).2.unobserved mute := by
  -- Below the middleware there are three stages, whoever observes.
  obtain ⟨heights, haligned⟩ := exists_aligned 3 hsame.middleware huniform
  refine ⟨fun t out h hfair => ?_, fun w hw => ?_⟩
  · obtain ⟨rounds, r, p₁, hcourse, rfl, hlast, rfl⟩ := run_runs.mp h
    have hstart : Matched heights Progress.start Progress.start := fun _ _ => rfl
    obtain ⟨rounds', p₁', hcourse', hrounds⟩ :=
      hcourse.unobserved hsame hdeaf haligned hsame.options hstart
      fun r hr s hs hmute => hfair hmute s (mem_woven hr hs)
    have hmediated' := hsame.mediated hmediated
    obtain ⟨accounts, rfl, haccounts⟩ := (course_iff.mp hcourse).1.accounted hmediated
    obtain ⟨accounts', rfl, haccounts'⟩ := (course_iff.mp hcourse').1.accounted hmediated'
    have hpauses := pauses_unobserved hsame hrounds 1
    refine ⟨accounts, accounts', rfl, ?_, by simpa using hrounds.length_eq.symm, ?_⟩
    · obtain ⟨r', hlast', hr⟩ := getLast?_unobserved hrounds hlast
      refine run_runs.mpr ⟨_, r', p₁', ?_, by rw [hpauses], hlast',
        (verdict_unobserved hsame hr).symm⟩
      rw [hsame.retry]
      exact hcourse'
    · intro i r passes r' passes' hi hi'
      have haccount := haccounts i r passes hi
      have haccount' := haccounts' i r' passes' hi'
      have hr : r.SameUnobserved mute r' := by
        refine getElem?_unobserved hrounds (i := i) ?_ ?_
        · rw [List.getElem?_map, hi]; rfl
        · rw [List.getElem?_map, hi']; rfl
      exact ⟨haccount, haccount', hr,
        haccount.unobserved hsame hdeaf hmediated hmediated' hr haccount'⟩
  · obtain ⟨hout, -, hworld⟩ :=
      (run_shadows_unobserved hsame hdeaf haligned).run (covers_unobserved mute) ⟨hw, .refl w⟩
    exact ⟨hout.symm, (unobserved_eq_of_alike hworld).symm⟩

/-- A stage that waits and asks once more if the first call fails. -/
def insisting (ms : Nat) : Stage := Service.above fun _ inner q => do
  match ← inner q with
  | .ok r => pure (.ok r)
  | .error _ =>
    Run.effect (.sleep ms .async)
    inner q

theorem insisting_mediates (ms : Nat) : Stage.Mediates (·.isAside = true) (insisting ms) := by
  refine fun inner q => .bind (.call q) fun outcome => ?_
  cases outcome with
  | ok r => exact .pure _
  | error f => exact .bind (.effect rfl) fun _ => .call q

theorem insisting_uniform (ms : Nat) : Stage.Uniform mute (insisting ms) where
  height := fun _ => rfl
  shadows := by
    intro kept inner inner' _ h q q' hq
    refine .bind (h q q' hq) ?_
    rintro outcome _ rfl
    cases outcome with
    | ok r => exact .pure rfl
    | error f => exact .bind (.sleep ms .async) fun _ _ _ => h q q' hq

/-- A dispatch through middleware of two kinds and a stage that logs. -/
def beheld : Dispatch :=
  { watched with
    middleware :=
      [loggingStage .outcomes .shared, insisting 10, (Middleware.tracing "outer").stage] }

/-- The dispatch that is beheld, by others. -/
def overseen : Dispatch :=
  { beheld with
    options := { Options.empty with onStats := some "stats" }
    middleware := [insisting 10, (Middleware.tracing "outer").stage, loggingStage .requests .shared,
      loggingStage .outcomes .shared]
    hooks := [⟨some "seen", fun _ => none⟩]
    recorders := [.history, .external]
    environment := { beheld.environment with announces := false } }

theorem mediated_beheld : beheld.Mediated where
  middleware := by
    simp only [beheld, List.forall_mem_cons]
    refine ⟨?_, insisting_mediates 10, Middleware.stage_mediates (fun _ => rfl) _,
      List.forall_mem_nil _⟩
    refine loggingStage_mediates (fun _ => ?_) ?_ _ _ <;> rfl
  transport := Script.transport_confined (fun _ => rfl) _

theorem uniform_beheld : ∀ stage ∈ beheld.middleware, stage.Uniform mute := by
  simp only [beheld, List.forall_mem_cons]
  refine ⟨loggingStage_uniform _ _, insisting_uniform 10, ?_, List.forall_mem_nil _⟩
  exact Middleware.stage_uniform fun _ => Middleware.tracing_deaf "outer"

theorem deaf_beheld : beheld.Deaf where
  hooks := List.forall_mem_nil _
  stubs := List.forall_mem_nil _
  tests := by
    intro test htest
    cases htest
  transport := Script.transport_deaf _

theorem run_unobserved_overseen :
    (beheld.Mediated ∧ (∀ stage ∈ beheld.middleware, stage.Uniform true) ∧
      beheld.SameButObservers true overseen ∧
      beheld.Deaf) ∧
    (∀ t out, beheld.run.Runs t out → (∀ s ∈ t, s.Deaf) → ∃ t', overseen.run.Runs t' out) ∧
    ((World.initial .default true .unreachable).run overseen.run).2.delays =
      ((World.initial .default true .unreachable).run beheld.run).2.delays := by
  have hlogs (detail : LogDetail) : Stage.Logs (loggingStage detail .shared) :=
    ⟨detail, .shared, rfl⟩
  have hsame : beheld.SameButObservers true overseen :=
    { method := rfl
      url := rfl
      options := rfl
      middleware := .left (hlogs _) (.keep (.keep (.right (hlogs _) (.right (hlogs _) .nil))))
      hooks := .right (fun _ => rfl) .nil
      stubs := rfl
      preventsStray := rfl
      retry := rfl
      throwing := rfl
      mode := rfl
      draft := rfl
      transport := rfl }
  obtain ⟨hruns, hworld⟩ :=
    run_unobserved true beheld overseen mediated_beheld uniform_beheld hsame fun _ => deaf_beheld
  refine ⟨⟨mediated_beheld, uniform_beheld, hsame, deaf_beheld⟩, fun t out h hfair => ?_, ?_⟩
  · obtain ⟨accounts, accounts', -, h', -⟩ := hruns t out h fun _ => hfair
    exact ⟨_, h'⟩
  · have hdeaf : (World.initial .default true .unreachable).Deaf := List.forall_mem_nil _
    have hseen := (hworld (.initial .default true .unreachable) fun _ => hdeaf).2
    rw [← World.delays_unobserved true, hseen, World.delays_unobserved]

/-- A dispatch whose stub answers with another status if somebody listens to the statistics. -/
def curious : Dispatch :=
  { watched with
    middleware := []
    stubs :=
      [.any (.canned (.callback fun q => .ofStatus
        (if q.options.onStats.isNone then 200 else 204)))] }

/-- A stub may look for the listener, and then it does make a difference. -/
theorem not_run_unobserved : ¬ ∀ (d d' : Dispatch) (w : World), d.Mediated →
    (∀ stage ∈ d.middleware, ∀ mute, stage.Uniform mute) → d.SameButObservers true d' →
      (w.run d'.run).1 = (w.run d.run).1 := by
  intro h
  let listened : Dispatch :=
    { curious with options := { Options.empty with onStats := some "stats" } }
  let w : World := .initial .default true .unreachable
  have hmediated : curious.Mediated := ⟨List.forall_mem_nil _, mediated_beheld.transport⟩
  have hsame : curious.SameButObservers true listened :=
    { method := rfl
      url := rfl
      options := rfl
      middleware := .nil
      hooks := .nil
      stubs := rfl
      preventsStray := rfl
      retry := rfl
      throwing := rfl
      mode := rfl
      draft := rfl
      transport := rfl }
  have hstatus : (w.run curious.run).1.toOption.map (·.status) = some 200 := by decide +kernel
  have hstatus' : (w.run listened.run).1.toOption.map (·.status) = some 204 := by decide +kernel
  rw [h curious listened w hmediated (List.forall_mem_nil _) hsame, hstatus] at hstatus'
  cases hstatus'

end Dispatch

end Courier
