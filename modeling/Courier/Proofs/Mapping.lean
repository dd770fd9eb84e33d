import Courier.Fake
import Courier.Proofs.Snapshots
import Courier.Proofs.Stacking
/-
Middleware that rewrites requests on their way in and responses on their way out, in
one list and in any order. Requests cross the list from its front to its back and
responses from its back to its front, so the functions on requests are applied in the
order of registration and those on responses in the reverse one (`compose_maps_runs`).
Behind the list come the hooks, in their order, and only then the recorders, the stubs
and the transport. A failure is handed out as it is, past all functions on responses.

What is registered with a client comes before what a draft adds
(`Draft.dispatch_maps`).
-/
namespace Courier

/-! ## Functions that tell -/

/-- A function that rewrites what it gets, and what it tells when it is called. -/
structure Mapper (α : Type) where
  notices : α → List Notice
  map : α → α

namespace Mapper

variable {α : Type} {fs : List (Mapper α)} {f : Mapper α} {a : α}

/-- What is left by functions that are called one after another. -/
def through (fs : List (Mapper α)) (a : α) : α := fs.foldl (fun a f => f.map a) a

/-- What a function tells when it is called. -/
def telling (f : Mapper α) (a : α) : Trace := (f.notices a).map fun n => ⟨.note n, ()⟩

/-- What is told by functions that are called one after another. -/
def tellings : List (Mapper α) → α → Trace
  | [], _ => []
  | f :: fs, a => f.telling a ++ tellings fs (f.map a)

@[simp] theorem through_nil : through [] a = a := rfl

@[simp] theorem through_cons : through (f :: fs) a = through fs (f.map a) := rfl

theorem through_concat : through (fs ++ [f]) a = f.map (through fs a) := by simp [through]

theorem tellings_concat : tellings (fs ++ [f]) a = tellings fs a ++ f.telling (through fs a) := by
  induction fs generalizing a with
  | nil => simp [tellings]
  | cons f' fs ih => simp [tellings, ih]

/-- What functions on responses make of an outcome. A failure stays as it is. -/
def throughOutcome (gs : List (Mapper Response)) (out : Outcome) : Outcome := out.map (through gs)

/-- What functions on responses tell of an outcome. None is called for a failure. -/
def tellingsOutcome (gs : List (Mapper Response)) : Outcome → Trace
  | .ok r => tellings gs r
  | .error _ => []

theorem throughOutcome_concat {gs : List (Mapper Response)} {g : Mapper Response} (out : Outcome) :
    throughOutcome (gs ++ [g]) out = throughOutcome [g] (throughOutcome gs out) := by
  cases out with
  | ok r => exact congrArg Except.ok through_concat
  | error f => rfl

theorem tellingsOutcome_concat {gs : List (Mapper Response)} {g : Mapper Response} (out : Outcome) :
    tellingsOutcome (gs ++ [g]) out = tellingsOutcome gs out ++ tellingsOutcome [g]
      (throughOutcome gs out) := by
  cases out with
  | ok r =>
    show tellings (gs ++ [g]) r = tellings gs r ++ tellings [g] (through gs r)
    rw [tellings_concat]
    simp [tellings]
  | error f => rfl

end Mapper

/-! ## Stages that rewrite -/

/-- The plan after some notices. -/
def Plan.telling (notices : List Notice) (rest : Plan) : Plan := notices.foldr .note rest

/-- A function on requests or one on responses. -/
inductive Mapping
  | request (f : Mapper Request)
  | response (g : Mapper Response)

namespace Mapping

/-- Rewrites the request before the call of the service inside, or the response after it. -/
def middleware : Mapping → Middleware
  | request f => fun _ q => Plan.telling (f.notices q) (.call (f.map q) .answer)
  | response g => fun _ q => .call q fun
    | .ok r => Plan.telling (g.notices r) (.answer (.ok (g.map r)))
    | .error f => .answer (.error f)

def stage (m : Mapping) : Stage := m.middleware.stage

/-- The functions on requests, in order. -/
def requests (maps : List Mapping) : List (Mapper Request) :=
  maps.filterMap fun | request f => some f | response _ => none

/-- The functions on responses, in order. -/
def responses (maps : List Mapping) : List (Mapper Response) :=
  maps.filterMap fun | request _ => none | response g => some g

/-- Functions that tell nothing are those of the middleware that rewrites requests. -/
theorem middleware_request_silent (f : Request → Request) :
    (request ⟨fun _ => [], f⟩).middleware = Middleware.mapRequest f := rfl

theorem middleware_response_silent (g : Response → Response) :
    (response ⟨fun _ => [], g⟩).middleware = Middleware.mapResponse g := by
  funext earlier q
  refine congrArg (Plan.call q) (funext fun outcome => ?_)
  cases outcome <;> rfl

end Mapping

/-! ## Runs -/

variable {inner : Service} {p p' : Progress} {t : Trace} {q : Request} {out : Outcome}

theorem Plan.telling_runs {notices : List Notice} {rest : Plan} :
    ((Plan.telling notices rest).run inner.call).Runs p t out p' ↔
      ∃ t', (rest.run inner.call).Runs p t' out p' ∧
        t = notices.map (fun n => ⟨.note n, ()⟩) ++ t' := by
  induction notices generalizing p t with
  | nil => simp [telling]
  | cons n notices ih =>
    change Run.Runs (Run.note n >>= fun _ => (Plan.telling notices rest).run inner.call)
      p t out p' ↔ _
    simp only [Run.runs_bind, Run.runs_note, ih]
    constructor
    · intro h
      obtain ⟨t₁, u, p₁, t₂, rfl, ⟨rfl, rfl⟩, t', hrest, rfl⟩ := h
      exact ⟨t', hrest, rfl⟩
    · intro h
      obtain ⟨t', hrest, rfl⟩ := h
      exact ⟨[⟨.note n, ()⟩], (), p, _, rfl, ⟨rfl, rfl⟩, t', hrest, rfl⟩

namespace Mapping

theorem stage_call (m : Mapping) :
    (m.stage inner).call q = Run.countCall (inner.height + 1) >>= fun earlier =>
    (m.middleware earlier q).run inner.call := rfl

theorem request_runs {f : Mapper Request} : (((request f).stage inner).call q).Runs p t out p' ↔
    ∃ t', (inner.call (f.map q)).Runs (p.counted (inner.height + 1)) t' out p' ∧
      t = f.telling q ++ t' := by
  have hcall : Plan.run inner.call (.call (f.map q) .answer) = inner.call (f.map q) := bind_pure _
  rw [stage_call, Run.Runs, Run.countCall_bind]
  change (Plan.run inner.call (Plan.telling (f.notices q) (.call (f.map q) .answer))).Runs
    _ t out p' ↔ _
  rw [Plan.telling_runs, hcall]
  rfl

theorem response_runs {g : Mapper Response} : (((response g).stage inner).call q).Runs p t out p' ↔
    ∃ t' out', (inner.call q).Runs (p.counted (inner.height + 1)) t' out' p' ∧
      t = t' ++ Mapper.tellingsOutcome [g] out' ∧ out = Mapper.throughOutcome [g] out' := by
  rw [stage_call, Run.Runs, Run.countCall_bind]
  change Run.Runs (inner.call q >>= fun outcome => _) _ t out p' ↔ _
  rw [Run.runs_bind]
  have hresume {p₁ : Progress} {t₂ : Trace} (out' : Outcome) :
      Run.Runs (Plan.run inner.call (match out' with
        | .ok r => Plan.telling (g.notices r) (.answer (.ok (g.map r)))
        | .error f => .answer (.error f))) p₁ t₂ out p' ↔
      t₂ = Mapper.tellingsOutcome [g] out' ∧ out = Mapper.throughOutcome [g] out' ∧ p' = p₁ := by
    have hanswer {t : Trace} (out' : Outcome) :
        Run.Runs (Plan.run inner.call (.answer out')) p₁ t out p' ↔
        t = [] ∧ out = out' ∧ p' = p₁ := Run.runs_pure
    cases out' with
    | ok r =>
      have htelling : Mapper.tellingsOutcome [g] (.ok r) = g.telling r ++ [] := rfl
      rw [Plan.telling_runs, htelling]
      simp only [hanswer]
      constructor
      · intro h
        obtain ⟨t', ⟨rfl, rfl, rfl⟩, rfl⟩ := h
        exact ⟨rfl, rfl, rfl⟩
      · intro h
        obtain ⟨rfl, rfl, rfl⟩ := h
        exact ⟨[], ⟨rfl, rfl, rfl⟩, rfl⟩
    | error f => exact hanswer (.error f)
  constructor
  · intro h
    obtain ⟨t₁, out', p₁, t₂, rfl, hcall, hrest⟩ := h
    obtain ⟨rfl, rfl, rfl⟩ := (hresume out').mp hrest
    exact ⟨t₁, out', hcall, rfl, rfl⟩
  · intro h
    obtain ⟨t', out', hcall, rfl, rfl⟩ := h
    exact ⟨t', out', p', _, rfl, hcall, (hresume out').mpr ⟨rfl, rfl, rfl⟩⟩

end Mapping

/-- The services at so many heights above a height were called once more, the highest one first. -/
def Progress.countedDown (p : Progress) (height : Nat) : Nat → Progress
  | 0 => p
  | n + 1 => (p.counted (height + n + 1)).countedDown height n

theorem Mapping.height_compose (maps : List Mapping) (inner : Service) :
    (compose (maps.map Mapping.stage) inner).height = inner.height + maps.length := by
  induction maps with
  | nil => rfl
  | cons m maps ih => exact congrArg (· + 1) ih

/-- The service inside gets the request that all functions on requests have made of it, in their
order, and what it ends with goes through the functions on responses, in the reverse order. -/
theorem compose_maps_runs {maps : List Mapping} :
    ((compose (maps.map Mapping.stage) inner).call q).Runs p t out p' ↔
    ∃ t' out', (inner.call (Mapper.through (Mapping.requests maps) q)).Runs
      (p.countedDown inner.height maps.length) t' out' p' ∧
      t = Mapper.tellings (Mapping.requests maps) q ++ t' ++
        Mapper.tellingsOutcome (Mapping.responses maps).reverse out' ∧
      out = Mapper.throughOutcome (Mapping.responses maps).reverse out' := by
  induction maps generalizing p q t out with
  | nil =>
    have hout (out' : Outcome) : Mapper.throughOutcome [] out' = out' := by cases out' <;> rfl
    have htold (out' : Outcome) : Mapper.tellingsOutcome [] out' = [] := by cases out' <;> rfl
    constructor
    · intro h
      refine ⟨t, out, h, ?_, (hout out).symm⟩
      exact ((congrArg (t ++ ·) (htold out)).trans (List.append_nil t)).symm
    · intro h
      obtain ⟨t', out', hcall, rfl, rfl⟩ := h
      rw [show (Mapping.responses []).reverse = [] from rfl, hout, htold, List.append_nil]
      exact hcall
  | cons m maps ih =>
    cases m with
    | request f =>
      change (((Mapping.request f).stage (compose (maps.map Mapping.stage) inner)).call q).Runs
        p t out p' ↔ _
      simp only [Mapping.request_runs, ih, Mapping.height_compose]
      constructor
      · intro h
        obtain ⟨t₁, ⟨t', out', hcall, rfl, rfl⟩, rfl⟩ := h
        exact ⟨t', out', hcall, by simp [Mapping.requests, Mapping.responses, Mapper.tellings], rfl⟩
      · intro h
        obtain ⟨t', out', hcall, rfl, rfl⟩ := h
        exact ⟨_, ⟨t', out', hcall, rfl, rfl⟩, by simp [Mapping.requests, Mapping.responses,
          Mapper.tellings]⟩
    | response g =>
      have hreverse : (Mapping.responses (.response g :: maps)).reverse =
          (Mapping.responses maps).reverse ++ [g] :=
        List.reverse_cons
      change (((Mapping.response g).stage (compose (maps.map Mapping.stage) inner)).call q).Runs
        p t out p' ↔ _
      simp only [Mapping.response_runs, ih, Mapping.height_compose, hreverse,
        Mapper.tellingsOutcome_concat, Mapper.throughOutcome_concat]
      constructor
      · intro h
        obtain ⟨t₁, out₁, ⟨t', out', hcall, rfl, rfl⟩, rfl, rfl⟩ := h
        exact ⟨t', out', hcall, by simp [Mapping.requests], rfl⟩
      · intro h
        obtain ⟨t', out', hcall, rfl, rfl⟩ := h
        exact ⟨_, _, ⟨t', out', hcall, rfl, rfl⟩, by simp [Mapping.requests], rfl⟩

/-! ## Attempts -/

namespace Dispatch

variable {d : Dispatch} {o : Options} {maps : List Mapping}

/-- `d.Mapped maps o r`: the attempt of the round, made from the options `o`, builds a request,
which goes through the functions on requests and passes the stages below. The response that it is
answered with goes through the functions on responses, last one first; a failure calls none of them
and stays as it is. -/
inductive Mapped (d : Dispatch) (maps : List Mapping) (o : Options) (r : Round) : Prop
  | unbuilt {boundary f} : Request.build boundary d.method d.url o = .error f →
      r.trace = [⟨.freshBoundary, boundary⟩] → r.outcome = .error f → Mapped d maps o r
  | answered {boundary q response} {pass : Pass} : Request.build boundary d.method d.url o = .ok q →
      pass.Valid d → pass.reached = Mapper.through (Mapping.requests maps) q →
        pass.outcome = .ok response →
      r.trace = ⟨.freshBoundary, boundary⟩ ::
        (Mapper.tellings (Mapping.requests maps) q ++ pass.trace d ++
          Mapper.tellings (Mapping.responses maps).reverse response ++
          d.announcing q (some pass.reached)
            (.ok (Mapper.through (Mapping.responses maps).reverse response))) →
      r.outcome = settled (.ok (Mapper.through (Mapping.responses maps).reverse response)) →
        Mapped d maps o r
  | failed {boundary q f} {pass : Pass} : Request.build boundary d.method d.url o = .ok q →
      pass.Valid d → pass.reached = Mapper.through (Mapping.requests maps) q →
        pass.outcome = .error f →
      r.trace = ⟨.freshBoundary, boundary⟩ ::
        (Mapper.tellings (Mapping.requests maps) q ++ pass.trace d ++
          d.announcing q (some pass.reached) (.error f)) →
      r.outcome = .error f → Mapped d maps o r

theorem attempt_mapped (hd : d.middleware = maps.map Mapping.stage) {r : Round}
    (h : (d.attempt o).Runs p r.trace r.outcome p') : d.Mapped maps o r := by
  obtain ⟨boundary, t', ht, ⟨f, hbuild, rfl, hout, -⟩ |
      ⟨q, t₁, outcome, p₁, hbuild, hcall, rfl, hout, -⟩⟩ :=
    attempt_runs.mp h
  · exact .unbuilt hbuild ht hout
  · rw [service_eq, hd] at hcall
    obtain ⟨t₂, out, hsending, rfl, rfl⟩ := compose_maps_runs.mp hcall
    obtain ⟨pass, hreached, rfl, hvalid, rfl, rfl⟩ := sending_call_runs.mp hsending
    rw [← hreached] at ht
    cases hpass : pass.outcome with
    | ok response =>
      rw [hpass] at ht hout
      exact .answered hbuild hvalid hreached hpass ht hout
    | error f =>
      rw [hpass] at ht hout
      refine .failed hbuild hvalid hreached hpass ?_ hout
      rw [ht, Mapper.tellingsOutcome, List.append_nil]
      rfl

/-- Every attempt of a run is made so. -/
theorem run_mapped (hd : d.middleware = maps.map Mapping.stage) (h : d.run.Runs t out) :
    ∃ rounds p',
    d.Attempted d.options Progress.start rounds p' ∧ t = d.woven rounds (d.pauses d.mode 1 rounds) ∧
      ∀ i r, rounds[i]? = some r → d.Mapped maps (d.optionsAfter d.options rounds i) r := by
  obtain ⟨rounds, -, p', hcourse, ht, -⟩ := run_runs.mp h
  have hattempted := (course_iff.mp hcourse).1
  refine ⟨rounds, p', hattempted, ht, fun i r hr => ?_⟩
  obtain ⟨p₁, p₂, hattempt⟩ := hattempted.attempt_runs hr
  exact attempt_mapped hd hattempt

end Dispatch

/-! ## Registering -/

/-- The stage that a call registers for all requests. -/
def Client.Call.stage? : Call → Option Stage
  | globalStage stage => some stage
  | _ => none

theorem Client.middleware_calls (calls : List Client.Call) (c : Client) :
    (calls.foldl Client.call c).middleware = c.middleware ++ calls.filterMap Call.stage? := by
  induction calls generalizing c with
  | nil => simp
  | cons call calls ih =>
    have hfirst : (c.call call).middleware = c.middleware ++ call.stage?.toList := by
      cases call with
      | globalStage stage => rfl
      | _ => exact (List.append_nil _).symm
    rw [List.foldl_cons, ih, hfirst, List.append_assoc, List.filterMap_cons]
    cases call.stage? <;> rfl

namespace Draft

/-- What changes a draft: a stage or a hook is added, or neither is touched. -/
inductive Change
  | stage (added : Stage)
  | hook (added : Hook)
  | other (change : Draft → Draft)
      (keeps : ∀ d, (change d).middleware = d.middleware ∧ (change d).hooks = d.hooks)

def Change.stage? : Change → Option Stage
  | stage added => some added
  | _ => none

def Change.hook? : Change → Option Hook
  | hook added => some added
  | _ => none

/-- The draft after a change. -/
def changed (d : Draft) : Change → Draft
  | .stage added => d.withStage added
  | .hook added => d.beforeSending added
  | .other change _ => change d

/-- The draft after several changes. -/
def changedAll (d : Draft) (changes : List Change) : Draft := changes.foldl changed d

theorem changedAll_stages (d : Draft) (changes : List Change) :
    (d.changedAll changes).middleware = d.middleware ++ changes.filterMap Change.stage? ∧
      (d.changedAll changes).hooks = d.hooks ++ changes.filterMap Change.hook? := by
  unfold changedAll
  induction changes generalizing d with
  | nil => simp
  | cons change changes ih =>
    have hfirst : (d.changed change).middleware = d.middleware ++ change.stage?.toList ∧
        (d.changed change).hooks = d.hooks ++ change.hook?.toList := by
      cases change with
      | stage added => exact ⟨rfl, (List.append_nil _).symm⟩
      | hook added => exact ⟨(List.append_nil _).symm, rfl⟩
      | other change keeps =>
        simp only [Change.stage?, Change.hook?, Option.toList_none, List.append_nil]
        exact keeps d
    obtain ⟨hstages, hhooks⟩ := ih (d.changed change)
    rw [List.foldl_cons, hstages, hhooks, hfirst.1, hfirst.2, List.append_assoc, List.append_assoc,
      List.filterMap_cons, List.filterMap_cons]
    constructor
    · cases change.stage? <;> rfl
    · cases change.hook? <;> rfl

/-- Functions on requests and responses that are registered with a client come before those of a
draft. In every attempt the request goes through those on requests in the order of registration,
then through the hooks, each getting what the one before left; the recorders, the stubs and the
transport get what is left in the end. The response goes through those on responses in the reverse
order, and a failure through none. -/
theorem dispatch_maps {environment : Environment} {hasRecorder : Bool} {calls : List Client.Call}
    {changes : List Change} {globals own : List Mapping}
    (hglobals : calls.filterMap Client.Call.stage? = globals.map Mapping.stage)
    (hown : changes.filterMap Change.stage? = own.map Mapping.stage) (m : Method) (url : String)
    (o : Options) :
    let d :=
      ((calls.foldl Client.call (.new environment hasRecorder)).request.1.changedAll
        changes).dispatch m url o
    (∀ oracle past, d.run.Runs (d.run.play oracle past).1 (d.run.play oracle past).2) ∧
      (∀ t out, d.run.Runs t out → ∃ rounds p', d.Attempted d.options Progress.start rounds p' ∧
        t = d.woven rounds (d.pauses d.mode 1 rounds) ∧
        ∀ i r, rounds[i]? = some r →
          d.Mapped (globals ++ own) (d.optionsAfter d.options rounds i) r) ∧
      (∀ pass : Dispatch.Pass, pass.sent d =
        (changes.filterMap Change.hook?).foldl (fun q hook => (hook.replace q).getD q)
          pass.reached) ∧
      ∀ outer rest inner, compose (outer ++ rest) inner = compose outer (compose rest inner) := by
  intro d
  obtain ⟨hstages, hhooks⟩ :=
    changedAll_stages (calls.foldl Client.call (.new environment hasRecorder)).request.1 changes
  have hmiddleware : d.middleware = (globals ++ own).map Mapping.stage := by
    calc d.middleware
        = (calls.foldl Client.call (.new environment hasRecorder)).middleware ++
          changes.filterMap Change.stage? := hstages
      _ = globals.map Mapping.stage ++ own.map Mapping.stage := by
          rw [Client.middleware_calls, hglobals, hown]
          rfl
      _ = (globals ++ own).map Mapping.stage := List.map_append.symm
  refine ⟨fun oracle past => Act.runs_play oracle d.run past,
    fun t out h => Dispatch.run_mapped hmiddleware h, ?_,
    fun outer rest inner => compose_append outer rest inner⟩
  intro pass
  have hdhooks : d.hooks = changes.filterMap Change.hook? := hhooks
  rw [Dispatch.Pass.sent, hdhooks]
  rfl

/-- Adds a mark to a header of the request. -/
def marking (mark : String) : Mapping :=
  .request ⟨fun q => [.entered mark q.url], Request.extendingHeader "x-trail" mark⟩

/-- Adds a value to a header of the response. -/
def signing (mark : String) : Mapping :=
  .response ⟨fun r => [.left mark (.ok r)], fun r => r.withHeader "x-signed" mark⟩

/-- The transport answers with the marks that it gets. -/
theorem dispatch_maps_marks :
    let environment : Environment := ⟨fun q => pure (.ok (Fake.header "x-trail" q)), true⟩
    let calls : List Client.Call :=
      [.globalStage (marking "a").stage, .globalStage (signing "b").stage]
    let changes : List Change :=
      [.stage (signing "c").stage, .hook ⟨none, fun q => some (q.extendingHeader "x-trail" "e")⟩,
      .stage (marking "d").stage, .hook ⟨some "idle", fun _ => none⟩]
    let d :=
      ((calls.foldl Client.call (.new environment false)).request.1.changedAll changes).dispatch
        .get
      "https://api.test/" .empty
    calls.filterMap Client.Call.stage? = [marking "a", signing "b"].map Mapping.stage ∧
      changes.filterMap Change.stage? = [signing "c", marking "d"].map Mapping.stage ∧
      ∃ t out rounds, d.run.Runs t out ∧
        (∀ i r, rounds[i]? = some r →
          d.Mapped [marking "a", signing "b", signing "c", marking "d"]
            (d.optionsAfter d.options rounds i) r) ∧
        out.toOption.map (fun r => (r.text, r.headers.getAll "x-signed")) =
          some ("ade", [Utf8.encode "c", Utf8.encode "b"]) := by
  intro environment calls changes d
  have hglobals : calls.filterMap Client.Call.stage? =
      [marking "a", signing "b"].map Mapping.stage := rfl
  have hown : changes.filterMap Change.stage? = [signing "c", marking "d"].map Mapping.stage := rfl
  obtain ⟨hends, hruns, -⟩ := @dispatch_maps environment false calls changes _ _ hglobals hown .get
    "https://api.test/" .empty
  have hrun := hends (fun _ e => ((World.initial .default true .unreachable).answer e).1) []
  obtain ⟨rounds, p', -, -, hmapped⟩ := hruns _ _ hrun
  refine ⟨hglobals, hown, _, _, rounds, hrun, hmapped, ?_⟩
  decide +kernel

end Draft

end Courier
