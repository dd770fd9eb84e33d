import Courier.Proofs.Answering
import Courier.Proofs.Endings
import Courier.Proofs.Maps
/-
Which responses of a dispatch carry the cookies that they set. An attempt
attaches cookies to a response that its stages give back, and to no other: a
response inside an error that a stage raised comes out of the attempt as it is,
is judged like any response, and may be what the dispatch ends with.

- `Dispatch.run_hands`: the response that a dispatch ends with, by itself or
  inside an error, is what the stages handed over in the last attempt, in one
  of these two ways; and if no middleware raises (`Stage.Keeps Unraised`), it
  carries its cookies, whatever the middleware does otherwise.
- `Dispatch.not_run_carries`: with middleware that raises it does not.

The stages of every dispatch and the bundled transport raise nothing, and
neither does middleware that rewrites requests or responses, or that logs or
traces them.
-/
namespace Courier

/-! ## Carried cookies -/

namespace Response

/-- The response with the cookies that it sets attached. -/
def withOwnCookies (r : Response) : Response := r.attachCookies (Cookie.ofHeaders r.headers)

/-- Every cookie that the response sets is found on it. -/
def CarriesCookies (r : Response) : Prop :=
  ∀ name value, (Cookie.ofHeaders r.headers).get? name = some value → r.cookie? name = some value

theorem carriesCookies_withOwnCookies (r : Response) : r.withOwnCookies.CarriesCookies := by
  intro name value h
  have hsets : (Cookie.ofHeaders r.headers).get? name = some value := h
  rw [cookie?, withOwnCookies, attachCookies, SortedMap.get?_insertAll,
    SortedMap.last?_entries, hsets]
  rfl

end Response

/-! ## What is not raised -/

/-- The result is no failed response that was raised. -/
def Unraised {α : Type} (result : Except Failure α) : Prop := ∀ e, result ≠ .error (.http e)

namespace Unraised

variable {α β : Type}

theorem ok (a : α) : Unraised (.ok a : Except Failure α) := fun _ h => nomatch h

theorem error {f : Failure} (h : ∀ e, f ≠ .http e) : Unraised (.error f : Except Failure α) :=
  fun e he => h e (Except.error.inj he)

theorem bind {x : Except Failure α} {f : α → Except Failure β} (h : Unraised x)
    (hf : ∀ a, Unraised (f a)) :
    Unraised (x >>= f) := by
  cases x with
  | ok a => exact hf a
  | error failure => exact .error fun e he => h e (congrArg Except.error he)

theorem map {x : Except Failure α} (h : Unraised x) (g : α → β) : Unraised (x.map g) := by
  cases x with
  | ok a => exact .ok (g a)
  | error failure => exact .error fun e he => h e (congrArg Except.error he)

theorem foldlM {f : β → α → Except Failure β} (hf : ∀ b a, Unraised (f b a)) (as : List α) (b : β) :
    Unraised (as.foldlM f b) := by
  induction as generalizing b with
  | nil => exact .ok b
  | cons a as ih =>
    rw [List.foldlM_cons]
    exact .bind (hf b a) ih

end Unraised

/-- A request that cannot be built raises nothing. -/
theorem Request.build_unraised (boundary : String) (method : Method) (url : String) (o : Options) :
    Unraised (Request.build boundary method url o) := by
  have hput (headers : Headers) (name value : String) :
      Unraised (putHeader headers name value) := by
    unfold putHeader
    split
    · exact .ok _
    · exact .error (by simp)
  have hurl : Unraised ((Url.parse url).mapError Failure.invalidUrl) := by
    cases Url.parse url with
    | ok parsed => exact .ok parsed
    | error flaw => exact .error (by simp)
  have hheaders : Unraised (headersOf o) := by
    refine .bind (.foldlM ?_ _ _) fun headers => ?_
    · exact fun headers h => hput headers h.1 h.2
    · dsimp only
      split
      on_goal 1 => refine .bind (.ok headers) fun headers => ?_
      on_goal 2 => refine .bind (hput _ _ _) fun headers => ?_
      all_goals
        split
        · exact hput _ _ _
        · exact .ok _
  have hbody (headers : Headers) : Unraised (encodeBody boundary o headers) := by
    unfold encodeBody
    split
    · exact .bind (hput _ _ _) fun _ => .ok _
    · split <;> exact .ok _
  exact .bind hurl fun _ => .bind hheaders fun headers => .bind (hbody headers) fun _ => .ok _

/-- The plan raises nothing, if the service inside does not. -/
inductive Plan.Calm : Plan → Prop
  | answer {out : Outcome} : Unraised out → Calm (.answer out)
  | note {n : Notice} {rest : Plan} : Calm rest → Calm (.note n rest)
  | call {q : Request} {resume : Outcome → Plan} :
      (∀ out, Unraised out → Calm (resume out)) → Calm (.call q resume)

theorem Plan.Calm.ends {inner : Service} (hinner : inner.Ends Unraised) {plan : Plan}
    (h : plan.Calm) :
    (plan.run inner.call).Ends Unraised := by
  induction h with
  | answer hout => exact .pure hout
  | note _ ih => exact .bind (.any _) fun _ _ => ih
  | call _ ih => exact .bind (hinner _) ih

namespace Middleware

/-- Middleware that raises nothing of its own. -/
def Calm (m : Middleware) : Prop := ∀ earlier q, (m earlier q).Calm

theorem Calm.keeps {m : Middleware} (h : m.Calm) : m.stage.Keeps Unraised :=
  fun _ hinner q => .bind (.any _) fun earlier _ => (h earlier q).ends hinner

theorem mapRequest_calm (f : Request → Request) : (mapRequest f).Calm :=
  fun _ _ => .call fun _ hout => .answer hout

theorem mapResponse_calm (g : Response → Response) : (mapResponse g).Calm :=
  fun _ _ => .call fun _ hout => .answer (hout.map g)

theorem answering_calm {out : Outcome} (h : Unraised out) : (answering out).Calm :=
  fun _ _ => .answer h

theorem tracing_calm (label : String) : (tracing label).Calm :=
  fun _ _ => .note (.call fun _ hout => .note (.answer hout))

end Middleware

theorem loggingStage_keeps (detail : LogDetail) (truncation : LogTruncation) :
    (loggingStage detail truncation).Keeps Unraised := by
  intro inner hinner q
  refine .bind (.any _) fun earlier _ => ?_
  extract_lets attempt log send
  have hsend (u : Unit) : (send u).Ends Unraised := by
    refine .bind (hinner q) fun outcome hout => ?_
    cases truncation with
    | shared => exact .bind (.any _) fun _ _ => .bind (.any _) fun _ _ => .pure hout
    | own truncation => exact .bind (.any _) fun _ _ => .bind (.any _) fun _ _ => .pure hout
  split
  · exact .bind (.any _) fun u _ => hsend u
  · exact hsend ()

theorem sendingStage_keeps (draft : Nat) (announces : Bool) (hooks : List Hook) :
    (sendingStage draft announces hooks).Keeps Unraised :=
  fun _ hinner _ => .bind (.any _) fun _ _ => .bind (.any _) fun q _ => hinner q

theorem recordingStage_keeps (recorders : List Recorder) :
    (recordingStage recorders).Keeps Unraised :=
  fun _ hinner q => .bind (hinner q) fun _ hout => .bind (.any _) fun _ _ => .pure hout

theorem Stub.Resolves.unraised {q : Request} {stub : Stub} {t : Trace} {out : Outcome}
    (h : stub.Resolves q t out) :
    Unraised out := by
  have hcanned (c : Canned) : Unraised (c.resolve q) := by
    cases c with
    | response r => exact .ok r
    | callback answer => exact .ok (answer q)
    | failure f => exact .error (by simp)
  cases h with
  | canned c => exact hcanned c
  | taken number c => exact hcanned c
  | exhausted number => exact .error (by simp)

theorem fakingStage_keeps (matchers : List Matcher) (preventsStray : Bool) :
    (fakingStage matchers preventsStray).Keeps Unraised := by
  intro inner hinner q
  refine .bind (.any _) fun stub? _ => ?_
  cases stub? with
  | none =>
    dsimp only
    split
    · exact .pure (.error (by simp))
    · exact hinner q
  | some stub =>
    have hresolve : (stub.resolve q).Ends Unraised :=
      fun _ _ _ _ hruns => (Stub.resolve_runs.mp hruns).1.unraised
    refine .bind hresolve fun out hout => ?_
    cases out with
    | error f => exact .pure hout
    | ok r =>
      intro p t out p' hruns
      obtain ⟨hdelivers, -⟩ := deliverFake_runs.mp hruns
      cases hdelivers with
      | unsunk => exact .ok _
      | sunk => exact .ok _
      | failed => exact .error (by simp)

theorem Wire.transport_unraised (c : Config) (q : Request) :
    (Wire.transport c q).Ends Unraised := by
  refine (Wire.transport_ends c q).mono fun out hout e he => ?_
  obtain hfails | ⟨message, hsink⟩ := hout _ he
  · cases hfails
  · cases hsink

namespace Dispatch

variable {d : Dispatch} {o : Options} {p p' : Progress} {t : Trace}

theorem service_ends (hmiddleware : ∀ stage ∈ d.middleware, stage.Keeps Unraised)
    (htransport : ∀ q, (d.environment.transport q).Ends Unraised) : d.service.Ends Unraised := by
  refine .compose (fun stage hmem => ?_) (.ofTransport htransport)
  rcases List.mem_append.mp hmem with hmem | hmem
  · exact hmiddleware stage hmem
  · simp only [List.mem_cons, List.not_mem_nil, or_false] at hmem
    rcases hmem with rfl | rfl | rfl
    · exact sendingStage_keeps _ _ _
    · exact recordingStage_keeps _
    · exact fakingStage_keeps _ _

/-! ## The last response -/

/-- The response that an outcome comes with: its own, or the one that failed. -/
def responseOf? (out : Outcome) : Option Response := (judged? out).toOption

/-- A failed response may be given back or raise: it is what the outcome comes with. -/
theorem responseOf?_verdict (r : Round) : responseOf? (d.verdict r) = r.response? := by
  cases hresponse : r.response? with
  | none =>
    simp only [verdict, hresponse]
    exact hresponse
  | some response =>
    cases he : r.error? with
    | none =>
      simp only [verdict, hresponse, he]
      rfl
    | some e =>
      obtain ⟨hof, -⟩ := Round.error?_eq_some.mp he
      simp only [verdict, hresponse, he]
      rw [← hresponse, hof]
      split <;> rfl

/-- The stages, doing what is in `own`, gave a response back, and its cookies were attached. -/
def Given (d : Dispatch) (own : Trace) (r : Response) : Prop :=
  ∃ q p p' given, (d.service.call q).Runs p own (.ok given) p' ∧ r = given.withOwnCookies

theorem Given.carriesCookies {own : Trace} {r : Response} (h : d.Given own r) :
    r.CarriesCookies := by
  obtain ⟨_, _, _, given, -, rfl⟩ := h
  exact given.carriesCookies_withOwnCookies

/-- The stages, doing what is in `own`, raised a response, and nothing was done to it. -/
def Raised (d : Dispatch) (own : Trace) (r : Response) : Prop :=
  ∃ q p p' e, (d.service.call q).Runs p own (.error (.http e)) p' ∧ r = e.response

/-- The response that an attempt comes with was given back or raised in it. -/
theorem attempt_hands {r : Round} {response : Response}
    (h : (d.attempt o).Runs p r.trace r.outcome p') (hresponse : r.response? = some response) :
    ∃ own, own <:+: r.trace ∧ (d.Given own response ∨ d.Raised own response) := by
  obtain ⟨boundary, t', htrace, ⟨f, hbuild, -, hout, -⟩ |
      ⟨q, t₁, outcome, p₁, -, hcall, rfl, hout, -⟩⟩ :=
    attempt_runs.mp h
  · have hnone : r.response? = none :=
      Round.response?_eq_none.mpr ⟨f, hout,
        fun e he => Request.build_unraised _ _ _ _ e (hbuild.trans (by rw [he]))⟩
    rw [hnone] at hresponse
    cases hresponse
  · refine ⟨t₁, ⟨[⟨.freshBoundary, boundary⟩], d.announcing q p₁.sent outcome, by simp [htrace]⟩,
      ?_⟩
    rw [Round.response?, hout] at hresponse
    cases outcome with
    | ok r₀ =>
      obtain rfl := Option.some.inj hresponse
      exact .inl ⟨_, _, _, _, hcall, rfl⟩
    | error f =>
      cases f with
      | http e =>
        obtain rfl := Option.some.inj hresponse
        exact .inr ⟨_, _, _, _, hcall, rfl⟩
      | _ => cases hresponse

theorem Course.attempt_last {left : Nat} {rounds : List Round} (h : d.Course left o p rounds p')
    {last : Round} (hlast : rounds.getLast? = some last) :
    ∃ o' p₁ p₂, (d.attempt o').Runs p₁ last.trace last.outcome p₂ := by
  induction h with
  | last hattempt =>
    obtain rfl := Option.some.inj hlast
    exact ⟨_, _, _, hattempt⟩
  | next _ _ hcourse ih =>
    refine ih ?_
    rwa [List.getLast?_cons_of_ne_nil hcourse.ne_nil] at hlast

/-- The last attempt stands at the end of what the rounds do, with nothing but its judging behind
it. -/
theorem exists_woven_last {mode : Mode} {n : Nat} {rounds : List Round} {last : Round}
    (hlast : rounds.getLast? = some last) :
    ∃ before, d.woven rounds (d.pauses mode n rounds) = before ++ last.trace ++ d.judging last := by
  induction rounds generalizing n with
  | nil => cases hlast
  | cons r rounds ih =>
    cases rounds with
    | nil =>
      obtain rfl := Option.some.inj hlast
      exact ⟨[], by simp [woven, pauses]⟩
    | cons r' rounds =>
      rw [List.getLast?_cons_cons] at hlast
      obtain ⟨before, hbefore⟩ := @ih (n + 1) hlast
      refine ⟨r.trace ++ d.judging r ++ (r.error?.map (d.waiting mode n)).getD [] ++ before, ?_⟩
      rw [pauses, woven, List.headD_cons, List.tail_cons, hbefore]
      simp only [List.append_assoc]

/-! ## Middleware that raises -/

theorem of_throwIfFailed {r : Response} {truncation : Truncation} {out : Outcome}
    (h : r.throwIfFailed truncation = out) :
    (out = .ok r ∧ r.failed = false) ∨ ∃ e, out = .error (.http e) ∧ e.response = r := by
  subst h
  unfold Response.throwIfFailed StatusError.of?
  cases hfailed : r.failed with
  | false => exact .inl ⟨rfl, rfl⟩
  | true => exact .inr ⟨_, rfl, rfl⟩

/-- What middleware that raises makes of what the service inside answers. -/
theorem exists_of_raising {truncation : Truncation} {inner : Service} {q : Request} {out : Outcome}
    (h : (((Middleware.raising truncation).stage inner).call q).Runs p t out p') : ∃ p₁ outcome,
      (inner.call q).Runs p₁ t outcome p' ∧
        out = outcome.bind fun r => r.throwIfFailed truncation := by
  obtain ⟨t₁, earlier, p₁, t₂, rfl, hcount, hplan⟩ := Run.runs_bind.mp h
  obtain ⟨rfl, -, -⟩ := Run.runs_countCall.mp hcount
  obtain ⟨t₃, outcome, p₂, t₄, rfl, hcall, hanswer⟩ := Run.runs_bind.mp hplan
  obtain ⟨rfl, rfl, rfl⟩ := Run.runs_pure.mp hanswer
  exact ⟨p₁, outcome, by simpa using hcall, rfl⟩

/-- A failed response that comes with the answer of stages the outermost of which raises is the one
that the others gave back. -/
theorem exists_of_failed {truncation : Truncation} {rest : List Stage}
    (hmiddleware : d.middleware = (Middleware.raising truncation).stage :: rest)
    (hinner : (service { d with middleware := rest }).Ends Unraised) {own : Trace} {r : Response}
    (h : d.Given own r ∨ d.Raised own r) (hfailed : r.failed = true) :
    ∃ q p p', ((service { d with middleware := rest }).call q).Runs p own (.ok r) p' := by
  have hservice : d.service = (Middleware.raising truncation).stage
      (service { d with middleware := rest }) := by
    simp only [service, stages, hmiddleware, List.cons_append]
    rfl
  obtain ⟨q, p, p', given, hcall, rfl⟩ | ⟨q, p, p', e, hcall, rfl⟩ := h
  · rw [hservice] at hcall
    obtain ⟨p₁, outcome, -, hout⟩ := exists_of_raising hcall
    cases outcome with
    | error f => cases hout
    | ok r₁ =>
      obtain ⟨hgiven, hunfailed⟩ | ⟨e, hraised, -⟩ := of_throwIfFailed hout.symm
      · obtain rfl := Except.ok.inj hgiven
        exact absurd (hfailed.symm.trans hunfailed) (by decide)
      · cases hraised
  · rw [hservice] at hcall
    obtain ⟨p₁, outcome, hcall, hout⟩ := exists_of_raising hcall
    cases outcome with
    | error f =>
      exact absurd (congrArg Except.error (Except.error.inj hout).symm) (hinner _ _ _ _ _ hcall e)
    | ok r₁ =>
      obtain ⟨hgiven, -⟩ | ⟨e', hraised, rfl⟩ := of_throwIfFailed hout.symm
      · cases hgiven
      · cases hraised
        exact ⟨q, p₁, p', hcall⟩

/-! ## Whole runs -/

/-- The response that a dispatch ends with, by itself or as one that failed, is what its stages
handed over in the last attempt. If they gave it back it carries its cookies; if they raised it, it
comes out as they raised it. So it carries its cookies if no stage raises, and where the outermost
middleware raises, a failed response comes out with the cookies that the stages below it had given
it. -/
theorem run_hands {out : Outcome} {r : Response} (h : d.run.Runs t out)
    (hr : responseOf? out = some r) :
    (∃ before own last, t = before ++ last.trace ++ d.judging last ∧ own <:+: last.trace ∧
      out = d.verdict last ∧ (d.Given own r ∧ r.CarriesCookies ∨ d.Raised own r)) ∧
    ((∀ stage ∈ d.middleware, stage.Keeps Unraised) →
      (∀ q, (d.environment.transport q).Ends Unraised) →
      r.CarriesCookies) ∧
    (∀ truncation rest, d.middleware = (Middleware.raising truncation).stage :: rest →
      (∀ stage ∈ rest, stage.Keeps Unraised) → (∀ q, (d.environment.transport q).Ends Unraised) →
        r.failed = true →
      ∃ own q p p', own <:+: t ∧ ((service { d with middleware := rest }).call q).Runs p own
        (.ok r) p') := by
  obtain ⟨rounds, last, p', hcourse, rfl, hlast, rfl⟩ := run_runs.mp h
  obtain ⟨before, hbefore⟩ := exists_woven_last hlast
  obtain ⟨o', p₁, p₂, hattempt⟩ := hcourse.attempt_last hlast
  rw [responseOf?_verdict] at hr
  obtain ⟨own, hown, hhands⟩ := attempt_hands hattempt hr
  refine ⟨⟨before, own, last, hbefore, hown, rfl, hhands.imp_left fun h => ⟨h, h.carriesCookies⟩⟩,
    fun hmiddleware htransport => ?_,
      fun truncation rest hmiddleware hrest htransport hfailed => ?_⟩
  · obtain hgiven | ⟨_, _, _, _, hcall, -⟩ := hhands
    · exact hgiven.carriesCookies
    · exact absurd rfl (service_ends hmiddleware htransport _ _ _ _ _ hcall _)
  · obtain ⟨q, p, p', hcall⟩ :=
      exists_of_failed hmiddleware (@service_ends { d with middleware := rest } hrest htransport)
        hhands hfailed
    refine ⟨own, q, p, p', hown.trans ?_, hcall⟩
    rw [hbefore]
    exact ⟨before, d.judging last, rfl⟩

/-! ## A session -/

/-- A dispatch without retries; every response that it gets sets a cookie. -/
def entering (status : Nat) (middleware : List Stage) : Dispatch :=
  { unavailable (.count 1) with
    middleware := middleware
    environment :=
      ⟨fun _ => pure (.ok ((Response.ofStatus status).withHeader "set-cookie" "sid=1")), true⟩ }

theorem transport_entering (status : Nat) (middleware : List Stage) (q : Request) :
    ((entering status middleware).environment.transport q).Ends Unraised := .pure (.ok _)

/-- What it ends with; it needs no network. -/
def entered (status : Nat) (middleware : List Stage) : Outcome :=
  ((World.initial .default true .unreachable).run (entering status middleware).run).1

theorem exists_runs_entered (status : Nat) (middleware : List Stage) :
    ∃ t, (entering status middleware).run.Runs t (entered status middleware) := by
  obtain ⟨t, ht, -⟩ :=
    Act.exists_runs (.initial .default true .unreachable) (entering status middleware).run
  exact ⟨t, ht⟩

/-- Middleware that traces leaves a response its cookies. -/
theorem run_hands_traced :
    ∃ t out r, (entering 200 [(Middleware.tracing "a").stage]).run.Runs t out ∧
    responseOf? out = some r ∧ r.CarriesCookies ∧ r.cookie? "sid" = some "1" := by
  obtain ⟨t, hrun⟩ := exists_runs_entered 200 [(Middleware.tracing "a").stage]
  have hsets : (responseOf? (entered 200 [(Middleware.tracing "a").stage])).map
      (fun r => (Cookie.ofHeaders r.headers).get? "sid") = some (some "1") := by decide +kernel
  obtain ⟨r, hr, hsid⟩ := Option.map_eq_some_iff.mp hsets
  have hkeeps : ∀ stage ∈ (entering 200 [(Middleware.tracing "a").stage]).middleware,
      stage.Keeps Unraised := by
    intro stage hmem
    obtain rfl := List.mem_singleton.mp hmem
    exact (Middleware.tracing_calm "a").keeps
  have hcarries := (run_hands hrun hr).2.1 hkeeps (transport_entering _ _)
  exact ⟨_, _, r, hrun, hr, hcarries, hcarries "sid" "1" hsid⟩

/-- A failed response that middleware raises comes out without its cookies. -/
theorem not_run_carries :
    ¬ ∀ (d : Dispatch) (t : Trace) (out : Outcome) (r : Response), d.run.Runs t out →
    responseOf? out = some r → r.CarriesCookies := by
  intro h
  obtain ⟨t, hrun⟩ := exists_runs_entered 500 [(Middleware.raising .default).stage]
  have hsets : (responseOf? (entered 500 [(Middleware.raising .default).stage])).map
      (fun r => ((Cookie.ofHeaders r.headers).get? "sid", r.cookie? "sid")) =
        some (some "1", none) := by decide +kernel
  obtain ⟨r, hr, hpair⟩ := Option.map_eq_some_iff.mp hsets
  obtain ⟨hsid, hnone⟩ := Prod.mk.inj hpair
  have hsome := h _ _ _ r hrun hr "sid" "1" hsid
  rw [hnone] at hsome
  cases hsome

end Dispatch

end Courier
