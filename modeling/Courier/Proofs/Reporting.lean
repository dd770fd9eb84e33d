import Courier.Proofs.Endings
import Courier.Proofs.Exchanges
/-
Whom a dispatch tells the statistics of its transfers, and when. The listener of
a request is told by the faking stage, where a stub answers, and by the bundled
transport, which follow different rules: the transport tells of every exchange
that came to no response, a stub of none; and neither tells of a response whose
body could not be written to the sink.

- `Request.told`: what the listener of a request is told, given by what the
  request was answered and how.
- `Dispatch.Answered.transfers_eq`: that is told for each request that reaches
  the faking stage, once at most, and with the status of the response if there
  is one.
- `Dispatch.run_tells`: a whole run tells this for each of its requests, in the
  order in which they were answered, and nothing else.
- `Dispatch.not_answered_tells`: so the listener is not told once for each
  request that is answered.
-/
namespace Courier

/-! ## What is told -/

/-- The listener that is told, and the statistics. -/
def Step.transferred? : Step → Option (String × TransferStats)
  | ⟨.note (.transferred listener stats), _⟩ => some (listener, stats)
  | _ => none

namespace Trace

/-- All that listeners are told of transfers. -/
def transfers (t : Trace) : List (String × TransferStats) := t.filterMap Step.transferred?

@[simp] theorem transfers_append (t t' : Trace) :
    transfers (t ++ t') = t.transfers ++ t'.transfers :=
  List.filterMap_append

theorem transfers_eq_nil {t : Trace} (h : ∀ s ∈ t, s.transferred? = none) : t.transfers = [] :=
  List.filterMap_eq_nil_iff.mpr h

end Trace

namespace Request

/-- The listener of a request, if it has one, with statistics. -/
def heard (q : Request) (stats : TransferStats) : List (String × TransferStats) :=
  (q.options.onStats.map (·, stats)).toList

theorem heard_eq {q : Request} {listener : String} (h : q.options.onStats = some listener)
    (stats : TransferStats) :
    q.heard stats = [(listener, stats)] := by
  rw [heard, h]
  rfl

end Request

open Dispatch (Answerer)

/-- The body of a response could not be written. -/
def Failure.isSink : Failure → Bool
  | sink _ => true
  | _ => false

/-- The transport tried to send a request, and no response came of it. -/
def Request.Untransferred (q : Request) (by' : Answerer) (f : Failure) : Prop :=
  by'.isTransport = true ∧ Wire.refusal? q.options = none ∧ f.isSink = false

instance (q : Request) (by' : Answerer) : DecidablePred (q.Untransferred by') :=
  fun f => inferInstanceAs (Decidable (by'.isTransport = true ∧ Wire.refusal? q.options = none ∧
    f.isSink = false))

/-- The statistics that are told of a request, given by what it was answered and how. A response has
them attached. -/
def Request.told? (q : Request) (by' : Answerer) : Outcome → Option TransferStats
  | .ok r => r.stats
  | .error f => if q.Untransferred by' f then some ⟨q.method, q.url, none, 0⟩ else none

/-- What the listener of a request is told of it. -/
def Request.told (q : Request) (by' : Answerer) (out : Outcome) : List (String × TransferStats) :=
  (q.told? by' out).toList.flatMap q.heard

section

variable {q : Request} {by' : Answerer} {f : Failure}

theorem told_ok {r : Response} {stats : TransferStats} (h : r.stats = some stats) :
    q.told by' (.ok r) = q.heard stats := by
  rw [Request.told, Request.told?, h]
  exact List.flatMap_singleton ..

theorem told_error (h : q.Untransferred by' f) :
    q.told by' (.error f) = q.heard ⟨q.method, q.url, none, 0⟩ := by
  rw [Request.told, Request.told?, if_pos h]
  exact List.flatMap_singleton ..

theorem told_error_eq_nil (h : ¬ q.Untransferred by' f) : q.told by' (.error f) = [] := by
  rw [Request.told, Request.told?, if_neg h]
  rfl

end

/-- A response comes with the statistics of its request and with its own status. -/
def Request.Measured (q : Request) (out : Outcome) : Prop :=
  ∀ r, out = .ok r → ∃ stats, r.stats = some stats ∧ stats.status = some r.status ∧
    stats.method = q.method

/-! ## Stubs -/

section

variable {q : Request} {t : Trace} {out : Outcome}

theorem transfers_reporting (r : Response) :
    (reporting q r).transfers = q.heard (fakedStats q r) := by
  unfold reporting Request.heard
  cases q.options.onStats <;> rfl

theorem Delivers.transfers_eq {r : Response} (h : Delivers q r t out) (by' : Answerer) :
    t.transfers = q.told by' out ∧ q.Measured out := by
  have htold : q.told by' (.ok (r.attachStats (fakedStats q r))) = q.heard (fakedStats q r) :=
    told_ok rfl
  have hmeasured : q.Measured (.ok (r.attachStats (fakedStats q r))) := by
    rintro _ ⟨⟩
    exact ⟨_, rfl, rfl, rfl⟩
  cases h with
  | unsunk => exact ⟨(transfers_reporting r).trans htold.symm, hmeasured⟩
  | sunk => exact ⟨(transfers_reporting r).trans htold.symm, hmeasured⟩
  | failed => exact ⟨(told_error_eq_nil fun h => Bool.noConfusion h.2.2).symm, fun _ h => nomatch h⟩

theorem Stub.Resolves.transfers_eq {stub : Stub} (h : stub.Resolves q t out) :
    t.transfers = [] := by
  cases h <;> rfl

theorem Stub.Answers.transfers_eq {stub : Stub} {m : Matcher} (h : stub.Answers q t out) :
    t.transfers = q.told (.stub m) out ∧ q.Measured out := by
  cases h with
  | response hresolves hdelivers =>
    obtain ⟨htold, hmeasured⟩ := hdelivers.transfers_eq (.stub m)
    exact ⟨by rw [Trace.transfers_append, hresolves.transfers_eq, htold, List.nil_append],
      hmeasured⟩
  | @failure t f hresolves =>
    have htold : q.told (.stub m) (.error f) = [] := told_error_eq_nil fun h => Bool.noConfusion h.1
    exact ⟨hresolves.transfers_eq.trans htold.symm, fun _ h => nomatch h⟩

end

/-! ## The bundled transport -/

namespace Wire

variable {q : Request} {t : Trace} {out : Outcome}

theorem transfers_telling (stats : TransferStats) :
    (telling q stats).transfers = q.heard stats := by
  unfold telling Request.heard
  cases q.options.onStats <;> rfl

theorem exchange_transfers {join : Url → String → Except UrlFlaw Url} {c : Config}
    {arrived : Except Failure Arrival} (h : (exchange join c q).Runs t arrived) :
    t.transfers = [] := by
  refine Trace.transfers_eq_nil fun s hs => ?_
  have hexchanges := exchange_confined join c q t arrived h s hs
  obtain ⟨e, reply⟩ := s
  cases hexchanges
  rfl

theorem Delivered.transfers_eq {a : Arrival} (h : Delivered q a t out) :
    t.transfers = q.told .transport out ∧ q.Measured out := by
  have htold : q.told .transport (.ok (a.response.attachStats (statsOf q a))) =
      q.heard (statsOf q a) := told_ok rfl
  have hmeasured : q.Measured (.ok (a.response.attachStats (statsOf q a))) := by
    rintro _ ⟨⟩
    exact ⟨_, rfl, rfl, rfl⟩
  cases h with
  | unsunk => exact ⟨(transfers_telling _).trans htold.symm, hmeasured⟩
  | sunk => exact ⟨(transfers_telling _).trans htold.symm, hmeasured⟩
  | failed => exact ⟨(told_error_eq_nil fun h => Bool.noConfusion h.2.2).symm, fun _ h => nomatch h⟩

theorem transport_transfers {c : Config} (h : (transport c q).Runs t out) :
    t.transfers = q.told .transport out ∧ q.Measured out := by
  cases handled_of_transport h with
  | @refused flaw hrefusal =>
    have hrefused : ¬ q.Untransferred .transport (.invalidRequest flaw) := fun h => by
      rw [h.2.1] at hrefusal
      cases hrefusal
    exact ⟨(told_error_eq_nil hrefused).symm, fun _ h => nomatch h⟩
  | @failed t f hrefusal hexchange =>
    -- The failures of an exchange are told, since no sink was written yet.
    have hsink : f.isSink = false := by cases exchange_ends Url.join c q _ _ hexchange f rfl <;> rfl
    refine ⟨?_, fun _ h => nomatch h⟩
    rw [Trace.transfers_append, exchange_transfers hexchange, List.nil_append, transfers_telling,
      told_error ⟨rfl, hrefusal, hsink⟩]
  | delivered _ hexchange hdelivered =>
    rw [Trace.transfers_append, exchange_transfers hexchange, List.nil_append]
    exact hdelivered.transfers_eq

end Wire

namespace Dispatch

variable {d : Dispatch} {q : Request} {o : Options} {p p' : Progress} {t : Trace}
  {out : Outcome} {c : Config}

/-! ## Requests that reach the faking stage -/

/-- What the listener of a request is told while the request is answered. -/
theorem Answered.transfers_eq (hwire : d.environment.transport = Wire.transport c) {by' : Answerer}
    (h : d.Answered q by' t out) : t.transfers = q.told by' out ∧ q.Measured out := by
  have hasking (matchers : List Matcher) : (Matcher.asking q matchers).transfers = [] := by
    refine Trace.transfers_eq_nil fun s hs => ?_
    obtain ⟨label, hit, he⟩ := Matcher.mem_asking hs
    obtain ⟨e, reply⟩ := s
    subst he
    rfl
  cases h with
  | stub _ _ _ hanswers =>
    obtain ⟨htold, hmeasured⟩ := hanswers.transfers_eq
    exact ⟨by rw [Trace.transfers_append, hasking, List.nil_append, htold], hmeasured⟩
  | refusal =>
    exact ⟨(hasking _).trans (told_error_eq_nil fun h => Bool.noConfusion h.1).symm,
      fun _ h => nomatch h⟩
  | transport _ _ hsent =>
    rw [hwire] at hsent
    obtain ⟨htold, hmeasured⟩ := Wire.transport_transfers hsent
    exact ⟨by rw [Trace.transfers_append, hasking, List.nil_append, htold], hmeasured⟩

/-! ## Whole runs -/

/-- The effect is aside and tells no listener of a transfer. -/
def Untold (e : Effect) : Prop :=
  e.isAside = true ∧ ∀ listener stats, e ≠ .note (.transferred listener stats)

theorem transferred?_of_untold {s : Step} (h : Untold s.effect) : s.transferred? = none := by
  unfold Step.transferred?
  split
  · exact absurd rfl (h.2 _ _)
  · rfl

/-- What the listener of the request of a pass is told of it. -/
def Pass.told (d : Dispatch) (pass : Pass) : List (String × TransferStats) :=
  (pass.sent d).told pass.by' pass.outcome

theorem Pass.Valid.transfers_eq (hwire : d.environment.transport = Wire.transport c) {pass : Pass}
    (h : pass.Valid d) : (pass.trace d).transfers = pass.told d := by
  have hframes (s : Step) (hs : Pass.Frames s.effect) : s.transferred? = none := by
    obtain ⟨e, reply⟩ := s
    cases hs <;> rfl
  exact (pass.filterMap_answering hframes).trans (Answered.transfers_eq hwire h).1

theorem announcing_transfers (q : Request) (q? : Option Request) (outcome : Outcome) :
    (d.announcing q q? outcome).transfers = [] :=
  filterMap_announcing (fun _ => rfl) q q? outcome

/-- The requests of an attempt that reached the faking stage, and what was told of them. -/
theorem attempt_tells (hmiddleware : ∀ stage ∈ d.middleware, stage.Mediates Untold)
    (hwire : d.environment.transport = Wire.transport c) {r : Round}
    (h : (d.attempt o).Runs p r.trace r.outcome p') :
    ∃ passes, d.Accounted o r passes ∧ r.trace.transfers = passes.flatMap (Pass.told d) := by
  obtain ⟨boundary, t, ht, ⟨f, hbuild, rfl, -, -⟩ |
      ⟨q, t₁, outcome, p₁, hbuild, hcall, rfl, -, -⟩⟩ :=
    attempt_runs.mp h
  · exact ⟨[], .unbuilt hbuild ht, by rw [ht]; rfl⟩
  · have hcall' := hcall
    rw [service_eq] at hcall'
    obtain ⟨calls, hserves⟩ := compose_mediates hmiddleware d.sending q _ _ _ _ hcall'
    obtain ⟨passes, hvalid, rfl⟩ := exists_passes hserves
    refine ⟨passes, .built hbuild hcall hvalid (hserves.mono fun _ he => he.1) ht, ?_⟩
    have hfresh : Trace.transfers [⟨.freshBoundary, boundary⟩] = [] := rfl
    have hpasses : t₁.transfers = passes.flatMap (Pass.told d) := by
      rw [Trace.transfers, hserves.filterMap_eq fun _ => transferred?_of_untold, List.flatMap_map]
      exact List.flatMap_congr fun pass hmem => (hvalid pass hmem).transfers_eq hwire
    rw [ht, ← List.singleton_append, Trace.transfers_append, Trace.transfers_append,
      hfresh, hpasses, announcing_transfers, List.nil_append, List.append_nil]

/-- What is told of transfers is told in the attempts. -/
theorem transfers_woven {mode : Mode} {n : Nat} {rounds : List Round} :
    (d.woven rounds (d.pauses mode n rounds)).transfers = rounds.flatMap fun r =>
      r.trace.transfers := by
  refine filterMap_woven fun s hs => ?_
  obtain ⟨e, reply⟩ := s
  cases hs <;> rfl

/-- Whom a dispatch over the bundled transport tells the statistics of its transfers. Of a request
with a listener that reaches the faking stage it tells once if there is a response, with the status
of that one; it tells once, without a status, if the transport tried to send the request and got no
response; and it tells nothing if a stub failed, if the request was refused, or if a sink could not
be written. A whole run tells this of each of its requests in turn, as long as no middleware meddles
with it. -/
theorem run_tells (hmiddleware : ∀ stage ∈ d.middleware, stage.Mediates Untold)
    (hwire : d.environment.transport = Wire.transport c) :
    (∀ q by' t out listener, d.Answered q by' t out → q.options.onStats = some listener →
      (∀ r, out = .ok r → ∃ stats, r.stats = some stats ∧ stats.status = some r.status ∧
        t.transfers = [(listener, stats)]) ∧
      ∀ f, out = .error f → t.transfers =
        if q.Untransferred by' f then [(listener, ⟨q.method, q.url, none, 0⟩)] else []) ∧
    ∀ t out, d.run.Runs t out → ∃ accounts : List (Round × List Pass),
      t = d.woven (accounts.map (·.1)) (d.pauses d.mode 1 (accounts.map (·.1))) ∧
      (∀ i r passes, accounts[i]? = some (r, passes) →
        d.Accounted (d.optionsAfter d.options (accounts.map (·.1)) i) r passes ∧
        r.trace.transfers = passes.flatMap (Pass.told d)) ∧
      ∀ passes, passes = accounts.flatMap (·.2) →
        t.remembered = passes.map (fun pass => (d.draft, pass.reached)) ∧
        t.transfers = passes.flatMap (Pass.told d) := by
  refine ⟨fun q by' t out listener h hlistener => ⟨?_, ?_⟩, fun t out h => ?_⟩
  · rintro r rfl
    obtain ⟨htold, hmeasured⟩ := h.transfers_eq hwire
    obtain ⟨stats, hstats, hstatus, -⟩ := hmeasured r rfl
    exact ⟨stats, hstats, hstatus, by rw [htold, told_ok hstats, Request.heard_eq hlistener]⟩
  · rintro f rfl
    rw [(h.transfers_eq hwire).1]
    split
    · next hf => rw [told_error hf, Request.heard_eq hlistener]
    · next hf => exact told_error_eq_nil hf
  · have hd : d.Mediated := by
      refine ⟨fun stage hmem => (hmiddleware stage hmem).mono fun _ he => he.1, fun q => ?_⟩
      rw [hwire]
      exact (Wire.transport_confined c q).mono fun _ he => by cases he <;> rfl
    obtain ⟨rounds, -, p', hcourse, ht, -⟩ := run_runs.mp h
    obtain ⟨accounts, rfl, haccounts⟩ :=
      (course_iff.mp hcourse).1.exists_each fun _ _ _ _ hattempt =>
        attempt_tells hmiddleware hwire hattempt
    have haccounted : ∀ account ∈ accounts, ∃ o, d.Accounted o account.1 account.2 ∧
        account.1.trace.transfers = account.2.flatMap (Pass.told d) := by
      intro account hmem
      obtain ⟨i, hi⟩ := List.mem_iff_getElem?.mp hmem
      exact ⟨_, haccounts i _ _ hi⟩
    refine ⟨accounts, ht, haccounts, ?_⟩
    rintro passes rfl
    constructor
    · rw [ht, Trace.remembered, filterMap_woven_of_overlooks overlooks_remembered, List.flatMap_map,
        List.map_flatMap]
      refine List.flatMap_congr fun account hmem => ?_
      obtain ⟨o, haccount, -⟩ := haccounted account hmem
      exact haccount.remembered_eq hd
    · rw [ht, transfers_woven, List.flatMap_map, List.flatMap_assoc]
      refine List.flatMap_congr fun account hmem => ?_
      obtain ⟨o, -, htold⟩ := haccounted account hmem
      exact htold

/-- A dispatch over the bundled transport whose request has a listener. -/
def listened (stubs : List Matcher) : Dispatch :=
  { unavailable (.count 1) with
    options := { Options.empty with onStats := some "s" }
    middleware := [loggingStage .outcomes .shared]
    stubs := stubs
    environment := ⟨Wire.transport .default, true⟩ }

/-- The listener is told of a connection that could not be made. -/
theorem run_tells_listened :
    ∃ (t : Trace) (out : Outcome) (passes : List Pass), (listened []).run.Runs t out ∧
    t.remembered = passes.map (fun pass => ((listened []).draft, pass.reached)) ∧
    t.transfers = passes.flatMap (Pass.told (listened [])) ∧
    t.transfers.map (fun told => (told.1, told.2.status)) = [("s", none)] := by
  have hmiddleware : ∀ stage ∈ (listened []).middleware, stage.Mediates Untold := by
    intro stage hmem
    obtain rfl := List.mem_singleton.mp hmem
    exact loggingStage_mediates (fun _ => ⟨rfl, by simp⟩) ⟨rfl, by simp⟩ _ _
  have hrun :=
    Act.runs_play (fun _ e => ((World.initial .default true .unreachable).answer e).1)
      (listened []).run []
  obtain ⟨accounts, -, -, hpasses⟩ := (run_tells hmiddleware rfl).2 _ _ hrun
  obtain ⟨hremembered, htransfers⟩ := hpasses _ rfl
  exact ⟨_, _, _, hrun, hremembered, htransfers, by decide +kernel⟩

/-- The listener is not told of a connection that a stub says could not be made. -/
theorem not_answered_tells :
    ¬ ∀ (d : Dispatch) (c : Config) (q : Request) (by' : Answerer) (t : Trace) (out : Outcome)
    (listener : String), d.environment.transport = Wire.transport c → d.Answered q by' t out →
    by'.isStub = true ∨ by'.isTransport = true → q.options.onStats = some listener →
    ∃ stats, t.transfers = [(listener, stats)] := by
  intro h
  have hbuilt : (Request.build "b" .get "https://a.test/" (listened []).options).toOption.map
      (·.options.onStats) =
      some (some "s") := by decide +kernel
  obtain ⟨q, -, hlistener⟩ := Option.map_eq_some_iff.mp hbuilt
  have hanswered : (listened [.any (.canned (.failure ⟨.connect, "down"⟩))]).Answered q
      (.stub (.any (.canned (.failure ⟨.connect, "down"⟩)))) []
          (.error (.connection ⟨.connect, "down"⟩)) :=
    @Answered.stub _ _ [] [] _ _ _ rfl (List.forall_mem_nil _) rfl (.failure (.canned _))
  obtain ⟨stats, htold⟩ := h _ .default q _ _ _ "s" rfl hanswered (.inl rfl) hlistener
  cases htold

end Dispatch

end Courier
