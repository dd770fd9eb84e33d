import Courier.Proofs.Labels
import Courier.Proofs.Redirecting
/-
What becomes of a request on its way through redirects. The statuses alone
decide it (`WireRequest.after`): the first redirect that is neither a 307 nor a
308 makes a plain `GET` of the request, unless it asks for no more than that
already, and drops the body with the fields that describe it. Nothing brings
them back (`WireRequest.after_after`), and nothing else is ever changed.

Behind the exchange the transport sends nothing any more
(`Wire.transport_runs`).
-/
namespace Courier

/-! ## Fields -/

namespace Headers

variable {name other : String}

theorem values?_erase_self (h : Headers) (name : String) : (h.erase name).values? name = none := by
  rw [values?, erase, List.find?_filter, Option.map_eq_none_iff, List.find?_eq_none]
  intro field _
  simp

theorem values?_erase_other (hne : other ≠ name) (h : Headers) :
    (h.erase name).values? other = h.values? other := by
  rw [values?, values?, erase, List.find?_filter]
  congr 2
  funext field
  by_cases hfield : field.1 = other
  · simp [hfield, hne]
  · simp [hfield]

/-- The fields without those that describe a body. -/
def bodiless (h : Headers) : Headers := (h.erase "content-type").erase "content-length"

theorem values?_bodiless (h : Headers) (name : String) : h.bodiless.values? name =
    if name = "content-type" ∨ name = "content-length" then none else h.values? name := by
  unfold bodiless
  by_cases hlength : name = "content-length"
  · rw [hlength, values?_erase_self, if_pos (.inr rfl)]
  rw [values?_erase_other hlength]
  by_cases htype : name = "content-type"
  · rw [htype, values?_erase_self, if_pos (.inl rfl)]
  · rw [values?_erase_other htype, if_neg (not_or.mpr ⟨htype, hlength⟩)]

end Headers

/-! ## Redirects in a row -/

namespace Redirect

/-- After redirects with these statuses a request with the method is a plain `GET`, which it was not
before. -/
def Turns (m : Method) (statuses : List Nat) : Prop :=
  m ≠ .get ∧ m ≠ .head ∧ ∃ status ∈ statuses, status ≠ 307 ∧ status ≠ 308

instance (m : Method) (statuses : List Nat) : Decidable (Turns m statuses) :=
  inferInstanceAs (Decidable (_ ∧ _ ∧ _))

theorem turns_cons {m : Method} {status : Nat} {statuses : List Nat} :
    Turns m (status :: statuses) ↔ Turns m [status] ∨ Turns m statuses := by
  simp only [Turns, List.mem_cons, List.not_mem_nil, or_false, exists_eq_left,
    exists_eq_or_imp, and_or_left]

theorem method_eq (status : Nat) (m : Method) :
    method status m = if Turns m [status] then .get else m := by
  by_cases hkeeps : status = 307 ∨ status = 308
  · have hstays : ¬ Turns m [status] := by
      rintro ⟨-, -, status', hmem, hne⟩
      obtain rfl := List.mem_singleton.mp hmem
      exact not_or.mpr hne hkeeps
    simp [method, hkeeps, hstays]
  · have hturns : Turns m [status] ↔ m ≠ .get ∧ m ≠ .head := by
      simpa [Turns] using fun _ _ => not_or.mp hkeeps
    cases m <;> simp [method, hkeeps, hturns]

end Redirect

namespace WireRequest

/-- What redirects with these statuses to a URL make of a request. -/
def after (w : WireRequest) (statuses : List Nat) (url : Url) : WireRequest :=
  if Redirect.Turns w.method statuses then ⟨.get, url, w.headers.bodiless, []⟩
  else { w with url := url }

variable {w w' : WireRequest}

theorem after_nil (w : WireRequest) : w.after [] w.url = w := by
  simp [after, Redirect.Turns]

/-- Once turned into a `GET`, a request stays one. -/
theorem after_after (w : WireRequest) (status : Nat) (statuses : List Nat) (url url' : Url) :
    (w.after [status] url).after statuses url' = w.after (status :: statuses) url' := by
  by_cases hturns : Redirect.Turns w.method [status]
  · have hall : Redirect.Turns w.method (status :: statuses) :=
      Redirect.turns_cons.mpr (.inl hturns)
    have hget : ¬ Redirect.Turns .get statuses := fun h => h.1 rfl
    simp only [after, if_pos hturns, if_pos hall, if_neg hget]
  · have hrest : Redirect.Turns w.method (status :: statuses) ↔ Redirect.Turns w.method statuses :=
      Redirect.turns_cons.trans (or_iff_right hturns)
    simp only [after, if_neg hturns, hrest]

/-- A redirect does what its status says. -/
theorem eq_after_of_next {join : Url → String → Except UrlFlaw Url} {r : Response}
    (h : Redirect.next join w r = .ok w') : w' = w.after [r.status] w'.url := by
  unfold Redirect.next at h
  split at h
  · cases h
  split at h
  · cases h
  dsimp only at h
  rw [Redirect.method_eq] at h
  by_cases hturns : Redirect.Turns w.method [r.status]
  · rw [if_pos hturns, if_neg (Ne.symm hturns.1)] at h
    obtain rfl := Except.ok.inj h
    rw [after, if_pos hturns]
    rfl
  · rw [if_neg hturns, if_pos rfl] at h
    obtain rfl := Except.ok.inj h
    rw [after, if_neg hturns]

end WireRequest

/-! ## Answers over connections -/

/-- The status of the answer that a step gets over a connection. -/
def Step.status? : Step → Option Nat
  | ⟨.exchange _ _, .answered r⟩ => some r.status
  | _ => none

/-- The statuses of the answers over connections, in order. -/
def Trace.statuses (t : Trace) : List Nat := t.filterMap Step.status?

namespace Wire

variable {c : Config} {q : Request} {w : WireRequest} {t : Trace} {out : Outcome}

theorem statuses_sendOnce {timeout : Nat} {r : Response} (h : (sendOnce timeout w).Runs t (.ok r)) :
    t.statuses = [r.status] := by
  unfold sendOnce at h
  split at h
  · exact absurd (Act.pure_runs.mp h).2 (by simp)
  · exact absurd (Act.pure_runs.mp h).2 (by simp)
  · exact absurd (Act.pure_runs.mp h).2 (by simp)
  · obtain ⟨t₁, reception, t₂, rfl, h₁, h₂⟩ := Act.runs_bind.mp h
    obtain rfl := Act.effect_runs.mp h₁
    cases reception <;> obtain ⟨rfl, heq⟩ := Act.pure_runs.mp h₂
    · obtain rfl := Except.ok.inj heq
      rfl
    · cases heq
    · cases heq

/-- Each request of a chain is what the redirects before it made of the first one. -/
theorem Chain.eq_after {join : Url → String → Except UrlFlaw Url} {timeout : Nat}
    {limit? : Option Nat} {n : Nat} {hops : List Hop} {result : Except Failure Arrival}
    (h : Chain join (sendOnce timeout) limit? n w hops result) {i : Nat}
    {wire : WireRequest} (hi : (Trace.exchanged (hops.flatMap (·.trace)))[i]? = some wire) :
    ∃ before, (Trace.statuses (hops.flatMap (·.trace))).take i = before ∧ before.length = i ∧
      (∀ status ∈ before, Redirect.isFollowed status = true) ∧ wire = w.after before wire.url := by
  induction h generalizing i with
  | @last n w t out result hsend _ =>
    rw [List.flatMap_singleton] at hi ⊢
    have hlt : i < 1 := by
      have hlength := (exchanged_sendOnce hsend).1.length_le
      exact Nat.lt_of_lt_of_le (List.getElem?_eq_some_iff.mp hi).1 hlength
    obtain rfl : i = 0 := by omega
    obtain rfl : wire = w := by
      have hmem := (exchanged_sendOnce hsend).1.subset (List.mem_of_getElem? hi)
      exact List.mem_singleton.mp hmem
    exact ⟨[], List.take_zero, rfl, by simp, wire.after_nil.symm⟩
  | @followed n w t out r max w' hops result hsend hredirects _ _ hnext _ ih =>
    obtain rfl : out = .ok r := hredirects.1
    rw [List.flatMap_cons, exchanged_append, (exchanged_sendOnce hsend).2 r rfl] at hi
    rw [List.flatMap_cons, Trace.statuses, List.filterMap_append, ← Trace.statuses,
      ← Trace.statuses, statuses_sendOnce hsend]
    cases i with
    | zero =>
      obtain rfl := Option.some.inj hi
      exact ⟨[], List.take_zero, rfl, by simp, w.after_nil.symm⟩
    | succ i =>
      obtain ⟨before, htake, hlength, hfollowed, hwire⟩ := ih (by simpa using hi)
      refine ⟨r.status :: before, by simp [htake], by simp [hlength], ?_, ?_⟩
      · exact List.forall_mem_cons.mpr ⟨hredirects.2, hfollowed⟩
      · rwa [WireRequest.eq_after_of_next hnext, WireRequest.after_after] at hwire

/-! ## The transport -/

theorem values?_firstRequest (c : Config) (q : Request) (name : String) :
    (firstRequest c q).headers.values? name =
    (q.headers.values? name).or
      (if name = "user-agent" then (Header.value? c.userAgent).map fun value => [value]
      else none) := by
  unfold firstRequest
  cases hagent : Header.value? c.userAgent with
  | none => simp
  | some value =>
    by_cases hname : name = "user-agent"
    · subst hname
      rw [Headers.values?_insertDefault, if_pos rfl]
      cases q.headers.values? "user-agent" <;> rfl
    · rw [Headers.values?_insertDefault_other hname, if_neg hname, Option.or_none]

/-- What is asked of exchanges alone is the same without the delivery behind them. -/
theorem filterMap_delivering {α : Type} {f : Step → Option α}
    (hf : ∀ s, Delivers s.effect → f s = none) {t t' : Trace} (h : ∀ s ∈ t', Delivers s.effect) :
    (t ++ t').filterMap f = t.filterMap f := by
  rw [List.filterMap_append, List.filterMap_eq_nil_iff.mpr fun s hs => hf s (h s hs),
    List.append_nil]

/-- What the transport sends over connections are the hops of a chain. -/
theorem transport_runs (h : (transport c q).Runs t out) : t = [] ∨ ∃ hops result,
    Chain Url.join (sendOnce (q.options.timeout.getD c.timeout))
      (maxRedirects? c q) 0 (firstRequest c q) hops result ∧
      t.exchanged = Trace.exchanged (hops.flatMap (·.trace)) ∧
      t.statuses = Trace.statuses (hops.flatMap (·.trace)) := by
  unfold transport at h
  split at h
  · exact .inl (Act.pure_runs.mp h).1
  · obtain ⟨t₁, result, t₂, rfl, hexchange, h⟩ := Act.runs_bind.mp h
    have hdelivers : ∀ s ∈ t₂, Delivers s.effect := by
      cases result with
      | ok arrival => exact deliver_confined q arrival t₂ out h
      | error f => exact Act.Confined.bind (report_confined q _) (fun _ => .pure _) t₂ out h
    obtain ⟨hops, hchain, rfl⟩ := exchange_runs hexchange
    refine .inr ⟨hops, result, hchain, filterMap_delivering ?_ hdelivers,
      filterMap_delivering ?_ hdelivers⟩
    · rintro ⟨e, reply⟩ hs
      cases hs <;> rfl
    · rintro ⟨e, reply⟩ hs
      cases hs <;> rfl

/-- A request keeps its method, its body and the fields of it through redirects with the statuses
307 and 308, or through any if it is a `GET` or a `HEAD`. Else the first other redirect makes a
`GET` of it for good, without the body and the fields of it. All other fields are those of the
request, in every request that is sent for it; it names the user agent that is configured, if it
names none and this one can be sent. -/
theorem transport_turns (h : (transport c q).Runs t out) {i : Nat} {wire : WireRequest}
    (hi : t.exchanged[i]? = some wire) :
    ∃ before, t.statuses.take i = before ∧ before.length = i ∧
      (∀ status ∈ before, Redirect.isFollowed status = true) ∧
      wire.method = (if Redirect.Turns q.method before then .get else q.method) ∧
      wire.body = (if Redirect.Turns q.method before then [] else q.body) ∧
      (∀ name, name = "content-type" ∨ name = "content-length" →
        wire.headers.values? name =
          if Redirect.Turns q.method before then none else q.headers.values? name) ∧
      ∀ name, ¬ (name = "content-type" ∨ name = "content-length") →
        wire.headers.values? name = (q.headers.values? name).or
          (if name = "user-agent" then (Header.value? c.userAgent).map fun value => [value]
          else none) := by
  obtain rfl | ⟨hops, result, hchain, hexchanged, hstatuses⟩ := transport_runs h
  · cases hi
  rw [hexchanged] at hi
  rw [hstatuses]
  obtain ⟨before, htake, hlength, hfollowed, hwire⟩ := hchain.eq_after hi
  refine ⟨before, htake, hlength, hfollowed, ?_⟩
  rw [hwire]
  have hmethod : (firstRequest c q).method = q.method := rfl
  unfold WireRequest.after
  rw [hmethod]
  split
  · refine ⟨rfl, rfl, fun name hname => ?_, fun name hname => ?_⟩
    · rw [Headers.values?_bodiless, if_pos hname]
    · rw [Headers.values?_bodiless, if_neg hname, values?_firstRequest]
  · refine ⟨rfl, rfl, fun name hname => ?_, fun name _ => values?_firstRequest c q name⟩
    have hagent : name ≠ "user-agent" := by
      rintro rfl
      revert hname
      decide
    rw [values?_firstRequest, if_neg hagent, Option.or_none]

/-- Redirects with these statuses, one after another, and then an answer. -/
def winding (statuses : List Nat) : Network := fun past _ =>
  .answered <|
    match statuses[past.length]? with
    | some status => .make status ⟨[("location", [Utf8.encode "/next"])]⟩ []
    | none => .ofStatus 200

/-- A request that sends a word. -/
def upload : Request where
  method := .post
  url := ⟨"http", "", "", some (.domain "a.test"), none, .segments ["start"], none, none⟩
  headers := ⟨[("accept", [Utf8.encode "*/*"]), ("content-type", [Utf8.encode "text/plain"])]⟩
  body := Utf8.encode "word"
  options := .empty

theorem transport_turns_winding : ∃ t out kept turned,
    (transport .default upload).Runs t out ∧ t.exchanged[1]? = some kept ∧
      t.exchanged[3]? = some turned ∧
    (kept.method = .post ∧ kept.body = upload.body) ∧
    (turned.method = .get ∧ turned.body = [] ∧ turned.headers.values? "content-type" = none) ∧
    turned.headers.values? "accept" = upload.headers.values? "accept" := by
  let w : World := .initial .default true (winding [307, 303, 308])
  have hrun := w.runs_steps (transport .default upload)
  have hstatuses : (w.steps (transport .default upload)).statuses = [307, 303, 308, 200] := by
    decide +kernel
  have hlength : (w.steps (transport .default upload)).exchanged.length = 4 := by decide +kernel
  obtain ⟨kept, hkept⟩ : ∃ wire, (w.steps (transport .default upload)).exchanged[1]? = some wire :=
    ⟨_, List.getElem?_eq_getElem (by omega)⟩
  obtain ⟨turned, hturned⟩ : ∃ wire,
      (w.steps (transport .default upload)).exchanged[3]? = some wire :=
    ⟨_, List.getElem?_eq_getElem (by omega)⟩
  refine ⟨_, _, kept, turned, hrun, hkept, hturned, ?_, ?_⟩
  · obtain ⟨before, hbefore, -, -, hmethod, hbody, -, -⟩ := transport_turns hrun hkept
    rw [hstatuses] at hbefore
    subst hbefore
    exact ⟨hmethod, hbody⟩
  · obtain ⟨before, hbefore, -, -, hmethod, hbody, hcontent, hothers⟩ :=
      transport_turns hrun hturned
    rw [hstatuses] at hbefore
    subst hbefore
    exact ⟨⟨hmethod, hbody, hcontent _ (.inl rfl)⟩,
      (hothers "accept" (by decide)).trans (by decide)⟩

end Wire

end Courier
