import Courier.Proofs.Effects
import Courier.Proofs.Steps
/-
Chains of redirects. An exchange is a list of hops, each a request that was sent
and what came of it. A redirect leads from one hop to the next as long as
redirects are allowed and the limit is not reached (`Wire.Chain.leads`), and the
last hop alone decides what the exchange results in (`Wire.Ends`). How locations
are read is left open: whatever reads them, the chain asks for what it gives.

The servers answer as they like, so the chains are those of every run; whatever
they answer, there are no more hops than the limit allows
(`Wire.Chain.length_le`).
-/
namespace Courier

/-! ## Requests over connections -/

/-- The request that a step sends over a connection. -/
def Step.exchanged? : Step → Option WireRequest
  | ⟨.exchange wire _, _⟩ => some wire
  | _ => none

/-- The requests that are sent over connections, in order. -/
def Trace.exchanged (t : Trace) : List WireRequest := t.filterMap Step.exchanged?

namespace World

theorem exchanges_answer (w : World) (e : Effect) (reply : e.Reply) :
    (w.answer e).2.exchanges = w.exchanges ++ (Step.exchanged? ⟨e, reply⟩).toList := by
  by_cases h : ∃ wire timeout, e = .exchange wire timeout
  · obtain ⟨wire, timeout, rfl⟩ := h
    rfl
  · have hnone : Step.exchanged? ⟨e, reply⟩ = none := by
      cases e with
      | exchange wire timeout => exact absurd ⟨wire, timeout, rfl⟩ h
      | _ => rfl
    rw [(w.spares_answer e).exchanges fun wire timeout he => h ⟨wire, timeout, he⟩, hnone]
    exact (List.append_nil _).symm

/-- The network gets the requests that an act sends, in order. -/
theorem exchanges_run (w : World) {α : Type} (act : Act α) :
    (w.run act).2.exchanges = w.exchanges ++ (w.steps act).exchanged := by
  induction act generalizing w with
  | done a => exact (List.append_nil _).symm
  | perform e next ih =>
    rw [run, ih, w.exchanges_answer e (w.answer e).1, List.append_assoc, steps, Trace.exchanged,
      Trace.exchanged, List.filterMap_cons]
    cases Step.exchanged? ⟨e, (w.answer e).1⟩ <;> rfl

end World

/-- Whether a failure is that of a redirect that could not be followed. -/
def Failure.isOfRedirect : Failure → Bool
  | .tooManyRedirects _ _ => true
  | .invalidRedirect _ => true
  | .invalidUrl _ => true
  | _ => false

namespace Wire

variable {join : Url → String → Except UrlFlaw Url}

/-! ## Hops -/

/-- A request that was sent, the steps in which that was done, and what came of it. -/
structure Hop where
  request : WireRequest
  trace : Trace
  outcome : Outcome

/-- A hop was answered with a redirect. -/
def Hop.Redirects (hop : Hop) (r : Response) : Prop :=
  hop.outcome = .ok r ∧ Redirect.isFollowed r.status = true

/-- A request goes over a connection at most once, and it does if there is an answer. That it cannot
be sent is no failure of a redirect. -/
theorem sendOnce_runs {timeout : Nat} {w : WireRequest} {t : Trace} {out : Outcome}
    (h : (sendOnce timeout w).Runs t out) :
    (∀ f, out = .error f → f.isOfRedirect = false) ∧
      ((t = [] ∧ ∀ r, out ≠ .ok r) ∨ ∃ reception, t = [⟨.exchange w timeout, reception⟩]) := by
  have hrefused {f : Failure} (hf : f.isOfRedirect = false) (h : Act.Runs (pure (.error f)) t out) :
      (∀ f, out = .error f → f.isOfRedirect = false) ∧
        ((t = [] ∧ ∀ r, out ≠ .ok r) ∨ ∃ reception, t = [⟨.exchange w timeout, reception⟩]) := by
    obtain ⟨rfl, rfl⟩ := Act.pure_runs.mp h
    exact ⟨fun f' heq => Except.error.inj heq ▸ hf, .inl ⟨rfl, by simp⟩⟩
  unfold sendOnce at h
  split at h
  · exact hrefused rfl h
  · exact hrefused rfl h
  · exact hrefused rfl h
  · obtain ⟨t₁, reception, t₂, rfl, h₁, h₂⟩ := Act.runs_bind.mp h
    obtain rfl := Act.effect_runs.mp h₁
    cases reception with
    | answered r =>
      obtain ⟨rfl, rfl⟩ := Act.pure_runs.mp h₂
      exact ⟨by simp, .inr ⟨_, rfl⟩⟩
    | lost failure =>
      obtain ⟨rfl, rfl⟩ := Act.pure_runs.mp h₂
      exact ⟨fun f heq => Except.error.inj heq ▸ rfl, .inr ⟨_, rfl⟩⟩
    | expired =>
      obtain ⟨rfl, rfl⟩ := Act.pure_runs.mp h₂
      refine ⟨fun f heq => ?_, .inr ⟨_, rfl⟩⟩
      obtain rfl := Except.error.inj heq
      split <;> rfl

/-! ## Chains -/

/-- How many redirects of a request are followed, if any are. -/
def maxRedirects? (c : Config) (q : Request) : Option Nat :=
  match q.options.allowRedirects.getD (.follow c.maxRedirects) with
  | .follow max => some max
  | .disabled => none

/-- `Ends join limit? n hop result`: a hop that `n` redirects led to is the last one, and this is
the result. -/
inductive Ends (join : Url → String → Except UrlFlaw Url) (limit? : Option Nat) (n : Nat)
    (hop : Hop) : Except Failure Arrival → Prop
  | failed {f} : hop.outcome = .error f → Ends join limit? n hop (.error f)
  | arrived {r} : hop.outcome = .ok r → Redirect.isFollowed r.status = false ∨ limit? = none →
      Ends join limit? n hop (.ok ⟨r, hop.request.url, n⟩)
  | exhausted {r} :
      hop.Redirects r → limit? = some n → Ends join limit? n hop (.error (.tooManyRedirects n n))
  | broken {r max f} :
      hop.Redirects r → limit? = some max → n < max → Redirect.next join hop.request r = .error f →
      Ends join limit? n hop (.error f)

/-- `Chain join send limit? n w hops result`: the hops from the request `w` on, which `n` redirects
led to. -/
inductive Chain (join : Url → String → Except UrlFlaw Url) (send : WireRequest → Act Outcome)
    (limit? : Option Nat) :
    (n : Nat) → WireRequest → List Hop → Except Failure Arrival → Prop
  | last {n w t out result} : (send w).Runs t out → Ends join limit? n ⟨w, t, out⟩ result →
      Chain join send limit? n w [⟨w, t, out⟩] result
  | followed {n w t out r max w' hops result} : (send w).Runs t out → Hop.Redirects ⟨w, t, out⟩ r →
      limit? = some max → n < max → Redirect.next join w r = .ok w' →
        Chain join send limit? (n + 1) w' hops result →
      Chain join send limit? n w (⟨w, t, out⟩ :: hops) result

section

variable {send : WireRequest → Act Outcome} {n max left : Nat} {w : WireRequest} {t : Trace}
  {result : Except Failure Arrival}

/-- A hop that ends the exchange is a chain of its own. -/
theorem exists_chain {limit? : Option Nat} {out : Outcome} (hsend : (send w).Runs t out)
    (hend : Ends join limit? n ⟨w, t, out⟩ result) :
    ∃ hops, Chain join send limit? n w hops result ∧
      t ++ [] = hops.flatMap (·.trace) :=
  ⟨_, .last hsend hend, by simp⟩

/-- A round of the loop: the request is sent, and that ends the exchange or a redirect leads on. -/
theorem follow_step (hleft : n + left = max) (h : (follow join send max left w).Runs t result) :
    ∃ t₁ out t₂, t = t₁ ++ t₂ ∧ (send w).Runs t₁ out ∧
      ((t₂ = [] ∧ Ends join (some max) n ⟨w, t₁, out⟩ result) ∨
        ∃ left' r w', left = left' + 1 ∧ Hop.Redirects ⟨w, t₁, out⟩ r ∧
          Redirect.next join w r = .ok w' ∧
          (follow join send max left' w').Runs t₂ result) := by
  rw [follow.eq_def] at h
  obtain ⟨t₁, out, t₂, rfl, hsend, h⟩ := Act.runs_bind.mp h
  refine ⟨t₁, out, t₂, rfl, hsend, ?_⟩
  cases out with
  | error f =>
    obtain ⟨rfl, rfl⟩ := Act.pure_runs.mp h
    exact .inl ⟨rfl, .failed rfl⟩
  | ok r =>
    dsimp only at h
    split at h
    · next hstatus =>
      obtain ⟨rfl, rfl⟩ := Act.pure_runs.mp h
      obtain rfl : max - left = n := by omega
      exact .inl ⟨rfl, .arrived rfl (.inl (by simpa using hstatus))⟩
    · next hstatus =>
      have hredirects : Hop.Redirects ⟨w, t₁, .ok r⟩ r := ⟨rfl, by simpa using hstatus⟩
      cases left with
      | zero =>
        obtain ⟨rfl, rfl⟩ := Act.pure_runs.mp h
        obtain rfl : n = max := hleft
        exact .inl ⟨rfl, .exhausted hredirects rfl⟩
      | succ left =>
        cases hnext : Redirect.next join w r with
        | error f =>
          rw [hnext] at h
          obtain ⟨rfl, rfl⟩ := Act.pure_runs.mp h
          exact .inl ⟨rfl, .broken hredirects rfl (by omega) hnext⟩
        | ok w' =>
          rw [hnext] at h
          exact .inr ⟨left, r, w', rfl, hredirects, hnext, h⟩

/-- Following redirects makes a chain. -/
theorem follow_runs (hleft : n + left = max) (h : (follow join send max left w).Runs t result) :
    ∃ hops, Chain join send (some max) n w hops result ∧ t = hops.flatMap (·.trace) := by
  induction left using Nat.strongRecOn generalizing n w t with
  | ind left ih =>
    obtain ⟨t₁, out, t₂, rfl, hsend, ⟨rfl, hend⟩ | ⟨left', r, w', rfl, hredirects, hnext, h⟩⟩ :=
      follow_step hleft h
    · exact exists_chain hsend hend
    · obtain ⟨hops, hchain, rfl⟩ := ih left' (by omega) (n := n + 1) (by omega) h
      exact ⟨_, .followed hsend hredirects rfl (by omega) hnext hchain, by simp⟩

theorem exchange_runs {c : Config} {q : Request} (h : (exchange join c q).Runs t result) :
    ∃ hops, Chain join (sendOnce (q.options.timeout.getD c.timeout))
      (maxRedirects? c q) 0 (firstRequest c q) hops result ∧ t = hops.flatMap (·.trace) := by
  unfold exchange at h
  unfold maxRedirects?
  cases hredirects : q.options.allowRedirects.getD (.follow c.maxRedirects) with
  | follow max =>
    rw [hredirects] at h
    exact follow_runs (Nat.zero_add max) h
  | disabled =>
    rw [hredirects] at h
    obtain ⟨t₁, out, t₂, rfl, hsend, h⟩ := Act.runs_bind.mp h
    cases out with
    | error f =>
      obtain ⟨rfl, rfl⟩ := Act.pure_runs.mp h
      exact exists_chain hsend (.failed rfl)
    | ok r =>
      obtain ⟨rfl, rfl⟩ := Act.pure_runs.mp h
      exact exists_chain hsend (.arrived rfl (.inr rfl))

end

/-! ## Where a redirect leads -/

section

variable {w w' : WireRequest} {r : Response} {f : Failure}

theorem next_ok (h : Redirect.next join w r = .ok w') :
    ∃ location, r.header? "location" = some location ∧ join w.url location = .ok w'.url := by
  unfold Redirect.next at h
  split at h
  · cases h
  · next location hlocation =>
    refine ⟨location, hlocation, ?_⟩
    split at h
    · cases h
    · next url hurl =>
      dsimp only at h
      split at h <;> obtain rfl := Except.ok.inj h <;> exact hurl

theorem exists_next : (∃ w', Redirect.next join w r = .ok w') ↔
    ∃ location url, r.header? "location" = some location ∧ join w.url location = .ok url := by
  constructor
  · rintro ⟨w', h⟩
    obtain ⟨location, hlocation, hurl⟩ := next_ok h
    exact ⟨location, w'.url, hlocation, hurl⟩
  · rintro ⟨location, url, hlocation, hurl⟩
    simp only [Redirect.next, hlocation, hurl]
    split <;> exact ⟨_, rfl⟩

theorem next_error : Redirect.next join w r = .error f ↔
    (r.header? "location" = none ∧
      f = .invalidRedirect "redirect response missing Location header") ∨
      ∃ location flaw, r.header? "location" = some location ∧ join w.url location = .error flaw ∧
        f = .invalidUrl flaw := by
  unfold Redirect.next
  cases r.header? "location" with
  | none => simp [eq_comm]
  | some location =>
    cases hurl : join w.url location with
    | error flaw => simp [hurl, eq_comm]
    | ok url =>
      simp only [hurl]
      split <;> simp [hurl]

end

/-! ## Hop by hop -/

variable {send : WireRequest → Act Outcome} {limit? : Option Nat} {n : Nat} {w : WireRequest}
  {hops : List Hop} {hop : Hop} {result : Except Failure Arrival}

/-- `hop.Leads join limit? n w`: a hop that `n` redirects led to leads on to the request. -/
def Hop.Leads (join : Url → String → Except UrlFlaw Url) (limit? : Option Nat) (n : Nat) (hop : Hop)
    (w : WireRequest) : Prop :=
  ∃ max r, limit? = some max ∧ n < max ∧ hop.Redirects r ∧ Redirect.next join hop.request r = .ok w

theorem Hop.Redirects.eq {r r' : Response} (h : hop.Redirects r) (h' : hop.Redirects r') : r = r' :=
  Except.ok.inj (h.1.symm.trans h'.1)

/-- The last hop leads nowhere. -/
theorem Ends.not_leads (h : Ends join limit? n hop result) : ¬ hop.Leads join limit? n w := by
  rintro ⟨max, r, hmax, hlt, hredirects, hnext⟩
  cases h with
  | failed hf => exact absurd (hf.symm.trans hredirects.1) (by simp)
  | @arrived r' hr hend =>
    obtain rfl := Except.ok.inj (hr.symm.trans hredirects.1)
    rcases hend with hstatus | hnone
    · exact absurd (hstatus.symm.trans hredirects.2) (by simp)
    · exact absurd (hnone.symm.trans hmax) (by simp)
  | exhausted _ hn =>
    obtain rfl := Option.some.inj (hn.symm.trans hmax)
    omega
  | broken hr _ _ hf =>
    obtain rfl := hr.eq hredirects
    exact absurd (hf.symm.trans hnext) (by simp)

namespace Chain

theorem first (h : Chain join send limit? n w hops result) :
    hops.head?.map (·.request) = some w := by
  cases h <;> rfl

theorem length_pos (h : Chain join send limit? n w hops result) : 0 < hops.length := by
  cases h <;> exact Nat.zero_lt_succ _

theorem sent (h : Chain join send limit? n w hops result) :
    ∀ hop ∈ hops, (send hop.request).Runs hop.trace hop.outcome := by
  induction h with
  | last hsend _ => exact List.forall_mem_singleton.mpr hsend
  | followed hsend _ _ _ _ _ ih => exact List.forall_mem_cons.mpr ⟨hsend, ih⟩

theorem ends (h : Chain join send limit? n w hops result) :
    ∃ last, hops.getLast? = some last ∧ Ends join limit? (n + (hops.length - 1)) last result := by
  induction h with
  | last _ hend => exact ⟨_, rfl, hend⟩
  | @followed n w t out r max w' hops result _ _ _ _ _ hchain ih =>
    obtain ⟨last, hlast, hend⟩ := ih
    have hpos := hchain.length_pos
    have hlength : n + ((⟨w, t, out⟩ :: hops).length - 1) = n + 1 + (hops.length - 1) := by
      rw [List.length_cons]
      omega
    exact ⟨last, by rw [List.getLast?_cons, hlast]; rfl, hlength ▸ hend⟩

/-- One hop follows another exactly where that one leads, and it is the request that it leads to. -/
theorem leads (h : Chain join send limit? n w hops result) {i : Nat} (hi : hops[i]? = some hop)
    (w' : WireRequest) :
    hop.Leads join limit? (n + i) w' ↔ ∃ next, hops[i + 1]? = some next ∧ next.request = w' := by
  induction h generalizing i with
  | last _ hend =>
    obtain ⟨rfl, rfl⟩ : i = 0 ∧ _ = hop := by simpa [List.getElem?_cons] using hi
    simpa using hend.not_leads
  | @followed n w t out r max w'' hops result _ hredirects hmax hlt hnext hchain ih =>
    cases i with
    | succ i =>
      have hrest := ih (i := i) (by simpa using hi)
      rwa [Nat.add_right_comm] at hrest
    | zero =>
      obtain rfl := Option.some.inj hi
      have hfirst : hops[0]?.map (·.request) = some w'' := by
        rw [← List.head?_eq_getElem?, hchain.first]
      constructor
      · rintro ⟨max', r', -, -, hredirects', hnext'⟩
        obtain rfl := hredirects.eq hredirects'
        obtain rfl : w'' = w' := Except.ok.inj (hnext.symm.trans hnext')
        exact Option.map_eq_some_iff.mp hfirst
      · rintro ⟨next, hget, rfl⟩
        obtain rfl : next.request = w'' := by
          simpa [show hops[0]? = some next from hget] using hfirst
        exact ⟨max, r, hmax, hlt, hredirects, hnext⟩

theorem length_le (h : Chain join send limit? n w hops result) :
    hops.length + n ≤ max n (limit?.getD 0) + 1 := by
  induction h with
  | last _ _ =>
    rw [List.length_singleton]
    omega
  | followed _ _ hmax hlt _ _ ih =>
    rw [hmax, Option.getD_some] at ih ⊢
    rw [List.length_cons]
    omega

end Chain

/-! ## What goes over connections -/

section

variable {timeout : Nat} {t : Trace} {out : Outcome}

theorem exchanged_sendOnce (h : (sendOnce timeout w).Runs t out) :
    t.exchanged <+: [w] ∧ ∀ r, out = .ok r → t.exchanged = [w] := by
  obtain ⟨-, ⟨rfl, hnone⟩ | ⟨reception, rfl⟩⟩ := sendOnce_runs h
  · exact ⟨List.nil_prefix, fun r hr => absurd hr (hnone r)⟩
  · exact ⟨List.prefix_rfl, fun _ _ => rfl⟩

theorem exchanged_append (t t' : Trace) : Trace.exchanged (t ++ t') = t.exchanged ++ t'.exchanged :=
  List.filterMap_append

/-- The requests of a chain go over connections in order; at most the last one does not. -/
theorem Chain.exchanged_initial (h : Chain join (sendOnce timeout) limit? n w hops result) :
    Trace.exchanged (hops.flatMap (·.trace)) <+: hops.map (·.request) := by
  induction h with
  | last hsend _ => simpa using (exchanged_sendOnce hsend).1
  | followed hsend hredirects _ _ _ _ ih =>
    rw [List.flatMap_cons, exchanged_append, (exchanged_sendOnce hsend).2 _ hredirects.1]
    exact List.prefix_cons_inj _ |>.mpr ih

theorem Chain.exchanged_eq (h : Chain join (sendOnce timeout) limit? n w hops result) {last : Hop}
    {r : Response} (hlast : hops.getLast? = some last) (hr : last.outcome = .ok r) :
    Trace.exchanged (hops.flatMap (·.trace)) = hops.map (·.request) := by
  induction h with
  | last hsend _ =>
    obtain rfl := Option.some.inj hlast
    simpa using (exchanged_sendOnce hsend).2 r hr
  | followed hsend hredirects _ _ _ hchain ih =>
    obtain ⟨last', hlast', -⟩ := hchain.ends
    have heq : last' = last := by simpa [List.getLast?_cons, hlast'] using hlast
    rw [List.flatMap_cons, exchanged_append, (exchanged_sendOnce hsend).2 _ hredirects.1,
      ih (heq ▸ hlast')]
    rfl

end

/-! ## Exchanges -/

/-- The hops that an exchange consists of, and its steps. -/
structure Linked (join : Url → String → Except UrlFlaw Url) (c : Config) (q : Request)
    (hops : List Hop) (t : Trace) : Prop where
  first : hops.head?.map (·.request) = some (firstRequest c q)
  sent : ∀ hop ∈ hops, (sendOnce (q.options.timeout.getD c.timeout) hop.request).Runs
    hop.trace hop.outcome
  steps : t = hops.flatMap (·.trace)
  /-- The hops are what goes over connections, but that the last request may fail before it does. -/
  exchanged : t.exchanged <+: hops.map (·.request)
  bounded : hops.length ≤ (maxRedirects? c q).getD 0 + 1
  /-- Another hop follows exactly if the one before was answered with a redirect within the limit to
  a location that can be read and joined. -/
  continues : ∀ i hop, hops[i]? = some hop → (i + 1 < hops.length ↔ ∃ max r location url,
    maxRedirects? c q = some max ∧ i < max ∧ hop.Redirects r ∧
      r.header? "location" = some location ∧
      join hop.request.url location = .ok url)
  /-- It asks for that location. -/
  follows : ∀ i hop next, hops[i]? = some hop → hops[i + 1]? = some next → ∃ r location,
    hop.Redirects r ∧ r.header? "location" = some location ∧
      join hop.request.url location = .ok next.request.url ∧
        Redirect.next join hop.request r = .ok next.request

/-- What an exchange of so many hops results in, by the last one of them. -/
structure Concluded (join : Url → String → Except UrlFlaw Url) (max? : Option Nat) (hops : Nat)
    (last : Hop) (result : Except Failure Arrival) : Prop where
  arrived : ∀ a, result = .ok a ↔ ∃ r, last.outcome = .ok r ∧
    (Redirect.isFollowed r.status = false ∨ max? = none) ∧ a = ⟨r, last.request.url, hops - 1⟩
  exhausted : ∀ count max, result = .error (.tooManyRedirects count max) ↔
    max? = some max ∧ count = max ∧ hops = max + 1 ∧ ∃ r, last.Redirects r
  astray : ∀ message, result = .error (.invalidRedirect message) ↔
    message = "redirect response missing Location header" ∧
      ∃ max r, max? = some max ∧ hops ≤ max ∧ last.Redirects r ∧ r.header? "location" = none
  unjoined : ∀ flaw, result = .error (.invalidUrl flaw) ↔ ∃ max r location,
    max? = some max ∧ hops ≤ max ∧ last.Redirects r ∧ r.header? "location" = some location ∧
      join last.request.url location = .error flaw
  failed : ∀ f, (result = .error f ∧ f.isOfRedirect = false) ↔ last.outcome = .error f

section

variable {c : Config} {q : Request} {last : Hop}

theorem Chain.linked
    (h : Chain join (sendOnce (q.options.timeout.getD c.timeout)) (maxRedirects? c q) 0
      (firstRequest c q) hops result) :
    Linked join c q hops (hops.flatMap (·.trace)) where
  first := h.first
  sent := h.sent
  steps := rfl
  exchanged := h.exchanged_initial
  bounded := by simpa using h.length_le
  continues := by
    intro i hop hi
    have hleads := h.leads hi
    rw [Nat.zero_add] at hleads
    constructor
    · intro hlt
      obtain ⟨max, r, hmax, hi', hredirects, hnext⟩ :=
        (hleads _).mpr ⟨_, List.getElem?_eq_getElem hlt, rfl⟩
      obtain ⟨location, hlocation, hurl⟩ := next_ok hnext
      exact ⟨max, r, location, _, hmax, hi', hredirects, hlocation, hurl⟩
    · rintro ⟨max, r, location, url, hmax, hi', hredirects, hlocation, hurl⟩
      obtain ⟨w', hnext⟩ := exists_next.mpr ⟨location, url, hlocation, hurl⟩
      obtain ⟨next, hget, -⟩ := (hleads w').mp ⟨max, r, hmax, hi', hredirects, hnext⟩
      exact (List.getElem?_eq_some_iff.mp hget).1
  follows := by
    intro i hop next hi hnext
    obtain ⟨max, r, -, -, hredirects, hw⟩ := (h.leads hi next.request).mpr ⟨next, hnext, rfl⟩
    obtain ⟨location, hlocation, hurl⟩ := next_ok hw
    exact ⟨r, location, hredirects, hlocation, hurl, hw⟩

theorem isOfRedirect_next {w : WireRequest} {r : Response} {f : Failure}
    (h : Redirect.next join w r = .error f) :
    f.isOfRedirect = true := by
  obtain ⟨-, rfl⟩ | ⟨_, _, -, -, rfl⟩ := next_error.mp h <;> rfl

/-- The last hop leaves no choice. -/
theorem Ends.unique {result' : Except Failure Arrival} (h : Ends join limit? n hop result)
    (h' : Ends join limit? n hop result') : result = result' := by
  cases h <;> cases h' <;> simp_all [Hop.Redirects]

theorem Ends.concluded (h : Ends join limit? n last result)
    (hfails : ∀ f, last.outcome = .error f → f.isOfRedirect = false) :
    Concluded join limit? (n + 1) last result where
  arrived := by
    intro a
    constructor
    · rintro rfl
      cases h with
      | arrived hr hend => exact ⟨_, hr, hend, rfl⟩
    · rintro ⟨r, hr, hend, rfl⟩
      exact h.unique (.arrived hr hend)
  exhausted := by
    intro count max
    constructor
    · rintro rfl
      cases h with
      | failed hf => exact absurd (hfails _ hf) (by simp [Failure.isOfRedirect])
      | exhausted hredirects hmax => exact ⟨hmax, rfl, rfl, _, hredirects⟩
      | broken _ _ _ hnext => simp [next_error] at hnext
    · rintro ⟨hmax, rfl, heq, r, hredirects⟩
      obtain rfl := Nat.succ.inj heq
      exact h.unique (.exhausted hredirects hmax)
  astray := by
    intro message
    constructor
    · rintro rfl
      cases h with
      | failed hf => exact absurd (hfails _ hf) (by simp [Failure.isOfRedirect])
      | @broken r max _ hredirects hmax hlt hnext =>
        obtain ⟨hlocation, heq⟩ | ⟨_, _, -, -, heq⟩ := next_error.mp hnext
        · exact ⟨Failure.invalidRedirect.inj heq, max, r, hmax, hlt, hredirects, hlocation⟩
        · cases heq
    · rintro ⟨rfl, max, r, hmax, hlt, hredirects, hlocation⟩
      exact h.unique (.broken hredirects hmax hlt (next_error.mpr (.inl ⟨hlocation, rfl⟩)))
  unjoined := by
    intro flaw
    constructor
    · rintro rfl
      cases h with
      | failed hf => exact absurd (hfails _ hf) (by simp [Failure.isOfRedirect])
      | @broken r max _ hredirects hmax hlt hnext =>
        obtain ⟨-, heq⟩ | ⟨location, flaw', hlocation, hjoin, heq⟩ := next_error.mp hnext
        · cases heq
        · obtain rfl := Failure.invalidUrl.inj heq
          exact ⟨max, r, location, hmax, hlt, hredirects, hlocation, hjoin⟩
    · rintro ⟨max, r, location, hmax, hlt, hredirects, hlocation, hjoin⟩
      exact h.unique (.broken hredirects hmax hlt
        (next_error.mpr (.inr ⟨location, flaw, hlocation, hjoin, rfl⟩)))
  failed := by
    intro f
    constructor
    · rintro ⟨rfl, hf⟩
      cases h with
      | failed hout => exact hout
      | exhausted _ _ => exact absurd hf (by simp [Failure.isOfRedirect])
      | broken _ _ _ hnext => exact absurd (hf.symm.trans (isOfRedirect_next hnext)) (by simp)
    · intro hout
      exact ⟨h.unique (.failed hout), hfails f hout⟩

end

/-- Whatever the servers answer and however locations are read, an exchange comes to its end, and it
is a chain of hops in which each redirect within the limit is followed, and nothing else is. Its
result is that of the last hop: the response of it with the redirects before it, that too many
redirects followed one another, that the redirect leads nowhere, or that it could not be sent. -/
theorem exchange_follows (join : Url → String → Except UrlFlaw Url) (c : Config) (q : Request) :
    (∀ w : World, (exchange join c q).Runs (w.steps (exchange join c q))
        (w.run (exchange join c q)).1 ∧
      (w.run (exchange join c q)).2.exchanges =
        w.exchanges ++ (w.steps (exchange join c q)).exchanged) ∧
    ∀ t result, (exchange join c q).Runs t result → ∃ hops last, hops.getLast? = some last ∧
      Linked join c q hops t ∧
      Concluded join (maxRedirects? c q) hops.length last result ∧
      t.exchanged.length ≤ (maxRedirects? c q).getD 0 + 1 ∧
      ∀ a, result = .ok a → t.exchanged.length = a.redirects + 1 ∧
        t.exchanged.getLast?.map (·.url) = some a.url := by
  refine ⟨fun w => ⟨w.runs_steps _, w.exchanges_run _⟩, fun t result h => ?_⟩
  obtain ⟨hops, hchain, rfl⟩ := exchange_runs h
  obtain ⟨last, hlast, hend⟩ := hchain.ends
  have hpos := hchain.length_pos
  have hlength : 0 + (hops.length - 1) + 1 = hops.length := by omega
  have hlinked := hchain.linked
  have hfails : ∀ f, last.outcome = .error f → f.isOfRedirect = false :=
    (sendOnce_runs (hlinked.sent last (List.mem_of_getLast? hlast))).1
  have hconcluded := hend.concluded hfails
  rw [hlength] at hconcluded
  refine ⟨hops, last, hlast, hlinked, hconcluded, ?_, ?_⟩
  · have hsent := hlinked.exchanged.length_le
    rw [List.length_map] at hsent
    exact Nat.le_trans hsent hlinked.bounded
  · rintro a ha
    obtain ⟨r, hr, -, rfl⟩ := (hconcluded.arrived a).mp ha
    rw [hchain.exchanged_eq hlast hr, List.length_map, List.getLast?_map, hlast]
    exact ⟨by dsimp only; omega, rfl⟩

/-- So many redirects to a location, and then an answer. -/
def detour (location : String) (n : Nat) : Network := fun past _ =>
  .answered <|
    if past.length < n then .make 302 ⟨[("location", [Utf8.encode location])]⟩ []
    else .ofStatus 200

/-- Reads a location whose host is in another script, and all others as the bundled transport
does. -/
def joinAbroad (u : Url) (location : String) : Except UrlFlaw Url :=
  if location = "http://m%C3%BCnchen.de/" then
    .ok ⟨"http", "", "", some (.domain "xn--mnchen-3ya.de"), none, .segments [""], none, none⟩
  else u.join location

/-- A request with a limit of its own. -/
def visit (max : Nat) : Request where
  method := .get
  url := ⟨"http", "", "", some (.domain "a.test"), none, .segments ["start"], none, none⟩
  headers := .empty
  body := []
  options := { Options.empty with allowRedirects := some (.follow max) }

/-- The redirects that were followed before an exchange gave up, and its limit. -/
def exceeded? : Except Failure Arrival → Option (Nat × Nat)
  | .error (.tooManyRedirects count max) => some (count, max)
  | _ => none

theorem exceeded?_eq_some {count max : Nat} (h : exceeded? result = some (count, max)) :
    result = .error (.tooManyRedirects count max) := by
  unfold exceeded? at h
  split at h
  · obtain ⟨rfl, rfl⟩ := Prod.mk.inj (Option.some.inj h)
    rfl
  · cases h

theorem exists_arrival {α : Type} {f : Arrival → α} {x : α} (h : result.toOption.map f = some x) :
    ∃ a, result = .ok a ∧ f a = x := by
  cases result with
  | error failure => cases h
  | ok a => exact ⟨a, rfl, Option.some.inj h⟩

theorem exchange_follows_detour :
    (∃ t a hops, (exchange Url.join .default (visit 2)).Runs t (.ok a) ∧
      Linked Url.join .default (visit 2) hops t ∧ hops.length = 3 ∧ a.redirects = 2) ∧
    (∃ t hops, ∃ last : Hop, (exchange Url.join .default (visit 1)).Runs t
      (.error (.tooManyRedirects 1 1)) ∧
      Linked Url.join .default (visit 1) hops t ∧ hops.length = 2 ∧ hops.getLast? = some last ∧
      ∃ r, last.Redirects r) ∧
    ∃ t a hops, (exchange joinAbroad .default (visit 1)).Runs t (.ok a) ∧
      Linked joinAbroad .default (visit 1) hops t ∧ hops.length = 2 ∧
      a.url.host = some (.domain "xn--mnchen-3ya.de") := by
  let w : World := .initial .default true (detour "/next" 2)
  refine ⟨?_, ?_, ?_⟩
  · obtain ⟨hworlds, hruns⟩ := exchange_follows Url.join .default (visit 2)
    have htwice : (w.run (exchange Url.join .default (visit 2))).1.toOption.map (·.redirects) =
        some 2 := by
      decide +kernel
    obtain ⟨a, hresult, hredirects⟩ := exists_arrival htwice
    have hrun := (hworlds w).1
    rw [hresult] at hrun
    obtain ⟨hops, last, hlast, hlinked, hconcluded, -, -⟩ := hruns _ _ hrun
    obtain ⟨r, -, -, rfl⟩ := (hconcluded.arrived a).mp rfl
    exact ⟨_, _, hops, hrun, hlinked, by dsimp only at hredirects; omega, hredirects⟩
  · obtain ⟨hworlds, hruns⟩ := exchange_follows Url.join .default (visit 1)
    have hlimit : exceeded? (w.run (exchange Url.join .default (visit 1))).1 = some (1, 1) := by
      decide +kernel
    have hrun := (hworlds w).1
    rw [exceeded?_eq_some hlimit] at hrun
    obtain ⟨hops, last, hlast, hlinked, hconcluded, -, -⟩ := hruns _ _ hrun
    obtain ⟨-, -, hlength, hredirects⟩ := (hconcluded.exhausted 1 1).mp rfl
    exact ⟨_, hops, last, hrun, hlinked, hlength, hlast, hredirects⟩
  · let abroad : World := .initial .default true (detour "http://m%C3%BCnchen.de/" 1)
    obtain ⟨hworlds, hruns⟩ := exchange_follows joinAbroad .default (visit 1)
    have hthere : (abroad.run (exchange joinAbroad .default (visit 1))).1.toOption.map
        (fun a => (a.redirects, a.url.host)) = some (1, some (.domain "xn--mnchen-3ya.de")) := by
      decide +kernel
    obtain ⟨a, hresult, hthere⟩ := exists_arrival hthere
    obtain ⟨hredirects, hhost⟩ := Prod.mk.inj hthere
    have hrun := (hworlds abroad).1
    rw [hresult] at hrun
    obtain ⟨hops, last, hlast, hlinked, hconcluded, -, -⟩ := hruns _ _ hrun
    obtain ⟨r, -, -, rfl⟩ := (hconcluded.arrived a).mp rfl
    exact ⟨_, _, hops, hrun, hlinked, by dsimp only at hredirects; omega, hhost⟩

end Wire

end Courier
