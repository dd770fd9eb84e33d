import Courier.Client
import Courier.Proofs.Reshaping
/-
What goes along with a request on its way through redirects. Redirects drop the
fields that describe the body, and no others, so what authorizes a request, its
`authorization` and its `cookie` field, is in every request of the chain as it
was in the first one (`Wire.exchanged_carries`), whichever server that goes to.
-/
namespace Courier

/-! ## Fields that authorize -/

namespace Headers

/-- The values by which a request is authorized, under either name. -/
def credentials (h : Headers) : List Bytes × List Bytes :=
  (h.getAll "Authorization", h.getAll "Cookie")

theorem credentials_eq (h : Headers) :
    h.credentials = (h.valuesOf "authorization", h.valuesOf "cookie") := by
  have hauthorization : Header.name? "Authorization" = some "authorization" := by decide
  have hcookie : Header.name? "Cookie" = some "cookie" := by decide
  rw [credentials, getAll, getAll, hauthorization, hcookie]

/-- What authorizes a request is in the fields under these two names. -/
theorem credentials_congr {h h' : Headers}
    (hauthorization : h.values? "authorization" = h'.values? "authorization")
    (hcookie : h.values? "cookie" = h'.values? "cookie") : h.credentials = h'.credentials := by
  simp only [credentials_eq, valuesOf_eq, hauthorization, hcookie]

theorem credentials_bodiless (h : Headers) : h.bodiless.credentials = h.credentials :=
  credentials_congr (values?_bodiless h _) (values?_bodiless h _)

end Headers

/-- The URLs name the same host and port. -/
def Url.SameServer (u v : Url) : Prop := u.host = v.host ∧ u.effectivePort = v.effectivePort

instance (u v : Url) : Decidable (u.SameServer v) := inferInstanceAs (Decidable (_ ∧ _))

namespace Wire

variable {c : Config} {q : Request} {t : Trace} {out : Outcome}

/-! ## Along a chain -/

/-- However it is redirected, a request is authorized as before. -/
theorem credentials_after (w : WireRequest) (statuses : List Nat) (url : Url) :
    (w.after statuses url).headers.credentials = w.headers.credentials := by
  unfold WireRequest.after
  split
  · exact Headers.credentials_bodiless _
  · rfl

theorem credentials_firstRequest (c : Config) (q : Request) :
    (firstRequest c q).headers.credentials = q.headers.credentials :=
  Headers.credentials_congr ((values?_firstRequest c q _).trans Option.or_none)
    ((values?_firstRequest c q _).trans Option.or_none)

/-- What is sent is sent for the request: it comes first, and all that follows is authorized as it
is. -/
theorem exchanged_carries (h : (transport c q).Runs t out) :
    (∀ wire ∈ t.exchanged, wire.headers.credentials = q.headers.credentials) ∧
      ∀ wire ∈ t.exchanged.head?, wire = firstRequest c q := by
  obtain rfl | ⟨hops, result, hchain, hexchanged, -⟩ := transport_runs h
  · simp [Trace.exchanged]
  rw [hexchanged]
  constructor
  · intro wire hmem
    obtain ⟨i, hi⟩ := List.mem_iff_getElem?.mp hmem
    obtain ⟨before, -, -, -, hwire⟩ := hchain.eq_after hi
    rw [hwire, credentials_after, credentials_firstRequest]
  · intro wire hmem
    obtain ⟨rest, hrest⟩ := hchain.exchanged_initial
    have hhead : (hops.map (·.request)).head? = some wire := by
      rw [← hrest, List.head?_append, Option.mem_def.mp hmem]
      rfl
    rw [List.head?_map, hchain.first] at hhead
    exact (Option.some.inj hhead).symm

/-- What authorizes a request goes along with it through all redirects: every request that the
transport sends for it has the same credentials, whichever server the redirect leads to. So they
stay with the server that they were meant for exactly when no redirect leads away from it. -/
theorem transport_carries (c : Config) (q : Request) :
    (∀ t out, (transport c q).Runs t out →
      (∀ wire ∈ t.exchanged.head?, wire.url = q.url) ∧
      (∀ wire ∈ t.exchanged, wire.headers.credentials = q.headers.credentials) ∧
      (q.headers.credentials ≠ ([], []) →
        ((∀ wire ∈ t.exchanged, ¬ wire.url.SameServer q.url → wire.headers.credentials = ([], [])) ↔
          ∀ wire ∈ t.exchanged, wire.url.SameServer q.url))) ∧
    ∀ w : World, ∃ sent, (w.run (transport c q)).2.exchanges = w.exchanges ++ sent ∧
      ∀ wire ∈ sent, wire.headers.credentials = q.headers.credentials := by
  constructor
  · intro t out h
    obtain ⟨hcarries, hfirst⟩ := exchanged_carries h
    refine ⟨fun wire hmem => hfirst wire hmem ▸ rfl, hcarries, fun hsome => ?_⟩
    constructor
    · intro hconfined wire hmem
      refine Decidable.byContradiction fun haway => ?_
      exact hsome (hcarries wire hmem ▸ hconfined wire hmem haway)
    · intro hstays wire hmem haway
      exact absurd (hstays wire hmem) haway
  · intro w
    exact ⟨_, w.exchanges_run _, (exchanged_carries (w.runs_steps _)).1⟩

/-- A server that sends every request on to the same host at another port. -/
def elsewhere : Network := fun _ _ =>
  .answered (.make 302 ⟨[("location", [Utf8.encode "http://wire.test:8081/next"])]⟩ [])

/-- A request with a token and a cookie. -/
def authorized : Except Failure Request :=
  let d :=
    (((Client.new ⟨fun _ => pure (.ok (.ofStatus 200)), false⟩ false).request.1.withToken
      "secret").withCookies
    [("sid", "1")]).withRedirects (.follow 1)
  Request.build "" .get "http://wire.test/start" d.options

/-- The second request goes to another port, and is authorized. -/
theorem exists_elsewhere : ∃ q t out, authorized = .ok q ∧ (transport .default q).Runs t out ∧
    ∃ wire ∈ t.exchanged, ¬ wire.url.SameServer q.url ∧ wire.headers.credentials ≠ ([], []) := by
  let w : World := .initial .default true elsewhere
  have hsent : (match authorized with
      | .ok q => decide (∃ wire ∈ (w.run (transport .default q)).2.exchanges,
          ¬ wire.url.SameServer q.url ∧ wire.headers.credentials ≠ ([], []))
      | .error _ => false) = true := by decide +kernel
  split at hsent
  · next q hq =>
    obtain ⟨wire, hmem, haway, hsome⟩ := of_decide_eq_true hsent
    rw [w.exchanges_run] at hmem
    exact ⟨q, _, _, hq, w.runs_steps _, wire, hmem, haway, hsome⟩
  · cases hsent

theorem transport_carries_elsewhere :
    ∃ q t out, authorized = .ok q ∧ (transport .default q).Runs t out ∧
    q.headers.credentials ≠ ([], []) ∧
    ∃ wire ∈ t.exchanged, ¬ wire.url.SameServer q.url ∧
      wire.headers.credentials = q.headers.credentials := by
  obtain ⟨q, t, out, hq, h, wire, hmem, haway, hsome⟩ := exists_elsewhere
  obtain ⟨hruns, -⟩ := transport_carries .default q
  obtain ⟨-, hcarries, -⟩ := hruns t out h
  exact ⟨q, t, out, hq, h, hcarries wire hmem ▸ hsome, wire, hmem, haway, hcarries wire hmem⟩

theorem not_transport_confines : ¬ ∀ (c : Config) (q : Request) t out, (transport c q).Runs t out →
    ∀ wire ∈ t.exchanged, ¬ wire.url.SameServer q.url → wire.headers.credentials = ([], []) := by
  intro h
  obtain ⟨q, t, out, -, hruns, wire, hmem, haway, hsome⟩ := exists_elsewhere
  exact hsome (h .default q t out hruns wire hmem haway)

end Wire

end Courier
