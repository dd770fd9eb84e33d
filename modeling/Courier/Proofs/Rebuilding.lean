import Courier.Client
import Courier.Proofs.Boundary
import Courier.Proofs.Interleaving
import Courier.Proofs.Retrying
/-
From what the attempts of a dispatch are built, while its draft is used
further and other dispatches are under way. A dispatch is a snapshot of the
draft; each attempt is built from the options as the retry test left them
after the one before, and from nothing else.

Drafts and dispatches are determined by the calls alone (`Draft.after`,
`Draft.dispatches`), whatever happens to the requests meanwhile: what a retry
test writes stays in its dispatch.
-/
namespace Courier

namespace Dispatch

variable {d : Dispatch} {o : Options} {p p' : Progress} {rounds : List Round}

/-- `d.Made o stamp r`: the attempt of a round is made from the options `o`, with the boundary that
has this stamp. If no request can be built from them, that is all. -/
inductive Made (d : Dispatch) (o : Options) (stamp : Multipart.Stamp) (r : Round) : Prop
  | unbuilt {f} : Request.build (Multipart.boundary stamp) d.method d.url o = .error f →
      r.trace = [⟨.freshBoundary, Multipart.boundary stamp⟩] → r.outcome = .error f →
        Made d o stamp r
  | sent {q t outcome} {p p' : Progress} :
      Request.build (Multipart.boundary stamp) d.method d.url o = .ok q →
      (d.service.call q).Runs p t outcome p' →
      r.trace = ⟨.freshBoundary, Multipart.boundary stamp⟩ ::
        (t ++ d.announcing q p'.sent outcome) →
      r.outcome = settled outcome → Made d o stamp r

/-- Worlds stamp the boundaries. -/
theorem exists_boundary {t : Trace} {boundary : String} (ht : Act.Lifelike t)
    (h : ⟨.freshBoundary, boundary⟩ ∈ t) : ∃ n, boundary = Multipart.boundary n := by
  obtain ⟨w, hw⟩ := ht _ h
  exact ⟨⟨w.clock w.boundaries, w.boundaries⟩, hw⟩

theorem made_of_attempt_runs {r : Round} (h : (d.attempt o).Runs p r.trace r.outcome p')
    (hlife : Act.Lifelike r.trace) : ∃ n, d.Made o n r := by
  obtain ⟨boundary, t, ht, h⟩ := attempt_runs.mp h
  obtain ⟨n, rfl⟩ := exists_boundary hlife (by rw [ht]; exact List.mem_cons_self)
  refine ⟨n, ?_⟩
  obtain ⟨f, hbuild, rfl, hout, -⟩ | ⟨q, t₁, outcome, p₁, hbuild, hcall, rfl, hout, -⟩ := h
  · exact .unbuilt hbuild ht hout
  · exact .sent hbuild hcall ht hout

/-! ## The options of every attempt -/

theorem mem_woven {pauses : List Trace} {r : Round} (hr : r ∈ rounds) {s : Step}
    (hs : s ∈ r.trace) :
    s ∈ d.woven rounds pauses := by
  induction rounds generalizing pauses with
  | nil => simp at hr
  | cons r' rounds ih =>
    simp only [woven, List.mem_append]
    obtain rfl | hr := List.mem_cons.mp hr
    · exact .inl (.inl (.inl hs))
    · exact .inr (ih hr)

/-- Each attempt of a run is made from the options as the attempts before it left them. -/
theorem run_made {t : Trace} {out : Outcome} (hruns : d.run.Runs t out) (hlife : Act.Lifelike t) :
    ∃ rounds, t = d.woven rounds (d.pauses d.mode 1 rounds) ∧ rounds ≠ [] ∧
      ∀ i r, rounds[i]? = some r → ∃ n, d.Made (d.optionsAfter d.options rounds i) n r := by
  obtain ⟨rounds, -, p', hcourse, ht, -⟩ := run_runs.mp hruns
  obtain ⟨hattempted, hne, -⟩ := course_iff.mp hcourse
  refine ⟨rounds, ht, hne, fun i r hr => ?_⟩
  obtain ⟨p₁, p₂, hattempt⟩ := hattempted.attempt_runs hr
  refine made_of_attempt_runs hattempt fun s hs => hlife s ?_
  rw [ht]
  exact mem_woven (List.mem_of_getElem? hr) hs

/-- The retry test leaves the options alone. -/
def KeepsOptions (d : Dispatch) : Prop :=
  ∀ test, d.retry.test? = some test → ∀ f o, (test f o).2 = o

theorem optionsAfter_of_keepsOptions (hkeeps : d.KeepsOptions) (i : Nat) :
    d.optionsAfter o rounds i = o :=
  optionsAfter_keeps (P := (· = o))
    (fun test htest f o' ho' => (hkeeps test htest f o').trans ho') rfl rounds i

end Dispatch

/-! ## Using a draft -/

namespace Draft

/-- What is done with a draft, or beside it: a dispatch may come from elsewhere. -/
inductive Call
  | configure (change : Draft → Draft)
  | send (m : Method) (url : String) (o : Options)
  | elsewhere (other : Dispatch)

/-- The draft after a call. -/
def afterCall (d : Draft) : Call → Draft
  | .configure change => change d
  | .send _ _ _ => d.cleared
  | .elsewhere _ => d

/-- The dispatches that a call makes. -/
def dispatched (d : Draft) : Call → List Dispatch
  | .configure _ => []
  | .send m url o => [d.dispatch m url o]
  | .elsewhere other => [other]

/-- The draft after some calls. -/
def after (d : Draft) (calls : List Call) : Draft := calls.foldl afterCall d

/-- The dispatches that some calls make. -/
def dispatches : Draft → List Call → List Dispatch
  | _, [] => []
  | d, c :: calls => d.dispatched c ++ (d.afterCall c).dispatches calls

theorem after_snoc (d : Draft) (calls : List Call) (c : Call) :
    d.after (calls ++ [c]) = (d.after calls).afterCall c := by
  simp [after]

theorem dispatches_snoc (d : Draft) (calls : List Call) (c : Call) :
    d.dispatches (calls ++ [c]) = d.dispatches calls ++ (d.after calls).dispatched c := by
  induction calls generalizing d with
  | nil => simp [dispatches, after]
  | cons c' calls ih =>
    simp only [List.cons_append, dispatches, ih, List.append_assoc]
    rfl

/-- Sending leaves the options of a draft as they are. -/
theorem options_after {d : Draft} {calls : List Call} (h : ∀ change, .configure change ∉ calls) :
    (d.after calls).options = d.options := by
  induction calls generalizing d with
  | nil => rfl
  | cons c calls ih =>
    have hrest : ∀ change, .configure change ∉ calls :=
      fun change hmem => h change (List.mem_cons_of_mem c hmem)
    calc ((d.afterCall c).after calls).options = (d.afterCall c).options := ih hrest
      _ = d.options := by
        cases c with
        | configure change => exact absurd List.mem_cons_self (h change)
        | send m url o => rfl
        | elsewhere other => rfl

/-- `d.Use w calls h d' acts w'`: from `d` and `w` on, calls were made and the requests that came of
them took turns as in `h`, in any order; now the draft is `d'`, of the requests `acts` is left, and
the world is `w'`. -/
inductive Use (d : Draft) (w : World) :
    List Call → History → Draft → List (Act Outcome) → World → Prop
  | start : Use d w [] [] d [] w
  | configure {calls h d' acts w'} (change : Draft → Draft) : Use d w calls h d' acts w' →
      Use d w (calls ++ [.configure change]) h (change d') acts w'
  | send {calls h d' acts w'} (m : Method) (url : String) (o : Options) :
      Use d w calls h d' acts w' →
      Use d w (calls ++ [.send m url o]) h (d'.send m url o).2 (acts ++ [(d'.send m url o).1]) w'
  | elsewhere {calls h d' acts w'} (other : Dispatch) : Use d w calls h d' acts w' →
      Use d w (calls ++ [.elsewhere other]) h d' (acts ++ [other.run]) w'
  | turn {calls h d' acts w' i e next} :
      Use d w calls h d' acts w' → acts[i]? = some (.perform e next) →
      Use d w calls (h ++ [(i, ⟨e, (w'.answer e).1⟩)]) d' (acts.set i (next (w'.answer e).1))
        (w'.answer e).2
  | meanwhile {calls h d' acts w' w''} : Use d w calls h d' acts w' → w''.sent = w'.sent →
      Use d w calls h d' acts w''

variable {d d' : Draft} {w w' : World} {calls : List Call} {h : History} {acts : List (Act Outcome)}

/-- Nothing that happens to the requests changes the draft. -/
theorem Use.draft_eq (hu : d.Use w calls h d' acts w') : d' = d.after calls := by
  induction hu with
  | start => rfl
  | configure change _ ih => rw [after_snoc, ← ih]; rfl
  | send m url o _ ih => rw [after_snoc, ← ih]; rfl
  | elsewhere other _ ih => rw [after_snoc, ← ih]; rfl
  | turn _ _ ih => exact ih
  | meanwhile _ _ ih => exact ih

/-- The requests take turns as if all of them had been there from the beginning. -/
theorem Use.interleaving (hu : d.Use w calls h d' acts w') :
    Interleaving ((d.dispatches calls).map Dispatch.run) w h acts w' := by
  induction hu with
  | start => exact .start
  | configure change _ ih => simpa [dispatches_snoc, dispatched] using ih
  | send m url o hu ih =>
    rw [dispatches_snoc, ← hu.draft_eq, List.map_append]
    exact ih.join _
  | elsewhere other _ ih =>
    rw [dispatches_snoc, List.map_append]
    exact ih.join _
  | turn _ hget ih => exact ih.turn hget
  | meanwhile _ hsent ih => exact ih.meanwhile hsent

/-- However a draft is used and its requests take turns, the draft and the dispatches are what the
calls make of them; each attempt is made from the options that the rounds before it left, with the
method, the URL and the service of its dispatch; and where the retry test leaves the options alone,
all attempts of a dispatch build one request up to the boundary, or fail to in one way. -/
theorem use_rebuilds (hu : d.Use w calls h d' acts w') :
    d' = d.after calls ∧ ((∀ change, .configure change ∉ calls) → d'.options = d.options) ∧
    acts.length = (d.dispatches calls).length ∧
    ∀ i D, (d.dispatches calls)[i]? = some D → ∃ rest out rounds,
      D.run.Runs (h.own i ++ rest) out ∧
      (∀ o, acts[i]? = some (.done o) → rest = [] ∧ out = o) ∧
      h.own i ++ rest = D.woven rounds (D.pauses D.mode 1 rounds) ∧
      ∀ j r, rounds[j]? = some r → ∃ n, D.Made (D.optionsAfter D.options rounds j) n r ∧
        (D.KeepsOptions →
          Request.build (Multipart.boundary n) D.method D.url (D.optionsAfter D.options rounds j) =
          (Request.build (Multipart.boundary ⟨0, 0⟩) D.method D.url D.options).map
            (Request.withBoundary (Multipart.boundary n))) := by
  have hi := hu.interleaving
  refine ⟨hu.draft_eq, fun hsends => ?_, by simpa using hi.length_eq, fun i D hD => ?_⟩
  · rw [hu.draft_eq]
    exact options_after hsends
  have hget : ((d.dispatches calls).map Dispatch.run)[i]? = some D.run := by
    rw [List.getElem?_map, hD]; rfl
  obtain ⟨rest, out, hruns, hlife, hdone⟩ := hi.exists_runs hget
  obtain ⟨rounds, -, p', hcourse, ht, -⟩ := Dispatch.run_runs.mp hruns
  have hattempted := (Dispatch.course_iff.mp hcourse).1
  refine ⟨rest, out, rounds, hruns, hdone, ht, fun j r hr => ?_⟩
  obtain ⟨p₁, p₂, hattempt⟩ := hattempted.attempt_runs hr
  have hlifeRound : Act.Lifelike r.trace := by
    intro s hs
    refine hlife s ?_
    rw [ht]
    exact Dispatch.mem_woven (List.mem_of_getElem? hr) hs
  obtain ⟨n, hmade⟩ := Dispatch.made_of_attempt_runs hattempt hlifeRound
  refine ⟨n, hmade, fun hkeeps => ?_⟩
  rw [Dispatch.optionsAfter_of_keepsOptions hkeeps]
  exact Request.build_boundary ⟨0, 0⟩ n D.method D.url D.options

/-- A draft whose retry test puts a fresh token into the options. -/
def refreshing : Draft :=
  let token : RetryRule := ⟨none, true, Options.empty.setHeader "Authorization" "Bearer fresh", []⟩
  (Client.new ⟨fun _ => pure (.ok (.ofStatus 401)), true⟩ false).request.1.withRetry
    ⟨.count 2, .fixed 0, true, some token.test⟩

theorem use_rebuilds_refreshing : ∃ h acts w' rest out rounds,
    refreshing.Use (.initial .default true .unreachable) [.send .get "http://a.test/" .empty] h
      refreshing.cleared acts w' ∧ h ≠ [] ∧
    (refreshing.dispatch .get "http://a.test/" .empty).run.Runs (History.own h 0 ++ rest) out ∧
    History.own h 0 ++ rest = (refreshing.dispatch .get "http://a.test/" .empty).woven rounds
      ((refreshing.dispatch .get "http://a.test/" .empty).pauses .blocking 1 rounds) := by
  have hu : refreshing.Use (.initial .default true .unreachable)
      [.send .get "http://a.test/" .empty]
      [(0, ⟨.freshBoundary, Multipart.boundary ⟨0, 0⟩⟩)] refreshing.cleared _ _ :=
    .turn (.send .get "http://a.test/" .empty .start) rfl
  obtain ⟨-, -, -, hdispatches⟩ := use_rebuilds hu
  obtain ⟨rest, out, rounds, hruns, -, ht, -⟩ := hdispatches 0 _ rfl
  exact ⟨_, _, _, rest, out, rounds, hu, by simp, hruns, ht⟩

end Draft

end Courier
