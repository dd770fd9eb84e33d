import Courier.Proofs.Effects
/-
What acts can end with. A property of what an act ends with is shown along the
act: of what comes first, and of what follows whatever came of that
(`Act.Ends.bind`). For services it is shown along the stack, each stage taking
it over from the service inside (`Service.Ends.compose`).

The bundled transport refuses a request, fails to exchange it, or delivers the
response (`Wire.Handled`). So it fails in ways of its own (`Wire.Fails`) or
because a sink could not be written (`Wire.transport_ends`).
-/
namespace Courier

namespace Act

variable {α β : Type} {P : α → Prop} {act : Act α}

/-- Whatever the act ends with has the property. -/
def Ends (P : α → Prop) (act : Act α) : Prop := ∀ t a, act.Runs t a → P a

theorem Ends.any (act : Act α) : act.Ends fun _ => True := fun _ _ _ => trivial

theorem Ends.mono {Q : α → Prop} (h : act.Ends P) (hPQ : ∀ a, P a → Q a) : act.Ends Q :=
  fun t a hruns => hPQ a (h t a hruns)

theorem Ends.pure {a : α} (h : P a) : Ends P (pure a : Act α) := by
  intro t b hruns
  obtain ⟨-, rfl⟩ := pure_runs.mp hruns
  exact h

theorem Ends.bind {f : α → Act β} {Q : β → Prop} (h : act.Ends P) (hf : ∀ a, P a → (f a).Ends Q) :
    Ends Q (act >>= f) := by
  intro t b hruns
  obtain ⟨t₁, a, t₂, -, h₁, h₂⟩ := runs_bind.mp hruns
  exact hf a (h t₁ a h₁) t₂ b h₂

end Act

namespace Run

variable {α β : Type} {P : α → Prop}

/-- Whatever the steps end with has the property. -/
def Ends (P : α → Prop) (x : Run α) : Prop := ∀ p t a p', x.Runs p t a p' → P a

theorem Ends.any (x : Run α) : x.Ends fun _ => True := fun _ _ _ _ _ => trivial

theorem Ends.pure {a : α} (h : P a) : Ends P (pure a : Run α) := by
  intro p t b p' hruns
  obtain ⟨-, rfl, -⟩ := runs_pure.mp hruns
  exact h

theorem Ends.bind {x : Run α} {f : α → Run β} {Q : β → Prop} (h : x.Ends P)
    (hf : ∀ a, P a → (f a).Ends Q) :
    Ends Q (x >>= f) := by
  intro p t b p' hruns
  obtain ⟨t₁, a, p₁, t₂, -, h₁, h₂⟩ := runs_bind.mp hruns
  exact hf a (h p t₁ a p₁ h₁) p₁ t₂ b p' h₂

theorem Ends.act {act : Act α} (h : act.Ends P) : (Run.act act).Ends P :=
  fun _ t a _ hruns => h t a (runs_act.mp hruns).1

end Run

/-- Whatever the service answers has the property. -/
def Service.Ends (P : Outcome → Prop) (s : Service) : Prop := ∀ q, (s.call q).Ends P

/-- The stage answers with the property if the service inside does. -/
def Stage.Keeps (P : Outcome → Prop) (stage : Stage) : Prop :=
  ∀ inner : Service, inner.Ends P → (stage inner).Ends P

namespace Service

variable {P : Outcome → Prop} {inner : Service}

theorem Ends.ofTransport {transport : Transport} (h : ∀ q, (transport q).Ends P) :
    (ofTransport transport).Ends P :=
  fun q => .act (h q)

theorem Ends.compose {stages : List Stage} (hstages : ∀ stage ∈ stages, stage.Keeps P)
    (h : inner.Ends P) :
    (compose stages inner).Ends P := by
  induction stages with
  | nil => exact h
  | cons stage stages ih =>
    exact hstages stage List.mem_cons_self _
      (ih fun stage' hmem => hstages stage' (List.mem_cons_of_mem stage hmem))

end Service

namespace Wire

/-- The failures of an exchange. -/
inductive Fails : Failure → Prop
  | connection (f : ConnectionFailure) : Fails (.connection f)
  | invalidRequest (flaw : RequestFlaw) : Fails (.invalidRequest flaw)
  | invalidUrl (flaw : UrlFlaw) : Fails (.invalidUrl flaw)
  | invalidRedirect (message : String) : Fails (.invalidRedirect message)
  | tooManyRedirects (count max : Nat) : Fails (.tooManyRedirects count max)

/-- A failure of an exchange, if it is a failure. -/
def FailsOnly {α : Type} (r : Except Failure α) : Prop := ∀ f, r = .error f → Fails f

theorem FailsOnly.ok {α : Type} (a : α) : FailsOnly (.ok a) := fun _ h => nomatch h

theorem FailsOnly.error {α : Type} {f : Failure} (h : Fails f) :
    FailsOnly (.error f : Except Failure α) := by
  rintro _ ⟨⟩
  exact h

theorem sendOnce_ends (timeout : Nat) (w : WireRequest) : (sendOnce timeout w).Ends FailsOnly := by
  unfold sendOnce
  split
  · exact .pure (.error (.invalidRequest _))
  · exact .pure (.error (.connection _))
  · exact .pure (.error (.connection _))
  · refine .bind (.any _) fun reception _ => ?_
    cases reception with
    | answered r => exact .pure (.ok r)
    | lost f => exact .pure (.error (.connection f))
    | expired =>
      refine .pure (.error ?_)
      split <;> exact .connection _

theorem next_fails (join : Url → String → Except UrlFlaw Url) (w : WireRequest) (r : Response) :
    FailsOnly (Redirect.next join w r) := by
  unfold Redirect.next
  split
  · exact .error (.invalidRedirect _)
  · split
    · exact .error (.invalidUrl _)
    · dsimp only
      split <;> exact .ok _

theorem follow_ends (join : Url → String → Except UrlFlaw Url) {send : WireRequest → Act Outcome}
    (hsend : ∀ w, (send w).Ends FailsOnly) (max left : Nat) (w : WireRequest) :
    (follow join send max left w).Ends FailsOnly := by
  induction left generalizing w with
  | zero =>
    unfold follow
    refine .bind (hsend w) fun outcome houtcome => ?_
    cases outcome with
    | error f => exact .pure (.error (houtcome f rfl))
    | ok r =>
      dsimp only
      split
      · exact .pure (.ok _)
      · exact .pure (.error (.tooManyRedirects max max))
  | succ left ih =>
    unfold follow
    refine .bind (hsend w) fun outcome houtcome => ?_
    cases outcome with
    | error f => exact .pure (.error (houtcome f rfl))
    | ok r =>
      dsimp only
      split
      · exact .pure (.ok _)
      · cases hnext : Redirect.next join w r with
        | error f => exact .pure (.error (next_fails join w r f hnext))
        | ok w' => exact ih w'

theorem exchange_ends (join : Url → String → Except UrlFlaw Url) (c : Config) (q : Request) :
    (exchange join c q).Ends FailsOnly := by
  have hsend := sendOnce_ends (q.options.timeout.getD c.timeout)
  unfold exchange
  cases q.options.allowRedirects.getD (.follow c.maxRedirects) with
  | follow max => exact follow_ends join hsend max max _
  | disabled =>
    refine .bind (hsend _) fun outcome houtcome => ?_
    cases outcome with
    | ok r => exact .pure (.ok _)
    | error f => exact .pure (.error (houtcome f rfl))

/-! ### What the transport does with a request -/

/-- What the listener of a request is told, if it has one. -/
def telling (q : Request) (stats : TransferStats) : Trace :=
  match q.options.onStats with
  | some listener => [⟨.note (.transferred listener stats), ()⟩]
  | none => []

/-- The statistics of a request whose exchanges came to a response. -/
def statsOf (q : Request) (a : Arrival) : TransferStats :=
  ⟨q.method, a.url, some a.response.status, a.redirects⟩

/-- `Delivered q a t out`: the response goes to the sink of its request, if it has one, and is
told. -/
inductive Delivered (q : Request) (a : Arrival) : Trace → Outcome → Prop
  | unsunk : q.options.sink = none →
      Delivered q a (telling q (statsOf q a)) (.ok (a.response.attachStats (statsOf q a)))
  | sunk {sink} : q.options.sink = some sink →
      Delivered q a (⟨.writeSink sink a.response.body, .ok ()⟩ :: telling q (statsOf q a))
        (.ok (a.response.attachStats (statsOf q a)))
  | failed {sink message} : q.options.sink = some sink →
      Delivered q a [⟨.writeSink sink a.response.body, .error message⟩] (.error (.sink message))

/-- `Handled c q t out`: the transport refuses the request, or the exchanges fail, which is told, or
their response is delivered. -/
inductive Handled (c : Config) (q : Request) : Trace → Outcome → Prop
  | refused {flaw} : refusal? q.options = some flaw → Handled c q [] (.error (.invalidRequest flaw))
  | failed {t f} : refusal? q.options = none → (exchange Url.join c q).Runs t (.error f) →
      Handled c q (t ++ telling q ⟨q.method, q.url, none, 0⟩) (.error f)
  | delivered {t t' a out} :
      refusal? q.options = none → (exchange Url.join c q).Runs t (.ok a) → Delivered q a t' out →
      Handled c q (t ++ t') out

section

variable {c : Config} {q : Request} {t : Trace} {out : Outcome}

theorem telling_of_report {stats : TransferStats} {u : Unit} (h : (report q stats).Runs t u) :
    t = telling q stats := by
  unfold report at h
  unfold telling
  cases hlistener : q.options.onStats with
  | none =>
    rw [hlistener] at h
    exact (Act.pure_runs.mp h).1
  | some listener =>
    rw [hlistener] at h
    exact Act.effect_runs.mp h

theorem delivered_of_deliver {a : Arrival} (h : (deliver q a).Runs t out) :
    Delivered q a t out := by
  unfold deliver at h
  cases hsink : q.options.sink with
  | none =>
    rw [hsink] at h
    obtain ⟨t₁, written, t₂, rfl, hpure, hrest⟩ := Act.runs_bind.mp h
    obtain ⟨rfl, rfl⟩ := Act.pure_runs.mp hpure
    obtain ⟨t₃, u, t₄, rfl, hreport, hanswer⟩ := Act.runs_bind.mp hrest
    obtain ⟨rfl, rfl⟩ := Act.pure_runs.mp hanswer
    obtain rfl := telling_of_report hreport
    rw [List.nil_append, List.append_nil]
    exact .unsunk hsink
  | some sink =>
    rw [hsink] at h
    obtain ⟨t₁, written, t₂, rfl, hwrite, hrest⟩ := Act.runs_bind.mp h
    obtain rfl := Act.effect_runs.mp hwrite
    cases written with
    | error message =>
      obtain ⟨rfl, rfl⟩ := Act.pure_runs.mp hrest
      exact .failed hsink
    | ok u =>
      obtain ⟨t₃, u, t₄, rfl, hreport, hanswer⟩ := Act.runs_bind.mp hrest
      obtain ⟨rfl, rfl⟩ := Act.pure_runs.mp hanswer
      obtain rfl := telling_of_report hreport
      rw [List.append_nil]
      exact .sunk hsink

theorem handled_of_transport (h : (transport c q).Runs t out) : Handled c q t out := by
  unfold transport at h
  split at h
  · next flaw hrefusal =>
    obtain ⟨rfl, rfl⟩ := Act.pure_runs.mp h
    exact .refused hrefusal
  · next hrefusal =>
    obtain ⟨t₁, arrived, t₂, rfl, hexchange, h⟩ := Act.runs_bind.mp h
    cases arrived with
    | ok arrival => exact .delivered hrefusal hexchange (delivered_of_deliver h)
    | error f =>
      obtain ⟨t₃, u, t₄, rfl, hreport, hanswer⟩ := Act.runs_bind.mp h
      obtain ⟨rfl, rfl⟩ := Act.pure_runs.mp hanswer
      obtain rfl := telling_of_report hreport
      rw [List.append_nil]
      exact .failed hrefusal hexchange

end

/-- The bundled transport fails as its exchanges do, or because a sink could not be written. -/
theorem transport_ends (c : Config) (q : Request) :
    (transport c q).Ends fun out => ∀ f, out = .error f →
      Fails f ∨ ∃ message, f = .sink message := by
  rintro t _ h f rfl
  cases handled_of_transport h with
  | refused => exact .inl (.invalidRequest _)
  | failed _ hexchange => exact .inl (exchange_ends Url.join c q _ _ hexchange f rfl)
  | delivered _ _ hdelivered =>
    cases hdelivered with
    | failed => exact .inr ⟨_, rfl⟩

end Wire

end Courier
