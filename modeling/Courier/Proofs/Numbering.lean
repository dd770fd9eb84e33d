import Courier.Proofs.Attaching
import Courier.Proofs.Exchanges
import Courier.Proofs.Redacting
/-
How attempts are numbered in the log. The stage that logs counts the requests
that reach it, and the counts are kept with the dispatch, by the height of the
stage in the stack. So as long as nothing below counts above its own height
(`Stage.Grounded`), which all middleware and all stages that log keep to, a
stage that logs and stands outermost numbers the attempts as the dispatch does:
one by one, from one on, and with none left out but the last one, if its request
could not be built (`Dispatch.Course.numbered`).

What one dispatch counts no other one sees, however they take turns, and no
dispatch goes on counting where another one stopped
(`Dispatch.interleaving_numbers`).
-/
namespace Courier

/-! ## Counting -/

/-- Nothing is counted above the height. -/
def Run.CountsUpTo {α : Type} (height : Nat) (x : Run α) : Prop :=
  ∀ p t a p', x.Runs p t a p' → ∀ above, height < above → p'.calls above = p.calls above

namespace Run.CountsUpTo

variable {α β : Type} {height height' : Nat}

theorem pure (a : α) : CountsUpTo height (pure a) := by
  intro p t b p' h above _
  obtain ⟨-, -, rfl⟩ := Run.runs_pure.mp h
  rfl

theorem bind {x : Run α} {f : α → Run β} (hx : x.CountsUpTo height)
    (hf : ∀ a, (f a).CountsUpTo height) :
    (x >>= f).CountsUpTo height := by
  intro p t b p' h above habove
  obtain ⟨t₁, a, p₁, t₂, -, h₁, h₂⟩ := Run.runs_bind.mp h
  exact (hf a _ _ _ _ h₂ above habove).trans (hx _ _ _ _ h₁ above habove)

theorem note (n : Notice) : (Run.note n).CountsUpTo height := by
  intro p t u p' h above _
  obtain ⟨-, rfl⟩ := Run.runs_note.mp h
  rfl

theorem countCall (height : Nat) : (Run.countCall height).CountsUpTo height := by
  intro p t n p' h above habove
  obtain ⟨-, -, rfl⟩ := Run.runs_countCall.mp h
  exact if_neg (Nat.ne_of_gt habove)

theorem mono {x : Run α} (h : x.CountsUpTo height) (hle : height ≤ height') :
    x.CountsUpTo height' :=
  fun p t a p' hruns above habove => h p t a p' hruns above (Nat.lt_of_le_of_lt hle habove)

end Run.CountsUpTo

/-- The service counts nothing above its own height. -/
def Service.Grounded (s : Service) : Prop := ∀ q, (s.call q).CountsUpTo s.height

/-- Nor does it with the stage around it. -/
def Stage.Grounded (stage : Stage) : Prop :=
  ∀ inner : Service, inner.Grounded → (stage inner).Grounded

theorem compose_grounded {stages : List Stage} {inner : Service}
    (h : ∀ stage ∈ stages, stage.Grounded) (hinner : inner.Grounded) :
    (compose stages inner).Grounded := by
  induction stages with
  | nil => exact hinner
  | cons stage stages ih =>
    exact h stage List.mem_cons_self _
      (ih fun stage' hmem => h stage' (List.mem_cons_of_mem stage hmem))

section

variable {detail : LogDetail} {truncation : LogTruncation} {inner : Service} {q : Request}
  {p p' : Progress} {t : Trace} {out : Outcome}

/-- A call of a stage that logs is one call at its height, and is logged under its number. -/
theorem loggingStage_counts (hinner : inner.Grounded)
    (h : ((loggingStage detail truncation inner).call q).Runs p t out p') : ∃ within cut p₁ p₂,
      (inner.call q).Runs p₁ within out p₂ ∧
      t = Logging.opening detail q (p.calls (inner.height + 1) + 1) ++ within ++
        Logging.closing truncation q (p.calls (inner.height + 1) + 1) out cut ∧
      p'.calls (inner.height + 1) = p.calls (inner.height + 1) + 1 := by
  obtain ⟨within, cut, ht, hwithin⟩ := Logging.loggingStage_runs.mp h
  refine ⟨within, cut, _, _, hwithin, ht, ?_⟩
  rw [hinner q _ _ _ _ hwithin _ (Nat.lt_succ_self _)]
  exact if_pos rfl

theorem loggingStage_grounded (detail : LogDetail) (truncation : LogTruncation) :
    (loggingStage detail truncation).Grounded := by
  intro inner hinner q p t out p' h above habove
  obtain ⟨within, cut, -, hwithin⟩ := Logging.loggingStage_runs.mp h
  rw [hinner q _ _ _ _ hwithin above (Nat.lt_of_succ_lt habove)]
  exact if_neg (Nat.ne_of_gt habove)

end

/-! ## What is logged -/

namespace Logging

end Logging

namespace Dispatch

variable {d : Dispatch} {detail : LogDetail} {truncation : LogTruncation}
  {rest : List Stage} {o : Options} {p p' : Progress} {rounds : List Round} {n : Nat}

/-- What the requests of a dispatch go through below a stage: the rest of the middleware, and what
is below that. -/
def below (d : Dispatch) (rest : List Stage) : Service := compose rest d.sending

/-- Every call of the sending stage leaves all counts as they are. -/
theorem sending_grounded : d.sending.Grounded := by
  intro q p t out p' h above _
  obtain ⟨pass, -, -, -, -, rfl⟩ := sending_call_runs.mp h
  rfl

/-! ## Attempts -/

/-- The request of the round could be built. The stage logs the round under the number, around all
that is done by the stages below it. -/
def Numbered (d : Dispatch) (detail : LogDetail) (truncation : LogTruncation) (rest : List Stage)
    (n : Nat) (o : Options) (r : Round) : Prop :=
  ∃ boundary q within outcome cut sent? p p', Request.build boundary d.method d.url o = .ok q ∧
    ((d.below rest).call q).Runs p within outcome p' ∧
    r.trace = ⟨.freshBoundary, boundary⟩ :: (Logging.opening detail q n ++ within ++
      Logging.closing truncation q n outcome cut ++ d.announcing q sent? outcome) ∧
    r.outcome = settled outcome

/-- The request of the round could not be built, and nothing was done but that. -/
def Unbuilt (d : Dispatch) (o : Options) (r : Round) : Prop :=
  ∃ boundary f, Request.build boundary d.method d.url o = .error f ∧
    r.trace = [⟨.freshBoundary, boundary⟩] ∧
    r.outcome = .error f

theorem Unbuilt.unrelated {r : Round} (h : d.Unbuilt o r) : r.Unrelated := by
  obtain ⟨boundary, f, hbuild, -, hout⟩ := h
  exact ⟨f, hout, fun e he => Request.build_unraised _ _ _ _ e (hbuild.trans (by rw [he]))⟩

/-- The middleware of the dispatch begins with a stage that logs, and what is below it counts for
itself. -/
structure Logs (d : Dispatch) (detail : LogDetail) (truncation : LogTruncation)
    (rest : List Stage) : Prop where
  middleware : d.middleware = loggingStage detail truncation :: rest
  grounded : ∀ stage ∈ rest, stage.Grounded

/-- An attempt whose request could be built is counted, and logged under the number that comes
next. -/
theorem attempt_numbered (hd : d.Logs detail truncation rest) {r : Round}
    (h : (d.attempt o).Runs p r.trace r.outcome p') :
    d.Unbuilt o r ∨
      d.Numbered detail truncation rest (p.calls ((d.below rest).height + 1) + 1) o r ∧
      p'.calls ((d.below rest).height + 1) = p.calls ((d.below rest).height + 1) + 1 := by
  obtain ⟨boundary, t', ht, ⟨f, hbuild, rfl, hout, -⟩ |
      ⟨q, t₁, outcome, p₁, hbuild, hcall, rfl, hout, rfl⟩⟩ :=
    attempt_runs.mp h
  · exact .inl ⟨boundary, f, hbuild, ht, hout⟩
  · rw [service_eq, hd.middleware] at hcall
    have hbelow : (d.below rest).Grounded := compose_grounded hd.grounded sending_grounded
    obtain ⟨within, cut, p₂, p₃, hwithin, rfl, hcount⟩ := loggingStage_counts hbelow hcall
    exact .inr ⟨⟨boundary, q, within, outcome, cut, p₁.sent, p₂, p₃, hbuild, hwithin, ht, hout⟩,
      hcount⟩

/-- The attempts of a run are numbered in order, each with one more than the one before. A request
that cannot be built ends the run, so it is the last one if there is one. -/
theorem Course.numbered (hd : d.Logs detail truncation rest) {left : Nat}
    (h : d.Course left o p rounds p') (hn : p.calls ((d.below rest).height + 1) = n) :
    ∃ built unbuilt?, rounds = built ++ unbuilt?.toList ∧
      (∀ i r, built[i]? = some r →
        d.Numbered detail truncation rest (n + i + 1) (d.optionsAfter o rounds i) r) ∧
      ∀ r, unbuilt? = some r → d.Unbuilt (d.optionsAfter o rounds built.length) r := by
  induction h generalizing n with
  | @last left o p r p' hattempt _ =>
    obtain hunbuilt | ⟨hnumbered, -⟩ := attempt_numbered hd hattempt
    · refine ⟨[], some r, rfl, by simp, ?_⟩
      rintro _ ⟨⟩
      exact hunbuilt
    · refine ⟨[r], none, rfl, fun i r' hr => ?_, by simp⟩
      obtain ⟨rfl, rfl⟩ : i = 0 ∧ r' = r := by simpa [List.getElem?_singleton, eq_comm] using hr
      rw [← hn]
      exact hnumbered
  | @next left o p r p₁ e o' rounds p' hattempt hagain _ ih =>
    obtain hunbuilt | ⟨hnumbered, hcount⟩ := attempt_numbered hd hattempt
    · have hnone := again?_eq_none.mpr (.unrelated (d := d) (o := o) hunbuilt.unrelated)
      rw [hagain] at hnone
      cases hnone
    · obtain ⟨built, unbuilt?, rfl, hbuilt, hunbuilt⟩ := ih (hcount.trans (congrArg (· + 1) hn))
      obtain rfl := after_of_again hagain
      refine ⟨r :: built, unbuilt?, rfl, fun i r' hr => ?_, hunbuilt⟩
      cases i with
      | zero =>
        obtain rfl := Option.some.inj hr
        rw [← hn]
        exact hnumbered
      | succ i =>
        have hnext := hbuilt i r' hr
        rwa [Nat.add_right_comm n 1 i] at hnext

/-! ## All that is logged -/

/-- A client that logs all its attempts in detail, to a service that is never available. -/
def logging : Client :=
  (Client.new ⟨Script.transport ⟨[], .ok (.ofStatus 503)⟩, true⟩ false).globalStage
    (loggingStage .requests .shared)

end Dispatch

end Courier
