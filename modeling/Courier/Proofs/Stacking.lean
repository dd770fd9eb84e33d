import Courier.Proofs.Muting
/-
Stacks of stages that are the same but for stages that log, any number of them
anywhere. A stage that logs hands its request on and its outcome back; all else
that it does is aside.

The other stages may be any that treat alike what is alike (`Stage.Uniform`):
around services that do the same they do the same. What such a stage keeps from
call to call it finds at its height in the stack, which is another one where
more or fewer stages log below it. So what is kept is compared at heights that
go together (`Matched`): those of the stages that both stacks have (`Aligned`).
-/
namespace Courier

variable {mute : Bool}

/-- `Padded aside l l'`: the lists are the same but for members that are aside, of which each may
have any number anywhere. -/
inductive Padded {α : Type} (aside : α → Prop) : List α → List α → Prop
  | nil : Padded aside [] []
  | keep {a l l'} : Padded aside l l' → Padded aside (a :: l) (a :: l')
  | left {a l l'} : aside a → Padded aside l l' → Padded aside (a :: l) l'
  | right {a l l'} : aside a → Padded aside l l' → Padded aside l (a :: l')

theorem Padded.mem_right {α : Type} {aside : α → Prop} {l l' : List α} (h : Padded aside l l')
    {a : α} (ha : a ∈ l') :
    a ∈ l ∨ aside a := by
  induction h with
  | nil => exact .inl ha
  | keep _ ih =>
    obtain rfl | ha := List.mem_cons.mp ha
    · exact .inl List.mem_cons_self
    · exact (ih ha).imp_left (List.mem_cons_of_mem _)
  | left _ _ ih => exact (ih ha).imp_left (List.mem_cons_of_mem _)
  | right haside _ ih =>
    obtain rfl | ha := List.mem_cons.mp ha
    · exact .inr haside
    · exact ih ha

/-! ## Calls at heights -/

/-- The service at a height was called so many times. -/
def Progress.withCalls (p : Progress) (height n : Nat) : Progress :=
  { p with calls := fun h => if h = height then n else p.calls h }

/-- The service at a height was called once more. -/
def Progress.counted (p : Progress) (height : Nat) : Progress :=
  p.withCalls height (p.calls height + 1)

theorem Run.countCall_bind {α : Type} (height : Nat) (f : Nat → Run α) (p : Progress) :
    (Run.countCall height >>= f) p = f (p.calls height) (p.counted height) := rfl

/-- What is kept alike has the calls at the one height for those at the other: they are equally
many, and nothing else depends on how many they are. -/
structure Counts (kept : Progress → Progress → Prop) (height height' : Nat) : Prop where
  eq : ∀ p p', kept p p' → p.calls height = p'.calls height'
  set : ∀ p p' n, kept p p' → kept (p.withCalls height n) (p'.withCalls height' n)

theorem Counts.counted {kept : Progress → Progress → Prop} {height height' : Nat}
    (h : Counts kept height height') {p p' : Progress} (hp : kept p p') :
    kept (p.counted height) (p'.counted height') := by
  unfold Progress.counted
  rw [h.eq p p' hp]
  exact h.set p p' _ hp

/-- Of heights that go together, the services were called equally often. -/
def Matched (heights : List (Nat × Nat)) (p p' : Progress) : Prop :=
  ∀ pair ∈ heights, p.calls pair.1 = p'.calls pair.2

namespace Matched

variable {heights : List (Nat × Nat)} {p p' : Progress} {height height' : Nat}

theorem withCalls_left (h : Matched heights p p')
    (hheight : ∀ pair ∈ heights, pair.1 ≠ height) (n : Nat) :
    Matched heights (p.withCalls height n) p' := by
  intro pair hpair
  simpa [Progress.withCalls, hheight pair hpair] using h pair hpair

theorem withCalls_right (h : Matched heights p p')
    (hheight : ∀ pair ∈ heights, pair.2 ≠ height') (n : Nat) :
    Matched heights p (p'.withCalls height' n) := by
  intro pair hpair
  simpa [Progress.withCalls, hheight pair hpair] using h pair hpair

/-- Services that go together, and with no others, count together. -/
theorem counts (hpair : (height, height') ∈ heights)
    (honly : ∀ pair ∈ heights, pair.1 = height ↔ pair.2 = height') :
    Counts (Matched heights) height height' where
  eq := fun _ _ h => h _ hpair
  set := by
    intro p p' n h pair hmem
    by_cases hheight : pair.1 = height
    · simp [Progress.withCalls, hheight, (honly pair hmem).mp hheight]
    · simpa [Progress.withCalls, hheight, mt (honly pair hmem).mpr hheight] using h pair hmem

end Matched

/-! ## Stages -/

/-- Behind the veil the services do the same with requests that are the same but for their
listeners. -/
def Service.Shadows (mute : Bool) (kept : Progress → Progress → Prop) (inner inner' : Service) :
    Prop :=
  ∀ q q', q.Like mute q' → Run.Shadows (.observing mute) kept Eq (inner.call q) (inner'.call q')

/-- Around services that do the same behind the veil, and with requests that are the same but for
muted listeners, the stage does the same. It cannot tell such services apart, so it gets at what is
below by calling it; what it keeps from call to call it keeps at its own height, and it does not
look for what is muted. -/
structure Stage.Uniform (mute : Bool) (stage : Stage) : Prop where
  height : ∀ inner, (stage inner).height = inner.height + 1
  shadows : ∀ kept inner inner', Counts kept (inner.height + 1) (inner'.height + 1) →
    inner.Shadows mute kept inner' → (stage inner).Shadows mute kept (stage inner')

/-- Plans that differ in nothing but the listeners of the requests that they hand on. -/
inductive Plan.Like (mute : Bool) : Plan → Plan → Prop
  | answer {out} : Like mute (.answer out) (.answer out)
  | note {n rest rest'} : Like mute rest rest' → Like mute (.note n rest) (.note n rest')
  | call {q q' resume resume'} : q.Like mute q' → (∀ out, Like mute (resume out) (resume' out)) →
      Like mute (.call q resume) (.call q' resume')

theorem Plan.Like.refl (plan : Plan) : plan.Like mute plan := by
  induction plan with
  | answer out => exact .answer
  | note n rest ih => exact .note ih
  | call q resume ih => exact .call rfl ih

/-- The middleware plans the same for requests that are the same but for their listeners. -/
def Middleware.Deaf (m : Middleware) : Prop :=
  ∀ earlier q q', q.Like true q' → (m earlier q).Like true (m earlier q')

theorem Middleware.tracing_deaf (label : String) : (Middleware.tracing label).Deaf := by
  intro earlier q q' hq
  unfold tracing
  rw [hq.url]
  exact .note (.call hq fun _ => .note .answer)

/-- The stage does nothing but log. -/
def Stage.Logs (stage : Stage) : Prop := ∃ detail truncation, stage = loggingStage detail truncation

theorem Plan.run_shadows {kept : Progress → Progress → Prop} {inner inner' : Service}
    (hinner : inner.Shadows mute kept inner') {plan plan' : Plan} (h : plan.Like mute plan') :
    Run.Shadows (.observing mute) kept Eq (plan.run inner.call) (plan'.run inner'.call) := by
  induction h with
  | answer => exact .pure rfl
  | note _ ih => exact .bind (.note _) fun _ _ _ => ih
  | call hq _ ih =>
    refine .bind (hinner _ _ hq) ?_
    rintro out _ rfl
    exact ih out

/-- Middleware that plans the same treats alike what is alike. -/
theorem Middleware.stage_uniform {m : Middleware} (hm : mute = true → m.Deaf) :
    Stage.Uniform mute m.stage where
  height := fun _ => rfl
  shadows := by
    intro kept inner inner' hcounts h q q' hq p p' hp
    have hplan (earlier : Nat) : (m earlier q).Like mute (m earlier q') := by
      cases mute with
      | false =>
        obtain rfl : q = q' := hq
        exact .refl _
      | true => exact hm rfl earlier q q' hq
    change Act.Shadows _ _
      ((Run.countCall (inner.height + 1) >>= fun earlier => (m earlier q).run inner.call) p)
      ((Run.countCall (inner'.height + 1) >>= fun earlier => (m earlier q').run inner'.call) p')
    rw [Run.countCall_bind, Run.countCall_bind, ← hcounts.eq p p' hp]
    exact Plan.run_shadows h (hplan _) _ _ (hcounts.counted hp)

section

variable {heights : List (Nat × Nat)} {inner inner' : Service}

/-- What a stage logs of a request before it hands the request on. -/
def Logging.before (detail : LogDetail) (q : Request) (attempt : Nat) : Run Unit :=
  if detail = .requests then
    Run.note (.logged ⟨.sending (redacted q.headers) q.body.length, q.method, q.url, attempt⟩)
  else pure ()

/-- What a stage logs of an outcome. -/
def Logging.after (truncation : LogTruncation) (q : Request) (attempt : Nat) (outcome : Outcome) :
    Run Unit := do
  let truncation ← match truncation with
    | .shared => Run.effect .truncation
    | .own truncation => pure truncation
  Run.note (.logged ⟨entry truncation outcome, q.method, q.url, attempt⟩)

theorem loggingStage_call (detail : LogDetail) (truncation : LogTruncation) (q : Request) :
    (loggingStage detail truncation inner).call q =
      Run.countCall (inner.height + 1) >>= fun earlier =>
      Logging.before detail q (earlier + 1) >>= fun _ => inner.call q >>= fun outcome =>
        Logging.after truncation q (earlier + 1) outcome >>= fun _ => pure outcome := by
  refine bind_congr fun earlier => ?_
  cases detail <;> cases truncation <;> rfl

theorem Logging.before_aside (detail : LogDetail) (q : Request) (attempt : Nat) :
    Run.Aside (.observing mute) (before detail q attempt) := by
  unfold before
  split
  · exact .note rfl
  · exact .pure

theorem Logging.after_aside (truncation : LogTruncation) (q : Request) (attempt : Nat)
    (outcome : Outcome) :
    Run.Aside (.observing mute) (after truncation q attempt outcome) := by
  intro p
  cases truncation with
  | shared => exact .perform rfl fun _ => .perform rfl fun _ => .done rfl
  | own truncation => exact .perform rfl fun _ => .done rfl

theorem loggingStage_uniform (detail : LogDetail) (truncation : LogTruncation) :
    Stage.Uniform mute (loggingStage detail truncation) where
  height := fun _ => rfl
  shadows := by
    intro kept inner inner' hcounts h q q' hq p p' hp
    rw [loggingStage_call, loggingStage_call, Run.countCall_bind, Run.countCall_bind,
      ← hcounts.eq p p' hp]
    refine (Logging.before_aside detail q _).left ((Logging.before_aside detail q' _).right ?_) _ _
      (hcounts.counted hp)
    refine .bind (h q q' hq) ?_
    rintro outcome _ rfl
    exact (Logging.after_aside truncation q _ outcome).left
      ((Logging.after_aside truncation q' _ outcome).right (.pure rfl))

/-- A stage that logs may be put on the one stack. -/
theorem Stage.Logs.shadows_left {stage : Stage} (hstage : stage.Logs)
    (hheight : ∀ pair ∈ heights, pair.1 ≠ inner.height + 1)
    (h : inner.Shadows mute (Matched heights) inner') :
    (stage inner).Shadows mute (Matched heights) inner' := by
  obtain ⟨detail, truncation, rfl⟩ := hstage
  intro q q' hq p p' hp
  rw [loggingStage_call, Run.countCall_bind, ← bind_pure (inner'.call q')]
  refine (Logging.before_aside detail q _).left ?_ _ _ (hp.withCalls_left hheight _)
  refine .bind (h q q' hq) ?_
  rintro outcome _ rfl
  exact (Logging.after_aside truncation q _ outcome).left (.pure rfl)

/-- A stage that logs may be put on the other stack. -/
theorem Stage.Logs.shadows_right {stage : Stage} (hstage : stage.Logs)
    (hheight : ∀ pair ∈ heights, pair.2 ≠ inner'.height + 1)
    (h : inner.Shadows mute (Matched heights) inner') :
    inner.Shadows mute (Matched heights) (stage inner') := by
  obtain ⟨detail, truncation, rfl⟩ := hstage
  intro q q' hq p p' hp
  rw [loggingStage_call, Run.countCall_bind, ← bind_pure (inner.call q)]
  refine (Logging.before_aside detail q' _).right ?_ _ _ (hp.withCalls_right hheight _)
  refine .bind (h q q' hq) ?_
  rintro outcome _ rfl
  exact (Logging.after_aside truncation q' _ outcome).right (.pure rfl)

end

/-! ## Stacks -/

/-- `Aligned mute base l l' heights`: on services of the height `base`, the stages that both lists
have go together at these heights; all other stages log. -/
inductive Aligned (mute : Bool) (base : Nat) : List Stage → List Stage → List (Nat × Nat) → Prop
  | nil : Aligned mute base [] [] []
  | both {stage l l' heights} : Stage.Uniform mute stage → Aligned mute base l l' heights →
      Aligned mute base (stage :: l) (stage :: l')
        ((base + l.length + 1, base + l'.length + 1) :: heights)
  | left {stage l l' heights} : Stage.Logs stage → Aligned mute base l l' heights →
      Aligned mute base (stage :: l) l' heights
  | right {stage l l' heights} : Stage.Logs stage → Aligned mute base l l' heights →
      Aligned mute base l (stage :: l') heights

theorem exists_aligned (base : Nat) {l l' : List Stage} (h : Padded Stage.Logs l l')
    (hstages : ∀ stage ∈ l, stage.Uniform mute) : ∃ heights, Aligned mute base l l' heights := by
  induction h with
  | nil => exact ⟨[], .nil⟩
  | keep _ ih =>
    obtain ⟨hstage, hrest⟩ := List.forall_mem_cons.mp hstages
    obtain ⟨heights, haligned⟩ := ih hrest
    exact ⟨_, .both hstage haligned⟩
  | left hlogs _ ih =>
    obtain ⟨heights, haligned⟩ := ih (List.forall_mem_cons.mp hstages).2
    exact ⟨heights, .left hlogs haligned⟩
  | right hlogs _ ih =>
    obtain ⟨heights, haligned⟩ := ih hstages
    exact ⟨heights, .right hlogs haligned⟩

namespace Aligned

variable {base : Nat} {l l' : List Stage} {heights : List (Nat × Nat)} {inner inner' : Service}

/-- The heights are those of the stages. -/
theorem le (h : Aligned mute base l l' heights) :
    ∀ pair ∈ heights, pair.1 ≤ base + l.length ∧ pair.2 ≤ base + l'.length := by
  induction h with
  | nil => simp
  | both _ _ ih =>
    refine List.forall_mem_cons.mpr ⟨⟨Nat.le_refl _, Nat.le_refl _⟩, fun pair hpair => ?_⟩
    exact ⟨Nat.le_succ_of_le (ih pair hpair).1, Nat.le_succ_of_le (ih pair hpair).2⟩
  | left _ _ ih => exact fun pair hpair => ⟨Nat.le_succ_of_le (ih pair hpair).1, (ih pair hpair).2⟩
  | right _ _ ih => exact fun pair hpair => ⟨(ih pair hpair).1, Nat.le_succ_of_le (ih pair hpair).2⟩

theorem height_eq (h : Aligned mute base l l' heights) (inner inner' : Service) :
    (compose l inner).height = inner.height + l.length ∧
      (compose l' inner').height = inner'.height + l'.length := by
  have hlogs {stage : Stage} (hstage : stage.Logs) (inner : Service) : (stage inner).height =
      inner.height + 1 := by
    obtain ⟨detail, truncation, rfl⟩ := hstage
    rfl
  induction h with
  | nil => exact ⟨rfl, rfl⟩
  | both hstage _ ih =>
    exact ⟨(hstage.height _).trans (congrArg (· + 1) ih.1),
      (hstage.height _).trans (congrArg (· + 1) ih.2)⟩
  | left hstage _ ih => exact ⟨(hlogs hstage _).trans (congrArg (· + 1) ih.1), ih.2⟩
  | right hstage _ ih => exact ⟨ih.1, (hlogs hstage _).trans (congrArg (· + 1) ih.2)⟩

/-- The stacks do the same behind the veil if the services below them do. -/
theorem compose_shadows {whole : List (Nat × Nat)} (h : Aligned mute base l l' heights)
    (hbase : inner.height = base) (hbase' : inner'.height = base)
    (hinner : inner.Shadows mute (Matched whole) inner')
    (hpart : ∀ pair ∈ heights, pair ∈ whole)
    (hwhole : ∀ pair ∈ whole, pair ∈ heights ∨
      (base + l.length < pair.1 ∧ base + l'.length < pair.2)) :
    (compose l inner).Shadows mute (Matched whole) (compose l' inner') := by
  -- The heights of the whole stack stay; those that belong to stages above the ones in question lie
  -- above.
  induction h with
  | nil => exact hinner
  | @both stage l l' heights hstage haligned ih =>
    obtain ⟨hheight, hheight'⟩ := haligned.height_eq inner inner'
    have hle := haligned.le
    obtain ⟨hpair, hrest⟩ := List.forall_mem_cons.mp hpart
    have habove (pair : Nat × Nat) (hmem : pair ∈ whole) : pair =
        (base + l.length + 1, base + l'.length + 1) ∨
        pair ∈ heights ∨ (base + l.length + 1 < pair.1 ∧ base + l'.length + 1 < pair.2) := by
      obtain hmem | hlt := hwhole pair hmem
      · exact (List.mem_cons.mp hmem).imp_right .inl
      · exact .inr (.inr hlt)
    change Service.Shadows mute (Matched whole) (stage (compose l inner))
      (stage (compose l' inner'))
    refine hstage.shadows _ _ _ (Matched.counts ?_ fun pair hmem => ?_)
      (ih hrest fun pair hmem => ?_)
    · rw [hheight, hheight', hbase, hbase']
      exact hpair
    · rw [hheight, hheight', hbase, hbase']
      obtain rfl | hmem | hlt := habove pair hmem
      · simp
      · have hpair := hle pair hmem
        omega
      · omega
    · obtain rfl | hmem | hlt := habove pair hmem
      · exact .inr ⟨Nat.lt_succ_self _, Nat.lt_succ_self _⟩
      · exact .inl hmem
      · exact .inr (by omega)
  | @left stage l l' heights hstage haligned ih =>
    have hheight := (haligned.height_eq inner inner').1
    change Service.Shadows mute (Matched whole) (stage (compose l inner)) (compose l' inner')
    refine hstage.shadows_left (fun pair hmem => ?_) (ih hpart fun pair hmem => ?_)
    · rw [hheight, hbase]
      obtain hmem | hlt := hwhole pair hmem
      · exact Nat.ne_of_lt (Nat.lt_succ_of_le (haligned.le pair hmem).1)
      · exact Nat.ne_of_gt hlt.1
    · exact (hwhole pair hmem).imp_right fun hlt => ⟨Nat.lt_of_succ_lt hlt.1, hlt.2⟩
  | @right stage l l' heights hstage haligned ih =>
    have hheight := (haligned.height_eq inner inner').2
    change Service.Shadows mute (Matched whole) (compose l inner) (stage (compose l' inner'))
    refine hstage.shadows_right (fun pair hmem => ?_) (ih hpart fun pair hmem => ?_)
    · rw [hheight, hbase']
      obtain hmem | hlt := hwhole pair hmem
      · exact Nat.ne_of_lt (Nat.lt_succ_of_le (haligned.le pair hmem).2)
      · exact Nat.ne_of_gt hlt.2
    · exact (hwhole pair hmem).imp_right fun hlt => ⟨hlt.1, Nat.lt_of_succ_lt hlt.2⟩

end Aligned

end Courier
