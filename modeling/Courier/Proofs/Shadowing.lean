import Courier.Proofs.Exchanges
/-
Acts that do the same but for what is not looked at. One of two acts may have
effects that the other one lacks, if they are aside, and where a request is
remembered or handed to a transport there may be another one that counts as the
same. All other effects come in the same order, under the same replies
(`Act.Shadows`).

Such acts have runs that correspond step by step, the steps that are not looked
at left out (`Act.Shadows.exists_runs`), and in one world they end alike
(`Act.Shadows.run`). The loop of a dispatch shadows another one as soon as a
single attempt and its judging do (`Dispatch.attempts_shadows`).
-/
namespace Courier

/-- What is overlooked when acts are compared: the effects that are aside, the requests that count
as the same, and the steps whose replies need not be considered, which are not fair. -/
structure Veil where
  aside : Effect → Prop
  like : Request → Request → Prop
  fair : Step → Prop

/-! ## Acts -/

namespace Act

variable {α β γ δ : Type} {v : Veil}

/-- `act.Shadows v same act'`: behind the veil the acts perform the same effects under the same
replies, and what they end with is related by `same`. -/
inductive Shadows (v : Veil) (same : α → β → Prop) : Act α → Act β → Prop
  | done {a b} : same a b → Shadows v same (.done a) (.done b)
  | perform {e next next'} :
      (∀ reply, v.fair ⟨e, reply⟩ → Shadows v same (next reply) (next' reply)) →
      Shadows v same (.perform e next) (.perform e next')
  | remember {draft q q' next next'} : v.like q q' → Shadows v same (next ()) (next' ()) →
      Shadows v same (.perform (.remember draft q) next) (.perform (.remember draft q') next')
  | transported {q q' next next'} : v.like q q' → Shadows v same (next ()) (next' ()) →
      Shadows v same (.perform (.note (.transported q)) next)
        (.perform (.note (.transported q')) next')
  | left {e next act'} : v.aside e → (∀ reply, Shadows v same (next reply) act') →
      Shadows v same (.perform e next) act'
  | right {act e next} : v.aside e → (∀ reply, Shadows v same act (next reply)) →
      Shadows v same act (.perform e next)

namespace Shadows

variable {same : α → β → Prop} {act : Act α} {act' : Act β}

theorem refl {same : α → α → Prop} (hsame : ∀ a, same a a) (act : Act α) :
    act.Shadows v same act := by
  induction act with
  | done a => exact .done (hsame a)
  | perform e next ih => exact .perform fun reply _ => ih reply

theorem bind {same' : γ → δ → Prop} {f : α → Act γ} {g : β → Act δ} (h : act.Shadows v same act')
    (hfg : ∀ a b, same a b → (f a).Shadows v same' (g b)) :
    (act.bind f).Shadows v same' (act'.bind g) := by
  induction h with
  | done hab => exact hfg _ _ hab
  | perform _ ih => exact .perform ih
  | remember hlike _ ih => exact .remember hlike ih
  | transported hlike _ ih => exact .transported hlike ih
  | left haside _ ih => exact .left haside ih
  | right haside _ ih => exact .right haside ih

end Shadows

/-- The act performs nothing but effects that are aside, and ends with something of which `P`
holds. -/
inductive Aside (v : Veil) (P : α → Prop) : Act α → Prop
  | done {a} : P a → Aside v P (.done a)
  | perform {e next} : v.aside e → (∀ reply, Aside v P (next reply)) → Aside v P (.perform e next)

namespace Aside

variable {P : α → Prop} {act : Act α}

theorem bind {Q : β → Prop} {f : α → Act β} (h : act.Aside v P) (hf : ∀ a, P a → (f a).Aside v Q) :
    (act.bind f).Aside v Q := by
  induction h with
  | done ha => exact hf _ ha
  | perform haside _ ih => exact .perform haside ih

theorem shadows_left {same : β → γ → Prop} {f : α → Act β} {act' : Act γ} (h : act.Aside v P)
    (hf : ∀ a, P a → (f a).Shadows v same act') : (act.bind f).Shadows v same act' := by
  induction h with
  | done ha => exact hf _ ha
  | perform haside _ ih => exact .left haside ih

theorem shadows_right {same : β → γ → Prop} {f : α → Act γ} {act' : Act β} (h : act.Aside v P)
    (hf : ∀ a, P a → act'.Shadows v same (f a)) : act'.Shadows v same (act.bind f) := by
  induction h with
  | done ha => exact hf _ ha
  | perform haside _ ih => exact .right haside ih

/-- Acts that are aside shadow one another. -/
theorem shadows {Q : β → Prop} {same : α → β → Prop} {act' : Act β} (h : act.Aside v P)
    (h' : act'.Aside v Q) (hsame : ∀ a b, P a → Q b → same a b) : act.Shadows v same act' := by
  induction h with
  | done ha =>
    induction h' with
    | done hb => exact .done (hsame _ _ ha hb)
    | perform haside _ ih => exact .right haside ih
  | perform haside _ ih => exact .left haside ih

end Aside

/-! ## Runs -/

/-- What is seen of a step behind the veil: nothing if it is aside, and the same of requests that
count as the same. -/
structure Sees (v : Veil) (view : Step → Option Step) : Prop where
  aside : ∀ s : Step, v.aside s.effect → view s = none
  remember :
    ∀ draft q q', v.like q q' → view ⟨.remember draft q, ()⟩ = view ⟨.remember draft q', ()⟩
  transported :
    ∀ q q', v.like q q' → view ⟨.note (.transported q), ()⟩ = view ⟨.note (.transported q'), ()⟩

theorem exists_reply (e : Effect) : Nonempty e.Reply :=
  ⟨((World.initial .default true .unreachable).answer e).1⟩

/-- A run of an act is one of every act that it shadows, as far as it is seen. -/
theorem Shadows.exists_runs {same : α → β → Prop} {act : Act α} {act' : Act β}
    (h : act.Shadows v same act') {view : Step → Option Step} (hview : Sees v view) {t : Trace}
    {a : α} (hruns : act.Runs t a)
    (hfair : ∀ s ∈ t, v.fair s) :
    ∃ t' b, act'.Runs t' b ∧ same a b ∧ t'.filterMap view = t.filterMap view := by
  induction h generalizing t with
  | done hab =>
    obtain ⟨rfl, hdone⟩ := done_leads.mp hruns
    cases hdone
    exact ⟨[], _, .start, hab, rfl⟩
  | @perform e next next' _ ih =>
    obtain ⟨reply, t, rfl, hnext⟩ := perform_runs.mp hruns
    obtain ⟨hstep, hrest⟩ := List.forall_mem_cons.mp hfair
    obtain ⟨t', b, hruns', hab, hseen⟩ := ih reply hstep hnext hrest
    exact ⟨⟨e, reply⟩ :: t', b, .perform hruns', hab, by simp only [List.filterMap_cons, hseen]⟩
  | @remember draft q q' next next' hlike _ ih =>
    obtain ⟨reply, t, rfl, hnext⟩ := perform_runs.mp hruns
    obtain ⟨t', b, hruns', hab, hseen⟩ := ih hnext (List.forall_mem_cons.mp hfair).2
    refine ⟨⟨.remember draft q', ()⟩ :: t', b, .perform hruns', hab, ?_⟩
    have hstep := hview.remember draft q q' hlike
    simp only [List.filterMap_cons, hseen, ← hstep]
  | @transported q q' next next' hlike _ ih =>
    obtain ⟨reply, t, rfl, hnext⟩ := perform_runs.mp hruns
    obtain ⟨t', b, hruns', hab, hseen⟩ := ih hnext (List.forall_mem_cons.mp hfair).2
    refine ⟨⟨.note (.transported q'), ()⟩ :: t', b, .perform hruns', hab, ?_⟩
    have hstep := hview.transported q q' hlike
    simp only [List.filterMap_cons, hseen, ← hstep]
  | @left e next act' haside _ ih =>
    obtain ⟨reply, t, rfl, hnext⟩ := perform_runs.mp hruns
    obtain ⟨t', b, hruns', hab, hseen⟩ := ih reply hnext (List.forall_mem_cons.mp hfair).2
    refine ⟨t', b, hruns', hab, ?_⟩
    rw [List.filterMap_cons_none (hview.aside _ haside), hseen]
  | @right act e next haside _ ih =>
    obtain ⟨reply⟩ := exists_reply e
    obtain ⟨t', b, hruns', hab, hseen⟩ := ih reply hruns hfair
    refine ⟨⟨e, reply⟩ :: t', b, .perform hruns', hab, ?_⟩
    rw [List.filterMap_cons_none (hview.aside _ haside), hseen]

/-! ## Worlds -/

/-- Worlds that are alike answer alike and stay alike, and what is aside changes nothing that
matters. -/
structure Covers (v : Veil) (alike : World → World → Prop) : Prop where
  fair : ∀ w w' e, alike w w' → v.fair ⟨e, (w.answer e).1⟩
  answer :
    ∀ w w' e, alike w w' → (w.answer e).1 = (w'.answer e).1 ∧ alike (w.answer e).2 (w'.answer e).2
  left : ∀ w w' e, alike w w' → v.aside e → alike (w.answer e).2 w'
  right : ∀ w w' e, alike w w' → v.aside e → alike w (w'.answer e).2
  remember : ∀ w w' draft q q', alike w w' → v.like q q' →
    alike (w.answer (.remember draft q)).2 (w'.answer (.remember draft q')).2
  transported : ∀ w w' q q', alike w w' → v.like q q' →
    alike (w.answer (.note (.transported q))).2 (w'.answer (.note (.transported q'))).2

/-- Run in worlds that are alike, the acts end alike. -/
theorem Shadows.run {same : α → β → Prop} {act : Act α} {act' : Act β} (h : act.Shadows v same act')
    {alike : World → World → Prop} (hcovers : Covers v alike) {w w' : World} (hw : alike w w') :
    same (w.run act).1 (w'.run act').1 ∧ alike (w.run act).2 (w'.run act').2 := by
  induction h generalizing w w' with
  | done hab => exact ⟨hab, hw⟩
  | @perform e next next' _ ih =>
    obtain ⟨hreply, hafter⟩ := hcovers.answer w w' e hw
    have hnext := ih (w.answer e).1 (hcovers.fair w w' e hw) hafter
    simp only [World.run]
    rw [← hreply]
    exact hnext
  | remember hlike _ ih => exact ih (hcovers.remember w w' _ _ _ hw hlike)
  | transported hlike _ ih => exact ih (hcovers.transported w w' _ _ hw hlike)
  | left haside _ ih => exact ih _ (hcovers.left w w' _ hw haside)
  | right haside _ ih => exact ih _ (hcovers.right w w' _ hw haside)

end Act

/-! ## Worlds that are alike -/

/-- What a world tells when it answers an effect. -/
def Effect.told (notesWaits : Bool) : Effect → List Notice
  | .note n => [n]
  | .sleep ms mode => if notesWaits then [.slept ms mode] else []
  | _ => []

namespace World

variable {w w' : World}

/-- What a world answers from: all but what was told, sent off and recorded. -/
def core (w : World) : World := { w with notices := [], sent := [], history := [], external := [] }

theorem eq_of_core (hcore : w.core = w'.core) (hnotices : w.notices = w'.notices)
    (hsent : w.sent = w'.sent) (hkept : ∀ recorder, w.kept recorder = w'.kept recorder) :
    w = w' := by
  have hhistory : w.history = w'.history := hkept .history
  have hexternal : w.external = w'.external := hkept .external
  cases w
  cases w'
  simp_all [core]

theorem answer_core_self (w : World) (e : Effect) :
    (w.core.answer e).1 = (w.answer e).1 ∧ (w.core.answer e).2.core = (w.answer e).2.core := by
  cases e with
  | record recorder q r? => cases recorder <;> exact ⟨rfl, rfl⟩
  | writeSink sink bytes =>
    cases sink with
    | buffer name => exact ⟨rfl, rfl⟩
    | file path =>
      simp only [answer, write, core]
      split <;> exact ⟨rfl, rfl⟩
  | sleep ms mode => cases hnotes : w.notesWaits <;> simp [answer, core, hnotes]
  | _ => exact ⟨rfl, rfl⟩

theorem answer_core (h : w.core = w'.core) (e : Effect) :
    (w.answer e).1 = (w'.answer e).1 ∧ (w.answer e).2.core = (w'.answer e).2.core := by
  obtain ⟨hreply, hafter⟩ := w.answer_core_self e
  obtain ⟨hreply', hafter'⟩ := w'.answer_core_self e
  rw [← hreply, ← hreply', ← hafter, ← hafter', h]
  exact ⟨rfl, rfl⟩

theorem notices_answer (w : World) (e : Effect) :
    (w.answer e).2.notices = w.notices ++ e.told w.notesWaits := by
  cases e with
  | note n => rfl
  | record recorder q r? => cases recorder <;> simp [answer, append, Effect.told]
  | writeSink sink bytes =>
    cases sink with
    | buffer name => simp [answer, write, Effect.told]
    | file path =>
      simp only [answer, write]
      split <;> simp [Effect.told]
  | sleep ms mode => cases hnotes : w.notesWaits <;> simp [answer, Effect.told, hnotes]
  | _ => simp [answer, setSequence, Effect.told]

/-- The worlds are the same as far as they are seen: of what was told, what `notice?` shows, of the
requests that were sent off, what `seen` makes of them, and of what was recorded, all or nothing. -/
structure Alike (notice? : Notice → Option Notice) (seen : Request → Request) (records : Bool)
    (w w' : World) : Prop where
  core : w.core = w'.core
  notices : w.notices.filterMap notice? = w'.notices.filterMap notice?
  sent : w.sent.map (fun entry => (entry.1, seen entry.2)) = w'.sent.map fun entry =>
    (entry.1, seen entry.2)
  kept : records = true → ∀ recorder, w.kept recorder = w'.kept recorder

variable {notice? : Notice → Option Notice} {seen : Request → Request} {records : Bool}

theorem Alike.notesWaits (h : w.Alike notice? seen records w') : w.notesWaits = w'.notesWaits := by
  have hcore := congrArg World.notesWaits h.core
  exact hcore

theorem Alike.refl (w : World) : w.Alike notice? seen records w := ⟨rfl, rfl, rfl, fun _ _ => rfl⟩

theorem Alike.symm (h : w.Alike notice? seen records w') : w'.Alike notice? seen records w :=
  ⟨h.core.symm, h.notices.symm, h.sent.symm,
    fun hrecords recorder => (h.kept hrecords recorder).symm⟩

theorem Alike.trans {w'' : World} (h : w.Alike notice? seen records w')
    (h' : w'.Alike notice? seen records w'') :
    w.Alike notice? seen records w'' :=
  ⟨h.core.trans h'.core, h.notices.trans h'.notices, h.sent.trans h'.sent,
    fun hrecords recorder => (h.kept hrecords recorder).trans (h'.kept hrecords recorder)⟩

theorem Alike.answer (h : w.Alike notice? seen records w') (e : Effect) :
    (w.answer e).1 = (w'.answer e).1 ∧
      (w.answer e).2.Alike notice? seen records (w'.answer e).2 := by
  obtain ⟨hreply, hcore⟩ := answer_core h.core e
  refine ⟨hreply, hcore, ?_, ?_, fun hrecords recorder => ?_⟩
  · rw [notices_answer, notices_answer, List.filterMap_append, List.filterMap_append,
      h.notices, h.notesWaits]
  · rw [w.sent_answer e (w.answer e).1, w'.sent_answer e (w.answer e).1, List.map_append,
      List.map_append, h.sent]
  · rw [w.kept_answer e (w.answer e).1, w'.kept_answer e (w.answer e).1, h.kept hrecords]

end World

/-- Worlds that are alike are covered by a veil under which effects that are aside leave a world
like itself, and which shows the same of requests that count as the same. The left one may have a
property that it keeps, which makes its replies fair. -/
theorem Act.covers_alike {v : Veil} {notice? : Notice → Option Notice} {seen : Request → Request}
    {records : Bool} {P : World → Prop} (hP : ∀ w e, P w → P (w.answer e).2)
    (hfair : ∀ w e, P w → v.fair ⟨e, (w.answer e).1⟩)
    (haside : ∀ (w : World) e, v.aside e → (w.answer e).2.Alike notice? seen records w)
    (hseen : ∀ q q', v.like q q' → seen q = seen q')
    (htransported : ∀ q q', v.like q q' → notice? (.transported q) = notice? (.transported q')) :
    Act.Covers v fun w w' => P w ∧ w.Alike notice? seen records w' where
  fair := fun w w' e hw => hfair w e hw.1
  answer := fun w w' e hw => ⟨(hw.2.answer e).1, hP w e hw.1, (hw.2.answer e).2⟩
  left := fun w w' e hw he => ⟨hP w e hw.1, (haside w e he).trans hw.2⟩
  right := fun w w' e hw he => ⟨hw.1, hw.2.trans (haside w' e he).symm⟩
  remember := fun w w' draft q q' hw hlike => by
    refine ⟨hP w _ hw.1, hw.2.core, hw.2.notices, ?_, hw.2.kept⟩
    change (draft, seen q) :: w.sent.map _ = (draft, seen q') :: w'.sent.map _
    rw [hseen q q' hlike, hw.2.sent]
  transported := fun w w' q q' hw hlike => by
    refine ⟨hP w _ hw.1, hw.2.core, ?_, hw.2.sent, hw.2.kept⟩
    rw [World.notices_answer, World.notices_answer, List.filterMap_append,
      List.filterMap_append, hw.2.notices]
    simp only [Effect.told, List.filterMap_cons, htransported q q' hlike]

/-! ## Steps of a dispatch -/

namespace Run

variable {α β γ δ : Type} {v : Veil} {kept : Progress → Progress → Prop}

/-- The steps shadow others, from what is kept alike to what is kept alike. -/
def Shadows (v : Veil) (kept : Progress → Progress → Prop) (same : α → β → Prop) (x : Run α)
    (y : Run β) : Prop :=
  ∀ p p', kept p p' → (x p).Shadows v (fun r r' => same r.1 r'.1 ∧ kept r.2 r'.2) (y p')

theorem Shadows.pure {same : α → β → Prop} {a : α} {b : β} (h : same a b) :
    Shadows v kept same (Pure.pure a : Run α) (Pure.pure b : Run β) :=
  fun _ _ hp => .done ⟨h, hp⟩

theorem Shadows.bind {same : α → β → Prop} {same' : γ → δ → Prop} {x : Run α} {y : Run β}
    {f : α → Run γ} {g : β → Run δ} (h : Shadows v kept same x y)
    (hfg : ∀ a b, same a b → Shadows v kept same' (f a) (g b)) :
    Shadows v kept same' (x >>= f) (y >>= g) :=
  fun p p' hp => (h p p' hp).bind fun r r' hr => hfg r.1 r'.1 hr.1 r.2 r'.2 hr.2

theorem Shadows.act {same : α → β → Prop} {act : Act α} {act' : Act β}
    (h : act.Shadows v same act') :
    Shadows v kept same (Run.act act) (Run.act act') :=
  fun _ _ hp => h.bind fun _ _ hab => .done ⟨hab, hp⟩

/-- An effect shadows itself; its replies are fair. -/
theorem Shadows.effect (e : Effect) :
    Shadows v kept (fun reply reply' => reply = reply' ∧ v.fair ⟨e, reply⟩) (Run.effect e)
      (Run.effect e) :=
  fun _ _ hp => .perform fun _ hfair => .done ⟨⟨rfl, hfair⟩, hp⟩

theorem Shadows.note (n : Notice) : Shadows v kept Eq (Run.note n) (Run.note n) :=
  fun _ _ hp => .perform fun _ _ => .done ⟨rfl, hp⟩

theorem Shadows.sleep (ms : Nat) (mode : Mode) :
    Shadows v kept Eq (Run.effect (.sleep ms mode) : Run Unit) (Run.effect (.sleep ms mode)) :=
  fun _ _ hp => .perform fun _ _ => .done ⟨rfl, hp⟩

theorem Shadows.run' {same : α → β → Prop} {x : Run α} {y : Run β} (h : Shadows v kept same x y)
    {p p' : Progress} (hp : kept p p') : Act.Shadows v same (x.run' p) (y.run' p') :=
  (h p p' hp).bind fun _ _ hr => .done hr.1

/-- The steps are aside, and leave what is kept as it is. -/
def Aside (v : Veil) (x : Run Unit) : Prop := ∀ p, (x p).Aside v fun r => r.2 = p

theorem Aside.pure : Aside v (Pure.pure ()) := fun _ => .done rfl

theorem Aside.note {n : Notice} (h : v.aside (.note n)) : Aside v (Run.note n) :=
  fun _ => .perform h fun _ => .done rfl

theorem Aside.seq {x y : Run Unit} (hx : Aside v x) (hy : Aside v y) : Aside v (x >>= fun _ => y) :=
  fun p => (hx p).bind fun r hr => hr ▸ hy r.2

theorem Aside.left {same : β → γ → Prop} {x : Run Unit} {f : Unit → Run β} {y : Run γ}
    (hx : Aside v x) (hf : Shadows v kept same (f ()) y) : Shadows v kept same (x >>= f) y :=
  fun p p' hp => (hx p).shadows_left fun r hr => hf r.2 p' (hr ▸ hp)

theorem Aside.right {same : β → γ → Prop} {x : Run Unit} {f : Unit → Run γ} {y : Run β}
    (hx : Aside v x) (hf : Shadows v kept same y (f ())) : Shadows v kept same y (x >>= f) :=
  fun p p' hp => (hx p').shadows_right fun r hr => hf p r.2 (hr ▸ hp)

end Run

/-! ## The loop -/

namespace Dispatch

variable {d d' : Dispatch} {v : Veil} {kept : Progress → Progress → Prop}
  {near : Options → Options → Prop} {same : Outcome → Outcome → Prop}

/-- The retry tests take options that are near for the same, and leave them near. -/
def TestsAlike (near : Options → Options → Prop) (d : Dispatch) : Prop :=
  ∀ test, d.retry.test? = some test → ∀ f o o', near o o' →
    (test f o).1 = (test f o').1 ∧ near (test f o).2 (test f o').2

/-- What judgements come to is related, and what the next attempts would start from is near. -/
structure JudgedAlike (same : Outcome → Outcome → Prop) (near : Options → Options → Prop)
    (j j' : Judgement) : Prop where
  outcome : same j.outcome j'.outcome
  again? : Option.Rel (fun a a' => a.1 = a'.1 ∧ near a.2 a'.2) j.again? j'.again?

theorem test_shadows (hretry : d'.retry = d.retry) (htests : d.TestsAlike near) {o o' : Options}
    (ho : near o o') (e : StatusError) :
    Run.Shadows v kept (fun a a' => a.1 = a'.1 ∧ near a.2 a'.2) (d.test e o) (d'.test e o') := by
  unfold test
  rw [hretry]
  cases htest : d.retry.test? with
  | none => exact .pure ⟨rfl, ho⟩
  | some test => exact .bind (.note _) fun _ _ _ => .pure (htests test htest _ o o' ho)

/-- Judging shadows judging, whatever becomes of raising, as long as what comes of it is related. -/
theorem judge_shadows {raised : Bool → Bool → Prop} (hretry : d'.retry = d.retry)
    (htests : d.TestsAlike near)
    (hraises : ∀ e, Run.Shadows v kept raised (d.raises e) (d'.raises e))
    (hrefl : ∀ out, same out out)
    (hsame : ∀ (e : StatusError) b b' (rest : Bool), raised b b' →
      same (if b || rest then .error (.http e) else .ok e.response)
        (if b' || rest then .error (.http e) else .ok e.response))
    {o o' : Options} (ho : near o o') (outcome : Outcome) :
    Run.Shadows v kept (JudgedAlike same near) (d.judge o outcome) (d'.judge o' outcome) := by
  unfold judge
  cases judged? outcome with
  | error f => exact .pure ⟨hrefl _, .none⟩
  | ok r =>
    refine .bind (.effect .truncation) ?_
    rintro truncation _ ⟨rfl, -⟩
    cases StatusError.of? r truncation with
    | none => exact .pure ⟨hrefl _, .none⟩
    | some e =>
      refine .bind (test_shadows hretry htests ho e) ?_
      rintro ⟨again, next⟩ ⟨again', next'⟩ ⟨rfl, hnext⟩
      refine .bind (hraises e) fun b b' hb => .pure ?_
      rw [hretry]
      refine ⟨hsame e b b' _ hb, ?_⟩
      cases again with
      | true => exact .some ⟨rfl, hnext⟩
      | false => exact .none

/-- Where the throw policy is the same, so is raising. -/
theorem raises_shadows (hthrowing : d'.throwing = d.throwing) (e : StatusError) :
    Run.Shadows v kept Eq (d.raises e) (d'.raises e) := by
  intro p p' hp
  unfold raises
  rw [hthrowing]
  cases d.throwing.onFailure with
  | false => exact .done ⟨rfl, hp⟩
  | true =>
    cases d.throwing.guard? with
    | none =>
      cases d.throwing.listener? with
      | none => exact .done ⟨rfl, hp⟩
      | some listener => exact .perform fun _ _ => .done ⟨rfl, hp⟩
    | some guard =>
      refine .perform fun _ _ => ?_
      cases hguard : guard e.response with
      | false => exact .done ⟨rfl, hp⟩
      | true =>
        cases d.throwing.listener? with
        | none => exact .done ⟨rfl, hp⟩
        | some listener => exact .perform fun _ _ => .done ⟨rfl, hp⟩

theorem delay_shadows (hretry : d'.retry = d.retry) (n : Nat) (e : StatusError) :
    Run.Shadows v kept Eq (d.delay n e) (d'.delay n e) := by
  unfold delay
  rw [hretry]
  split
  · exact .bind (.note _) fun _ _ _ => .pure rfl
  · exact .pure rfl

/-- If every attempt shadows the other one and so does its judging, all attempts together do. -/
theorem attempts_shadows (hretry : d'.retry = d.retry)
    (hattempt : ∀ o o', near o o' → Run.Shadows v kept Eq (d.attempt o) (d'.attempt o'))
    (hjudge : ∀ o o' outcome, near o o' →
      Run.Shadows v kept (JudgedAlike same near) (d.judge o outcome) (d'.judge o' outcome))
    (mode : Mode) (left n : Nat) {o o' : Options} (ho : near o o') :
    Run.Shadows v kept same (d.attempts mode left n o) (d'.attempts mode left n o') := by
  induction left generalizing n o o' with
  | zero =>
    refine .bind (hattempt o o' ho) ?_
    rintro outcome _ rfl
    exact .bind (hjudge o o' outcome ho) fun j j' hj => .pure hj.outcome
  | succ left ih =>
    refine .bind (hattempt o o' ho) ?_
    rintro outcome _ rfl
    refine .bind (hjudge o o' outcome ho) ?_
    rintro ⟨out, again⟩ ⟨out', again'⟩ ⟨hout, hagain⟩
    cases hagain with
    | none => exact .pure hout
    | @some a a' hagain =>
      obtain ⟨e, next⟩ := a
      obtain ⟨e', next'⟩ := a'
      obtain ⟨rfl, hnext⟩ : e = e' ∧ near next next' := hagain
      refine .bind (delay_shadows hretry n e) ?_
      rintro ms _ rfl
      exact .bind (.sleep _ _) fun _ _ _ => ih (n + 1) hnext

theorem run_shadows (hretry : d'.retry = d.retry) (hmode : d'.mode = d.mode)
    (hattempt : ∀ o o', near o o' → Run.Shadows v kept Eq (d.attempt o) (d'.attempt o'))
    (hjudge : ∀ o o' outcome, near o o' →
      Run.Shadows v kept (JudgedAlike same near) (d.judge o outcome) (d'.judge o' outcome))
    (hstart : kept .start .start) (hoptions : near d.options d'.options) :
    d.run.Shadows v same d'.run := by
  rw [run_eq, run_eq, hretry, hmode]
  exact (attempts_shadows hretry hattempt hjudge _ _ _ hoptions).run' hstart

end Dispatch

end Courier
