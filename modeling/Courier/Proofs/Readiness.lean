import Courier.Service.Instances
/-
Whether the stages keep to what instances ask for: that none is called which
has not said that it is ready since it was last called. To find out, an alarm is
put on the instances below a stack, whatever they are. A caller who keeps to it
never hears the alarm if no stage of the stack calls a copy. If one does, as
logging, each call that gets below the stack sounds it
(`Caller.run_stack_alarm`). One call shows it (`Instances.call_stack_guarded`),
and what callers have seen of the instances carries it through their runs
(`Caller.run_stack_guarded`).

Around a service that is always ready the stages are those that a dispatch runs
(`BuiltIn.stage_call`, `Caller.run_oneshot`).
-/
namespace Courier

namespace BuiltIn

/-- What a stage does with a request, called and waited for at once. -/
theorem stage_call (part : BuiltIn) (s : Service) (q : Request) : (part.stage s).call q = (do
    match ← part.errand (s.height + 1) q with
    | .answer future => future
    | .forward q resume => resume (← s.call q)) := by
  cases part with
  | sending draft announces hooks => simp [stage, sendingStage, Service.above, errand]
  | recording recorders => simp [stage, recordingStage, Service.above, errand]
  | faking matchers preventsStray =>
    simp only [stage, fakingStage, Service.above, errand, bind_assoc]
    refine bind_congr fun stub => ?_
    cases stub with
    | some stub => rfl
    | none => cases preventsStray <;> simp
  | logging detail truncation =>
    simp only [stage, loggingStage, Service.above, errand, bind_assoc]
    refine bind_congr fun earlier => ?_
    split <;> rfl

end BuiltIn

namespace Instances

/-! ## Stacks -/

section Stacks

variable {m : Type → Type} {σ : Type} [Monad m] [MonadLiftT Run m] {inner : Instances m σ}

theorem height_stack (parts : List BuiltIn) (inner : Instances m σ) :
    (stack parts inner).height = inner.height + parts.length := by
  induction parts with
  | nil => rfl
  | cons part parts ih =>
    show (stack parts inner).height + 1 = _
    rw [ih, List.length_cons, Nat.add_assoc]

@[simp] theorem poll_stack (parts : List BuiltIn) (inner : Instances m σ) :
    (stack parts inner).poll = inner.poll := by
  induction parts with
  | nil => rfl
  | cons part parts ih => exact ih

@[simp] theorem copy_stack (parts : List BuiltIn) (inner : Instances m σ) :
    (stack parts inner).copy = inner.copy := by
  induction parts with
  | nil => rfl
  | cons part parts ih => exact ih

/-- A stack that is called does what its first stage does with the rest of it. -/
theorem call_stack_cons (part : BuiltIn) (parts : List BuiltIn) (inner : Instances m σ)
    (q : Request) (s : σ) :
    (stack (part :: parts) inner).call q s = (do
      match ← liftM (part.errand (inner.height + parts.length + 1) q) with
      | .answer future => pure (liftM future, s)
      | .forward q resume =>
        if part.callsCopy then
          pure (do
            let (future, _) ← (stack parts inner).call q (inner.copy s)
            liftM (resume (← future)), s)
        else
          let (future, s) ← (stack parts inner).call q s
          pure (do liftM (resume (← future)), s)) := by
  rw [← height_stack parts inner, ← copy_stack parts inner]
  rfl

end Stacks

/-! ## The alarm -/

section Alarm

variable {m : Type → Type} {σ : Type} [Monad m] {inner : Instances m σ}

theorem poll_guarded (alarm : m Unit) (inner : Instances m σ) (s : σ) (kept : Bool) :
    (inner.guarded alarm).poll (s, kept) = (do
      let asked ← inner.poll s
      pure (asked.1, (asked.2, kept || asked.1.isReady))) := rfl

theorem copy_guarded (alarm : m Unit) (inner : Instances m σ) (s : σ) (kept : Bool) :
    (inner.guarded alarm).copy (s, kept) = (inner.copy s, false) := rfl

/-- What answers below a stack that is called when it is ready, or is not: the alarm is silent if it
is and no stage calls a copy. -/
def heard (alarm : m Unit) (ready : Bool) (parts : List BuiltIn) (inner : Instances m σ) :
    Instances m σ :=
  if ready && !parts.any (·.callsCopy) then inner else inner.alarming alarm

@[simp] theorem height_heard (alarm : m Unit) (ready : Bool) (parts : List BuiltIn)
    (inner : Instances m σ) :
    (inner.heard alarm ready parts).height = inner.height := by
  unfold heard
  split <;> rfl

@[simp] theorem poll_heard (alarm : m Unit) (ready : Bool) (parts : List BuiltIn)
    (inner : Instances m σ) :
    (inner.heard alarm ready parts).poll = inner.poll := by
  unfold heard
  split <;> rfl

@[simp] theorem copy_heard (alarm : m Unit) (ready : Bool) (parts : List BuiltIn)
    (inner : Instances m σ) :
    (inner.heard alarm ready parts).copy = inner.copy := by
  unfold heard
  split <;> rfl

theorem heard_cons {part : BuiltIn} (alarm : m Unit) (ready : Bool) (parts : List BuiltIn)
    (inner : Instances m σ) :
    inner.heard alarm ready (part :: parts) =
      inner.heard alarm (ready && !part.callsCopy) parts := by
  simp only [heard, List.any_cons, Bool.not_or, Bool.and_assoc]

variable [LawfulMonad m] [MonadLiftT Run m]

/-- What is seen of a call if nobody looks at what the guard keeps. -/
def unguarded (called : m Outcome × (σ × Bool)) : m Outcome × σ := (called.1, called.2.1)

/-- A call of a stack on guarded instances sounds the alarm whenever it gets below, unless the
instance there has said that it is ready and no stage calls a copy. -/
theorem call_stack_guarded (alarm : m Unit) (parts : List BuiltIn) (q : Request) (s : σ)
    (ready : Bool) :
    unguarded <$> (stack parts (inner.guarded alarm)).call q (s, ready) =
      (stack parts (inner.heard alarm ready parts)).call q s := by
  induction parts generalizing q s ready with
  | nil =>
    show unguarded <$> (inner.guarded alarm).call q (s, ready) = _
    cases ready <;> simp [guarded, alarming, unguarded, stack, heard]
  | cons part parts ih =>
    have hheight : (inner.guarded alarm).height = inner.height := rfl
    rw [heard_cons, call_stack_cons, call_stack_cons, map_bind, hheight, height_heard, copy_heard]
    refine bind_congr fun errand => ?_
    cases errand with
    | answer future => simp [unguarded]
    | forward q resume =>
      cases part.callsCopy with
      | true =>
        -- The copy has said nothing yet.
        rw [Bool.not_true, Bool.and_false]
        simp only [if_true, map_pure, ← ih, bind_map_left]
        rfl
      | false =>
        rw [Bool.not_false, Bool.and_true]
        simp only [Bool.false_eq_true, if_false, ← ih, bind_map_left, map_bind, map_pure]
        rfl

end Alarm

end Instances

namespace Caller

open Instances

variable {m : Type → Type} {σ α : Type} [Monad m] [LawfulMonad m] [MonadLiftT Run m]
  {inner : Instances m σ} {held : List ((σ × Bool) × Bool)}

/-- Each instance that was seen to be ready has kept that it is. -/
def Seen (held : List ((σ × Bool) × Bool)) : Prop :=
  ∀ entry ∈ held, entry.2 = true → entry.1.2 = true

/-- The instances held if nobody looks at what the guard keeps. -/
def unguardedAll (held : List ((σ × Bool) × Bool)) : List (σ × Bool) :=
  held.map fun entry => (entry.1.1, entry.2)

theorem Seen.set (h : Seen held) (i : Nat) {entry : (σ × Bool) × Bool}
    (hentry : entry.2 = true → entry.1.2 = true) :
    Seen (held.set i entry) := by
  intro other hmem
  rcases List.mem_or_eq_of_mem_set hmem with hmem | rfl
  · exact h other hmem
  · exact hentry

theorem Seen.append (h : Seen held) (entry : σ × Bool) : Seen (held ++ [(entry, false)]) := by
  intro other hmem
  rcases List.mem_append.mp hmem with hmem | hmem
  · exact h other hmem
  · rw [List.mem_singleton.mp hmem]
    simp

theorem getElem?_unguardedAll (i : Nat) :
    (unguardedAll held)[i]? = held[i]?.map fun entry => (entry.1.1, entry.2) := List.getElem?_map

theorem unguardedAll_set (i : Nat) (s : σ) (kept seen : Bool) :
    unguardedAll (held.set i ((s, kept), seen)) = (unguardedAll held).set i (s, seen) := by
  rw [unguardedAll, List.map_set]
  rfl

theorem unguardedAll_append (s : σ) (kept seen : Bool) :
    unguardedAll (held ++ [((s, kept), seen)]) = unguardedAll held ++ [(s, seen)] := by
  rw [unguardedAll, List.map_append]
  rfl

/-- Nothing shows of the guard but the alarm, which sounds for every call that gets below the stack
or for none. -/
theorem run_stack_guarded (alarm : m Unit) (parts : List BuiltIn) (caller : Caller α)
    (hheld : Seen held) (futures : List (m Outcome)) :
    caller.run (stack parts (inner.guarded alarm)) held futures =
      caller.run (stack parts (inner.heard alarm true parts)) (unguardedAll held) futures := by
  induction caller generalizing held futures with
  | done a => rfl
  | poll i next ih =>
    rw [run, run, getElem?_unguardedAll]
    cases hentry : held[i]? with
    | none => rfl
    | some entry =>
      obtain ⟨⟨s, kept⟩, seen⟩ := entry
      have hkept : seen = true → kept = true := hheld _ (List.mem_of_getElem? hentry)
      simp only [Option.map_some, poll_stack, poll_heard, poll_guarded, bind_assoc, pure_bind]
      refine bind_congr fun asked => ?_
      rw [ih asked.1 (hheld.set i ?_), unguardedAll_set]
      simp only [Bool.or_eq_true]
      exact Or.imp_left hkept
  | copy i next ih =>
    rw [run, run, getElem?_unguardedAll]
    cases hentry : held[i]? with
    | none => rfl
    | some entry =>
      obtain ⟨⟨s, kept⟩, seen⟩ := entry
      simp only [Option.map_some, copy_stack, copy_heard, copy_guarded]
      rw [ih (hheld.append _), unguardedAll_append]
  | call i q next ih =>
    rw [run, run, getElem?_unguardedAll]
    cases hentry : held[i]? with
    | none => rfl
    | some entry =>
      obtain ⟨⟨s, kept⟩, seen⟩ := entry
      cases seen with
      | false => rfl
      | true =>
        obtain rfl : kept = true := hheld _ (List.mem_of_getElem? hentry) rfl
        simp only [Option.map_some]
        rw [← call_stack_guarded, bind_map_left]
        refine bind_congr fun ⟨future, s, kept⟩ => ?_
        rw [ih (hheld.set i (by simp)), unguardedAll_set]
        rfl
  | wait i next ih =>
    rw [run, run]
    cases futures[i]? with
    | none => rfl
    | some future => exact bind_congr fun outcome => ih outcome hheld _

theorem any_callsCopy {parts : List BuiltIn} : parts.any (·.callsCopy) = true ↔
    ∃ detail truncation, .logging detail truncation ∈ parts := by
  rw [List.any_eq_true]
  constructor
  · rintro ⟨part, hmem, hcalls⟩
    cases part with
    | logging detail truncation => exact ⟨detail, truncation, hmem⟩
    | _ => cases hcalls
  · rintro ⟨detail, truncation, hmem⟩
    exact ⟨_, hmem, rfl⟩

/-- A caller who asks every instance before each call never hears the alarm of the instances below a
stack that does not log. Below one that logs it sounds with each call that gets there, for a copy is
called that was not asked. The instances below may be a stack again. -/
theorem run_stack_alarm (alarm : m Unit) (parts : List BuiltIn) (inner : Instances m σ)
    (caller : Caller α) (s : σ) :
    ((∀ detail truncation, .logging detail truncation ∉ parts) →
      caller.run (stack parts (inner.guarded alarm)) [((s, false), false)] [] =
        caller.run (stack parts inner) [(s, false)] []) ∧
    ∀ detail truncation, .logging detail truncation ∈ parts →
      caller.run (stack parts (inner.guarded alarm)) [((s, false), false)] [] =
        caller.run (stack parts (inner.alarming alarm)) [(s, false)] [] := by
  have hseen : Seen [((s, false), false)] := by simp [Seen]
  rw [run_stack_guarded alarm parts caller hseen, heard]
  constructor
  · intro hnone
    have hany : parts.any (·.callsCopy) = false := by
      rw [Bool.eq_false_iff, ne_eq, any_callsCopy]
      exact fun ⟨detail, truncation, hmem⟩ => hnone detail truncation hmem
    rw [hany]
    rfl
  · intro detail truncation hmem
    rw [any_callsCopy.mpr ⟨detail, truncation, hmem⟩]
    rfl

/-- Instances that are always ready and give this answer. -/
def answering (outcome : Outcome) : Instances (ExceptT String Run) Unit :=
  ⟨0, fun _ => pure (.ready, ()), fun _ _ => pure (pure outcome, ()), fun _ => ()⟩

/-- Recording keeps to it; with logging the call fails. -/
theorem run_stack_alarm_logging :
    let q : Request :=
      ⟨.get, ⟨"http", "", "", none, none, .segments [], none, none⟩, .empty, [], .empty⟩
    let inner := answering (.ok (.ofStatus 200))
    let alarm : ExceptT String Run Unit := throw "not ready"
    let recording := BuiltIn.recording [.history]
    let logging := BuiltIn.logging .outcomes (.own .disabled)
    ((∀ detail truncation, .logging detail truncation ∉ [recording]) ∧
      (oneshot q 1).run (stack [recording] (inner.guarded alarm)) [(((), false), false)] [] =
        (oneshot q 1).run (stack [recording] inner) [((), false)] []) ∧
    logging ∈ [recording, logging] ∧
      (oneshot q 1).run (stack [recording, logging] (inner.guarded alarm))
        [(((), false), false)] [] =
        (do let _ ← liftM (Run.countCall 1); alarm; pure none) := by
  intro q inner alarm recording logging
  have hnone : ∀ detail truncation, .logging detail truncation ∉ [recording] := by simp [recording]
  have hmem : logging ∈ [recording, logging] := by simp
  refine ⟨⟨hnone, (run_stack_alarm alarm [recording] inner (oneshot q 1) ()).1 hnone⟩, hmem, ?_⟩
  rw [(run_stack_alarm alarm [recording, logging] inner (oneshot q 1) ()).2 _ _ hmem]
  rfl

/-- Not every stack keeps to it: the stage that logs calls a copy, which was not asked. -/
theorem logging_sounds_alarm :
    ¬ ∀ (parts : List BuiltIn) (inner : Instances (ExceptT String Run) Unit)
    (alarm : ExceptT String Run Unit) (caller : Caller (Option Outcome)),
    caller.run (stack parts (inner.guarded alarm)) [(((), false), false)] [] =
      caller.run (stack parts inner) [((), false)] [] := by
  intro hall
  let q : Request :=
    ⟨.get, ⟨"http", "", "", none, none, .segments [], none, none⟩, .empty, [], .empty⟩
  have hruns :=
    hall [.logging .outcomes (.own .disabled)] (answering (.ok (.ofStatus 200)))
      (throw "not ready") (oneshot q 1)
  cases congrFun hruns Progress.start

/-! ## Dispatches -/

theorem height_compose (parts : List BuiltIn) (s : Service) :
    (compose (parts.map BuiltIn.stage) s).height = s.height + parts.length := by
  induction parts with
  | nil => rfl
  | cons part parts ih =>
    have hstage : (part.stage (compose (parts.map BuiltIn.stage) s)).height =
        (compose (parts.map BuiltIn.stage) s).height + 1 := by
      cases part <;> rfl
    show (part.stage (compose (parts.map BuiltIn.stage) s)).height = _
    rw [hstage, ih, List.length_cons, Nat.add_assoc]

theorem call_stack_ofService (parts : List BuiltIn) (s : Service) (q : Request) :
    ((stack parts (ofService s)).call q () >>= fun called => called.1) =
      (compose (parts.map BuiltIn.stage) s).call q := by
  induction parts generalizing q with
  | nil => exact pure_bind _ _
  | cons part parts ih =>
    show _ = (part.stage (compose (parts.map BuiltIn.stage) s)).call q
    rw [call_stack_cons, BuiltIn.stage_call, height_compose, bind_assoc]
    refine bind_congr fun errand => ?_
    cases errand with
    | answer future => exact pure_bind _ _
    | forward q resume =>
      simp only [← ih]
      cases part.callsCopy <;> simp

/-- A service that is ready at once is called as a dispatch calls it. -/
theorem run_oneshot (parts : List BuiltIn) (s : Service) (q : Request) (patience : Nat) :
    (oneshot q (patience + 1)).run (stack parts (ofService s)) [((), false)] [] =
      (some ∘ some) <$> (compose (parts.map BuiltIn.stage) s).call q := by
  have hpoll : (stack parts (ofService s)).poll () = pure (.ready, ()) := by
    rw [poll_stack]
    rfl
  rw [← call_stack_ofService, oneshot, run]
  simp only [List.getElem?_cons_zero, hpoll, pure_bind, run, Readiness.isReady, Bool.or_true,
    List.set_cons_zero, List.nil_append, map_bind]
  rfl

end Caller

end Courier
