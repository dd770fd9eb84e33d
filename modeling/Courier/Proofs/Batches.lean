import Courier.Proofs.Confinement
import Mathlib.Data.List.Induction
import Mathlib.Data.Nat.Find
import Mathlib.Data.Set.List
/-
Batches that are run in turns. Whatever the order of the turns, as long as each
request has its turn again and again, all of them are settled in the end
(`Batch.exists_settled`), and the results stand under their keys in the order
in which the requests were added. To run the requests one after another is one
such order (`Batch.exists_schedule_run`).

Turns depend on what the requests do, and not on what they end with
(`Batch.turns_recast`), so no outcome makes a difference to another request.
-/
namespace Courier

namespace Batch

/-! ## Building -/

/-- What is done to make a batch. -/
inductive Call
  | add (key : BatchKey) (request : Act Outcome)
  | push (request : Act Outcome)
  | limit (n : Nat)

namespace Call

/-- The call adds a request under the next number. -/
def isPush : Call → Bool
  | push _ => true
  | _ => false

/-- The call adds a request. -/
def adds : Call → Bool
  | limit _ => false
  | _ => true

end Call

def call (b : Batch) : Call → Batch
  | .add key request => b.add key request
  | .push request => b.push request
  | .limit n => b.withLimit n

/-- The batch that some calls make, one after another. -/
def made (calls : List Call) : Batch := calls.foldl call .empty

variable {calls : List Call}

@[simp] theorem made_append (before after : List Call) :
    made (before ++ after) = after.foldl call (made before) :=
  List.foldl_append

theorem length_made : (made calls).entries.length = calls.countP Call.adds := by
  induction calls using List.reverseRecOn with
  | nil => rfl
  | append_singleton calls c ih => cases c <;> simp [call, add, push, withLimit, Call.adds, ih]

theorem unnamed_made : (made calls).unnamed = calls.countP Call.isPush := by
  induction calls using List.reverseRecOn with
  | nil => rfl
  | append_singleton calls c ih => cases c <;> simp [call, add, push, withLimit, Call.isPush, ih]

theorem limit_made (calls : List Call) : (made calls).limit ≠ some 0 := by
  induction calls using List.reverseRecOn with
  | nil => simp [made, empty]
  | append_singleton calls c ih =>
    cases c with
    | limit n => simp [call, withLimit]
    | _ => simpa [call, add, push] using ih

/-- Requests that are added stay where they are. -/
theorem entries_prefix (b : Batch) (calls : List Call) :
    b.entries <+: (calls.foldl call b).entries := by
  induction calls generalizing b with
  | nil => exact List.prefix_rfl
  | cons c calls ih =>
    have hcall : b.entries <+: (b.call c).entries := by
      cases c with
      | limit n => exact List.prefix_rfl
      | _ => exact List.prefix_append _ _
    exact hcall.trans (ih _)

theorem getElem?_made {before after : List Call} {c : Call} {entry : BatchKey × Act Outcome}
    (hc : ((made before).call c).entries = (made before).entries ++ [entry]) :
    (made (before ++ c :: after)).entries[before.countP Call.adds]? = some entry := by
  have hprefix : (made before).entries ++ [entry] <+: (made (before ++ c :: after)).entries := by
    rw [made_append, List.foldl_cons, ← hc]
    exact entries_prefix _ after
  obtain ⟨more, hmore⟩ := hprefix
  rw [← length_made, ← hmore]
  simp

/-! ## Results -/

/-- The request at a place was started and came to its end. -/
def SettledAt (u : Underway) (i : Nat) : Prop := ∃ out, u[i]? = some (true, .done out)

theorem settled?_eq_some {entry : Bool × Act Outcome} {out : Outcome} :
    settled? entry = some out ↔ entry = (true, .done out) := by
  obtain ⟨started, act⟩ := entry
  cases started <;> cases act <;> simp [settled?]

/-- The results are the outcomes of the requests, each under the key of its request. -/
theorem results?_eq_some {b : Batch} {u : Underway} {r : BatchResults}
    (hlength : u.length = b.entries.length) :
    b.results? u = some r ↔
      r.entries.map (·.1) = b.entries.map (·.1) ∧
        u = r.entries.map fun entry => (true, .done entry.2) := by
  obtain ⟨entries, unnamed, limit⟩ := b
  obtain ⟨outcomes⟩ := r
  simp only [results?, Option.map_eq_some_iff, BatchResults.mk.injEq, exists_eq_right]
  induction entries generalizing u outcomes with
  | nil =>
    obtain rfl := List.length_eq_zero_iff.mp hlength
    cases outcomes <;> simp
  | cons entry entries ih =>
    obtain _ | ⟨x, u⟩ := u
    · simp at hlength
    · have ih := ih (by simpa using hlength)
      simp only [List.zip_cons_cons, List.mapM_cons, Option.pure_def, Option.bind_eq_bind,
        Option.bind_eq_some_iff, Option.map_eq_some_iff, settled?_eq_some, ih]
      constructor
      · rintro ⟨_, ⟨out, rfl, rfl⟩, rest, ⟨hkeys, rfl⟩, h⟩
        obtain rfl := Option.some.inj h
        exact ⟨by simp [hkeys], by simp⟩
      · rintro ⟨hkeys, hu⟩
        obtain _ | ⟨first, rest⟩ := outcomes
        · simp at hu
        · simp only [List.map_cons, List.cons.injEq] at hkeys hu
          exact ⟨first, ⟨first.2, hu.1, by rw [← hkeys.1]⟩, rest, ⟨hkeys.2, hu.2⟩, rfl⟩

/-- Where all requests are settled there are results. -/
theorem exists_results {b : Batch} {u : Underway} (hlength : u.length = b.entries.length)
    (h : ∀ i < u.length, SettledAt u i) : ∃ r, b.results? u = some r := by
  have hmem : ∀ entry ∈ u, entry ∈ Set.range fun out : Outcome => (true, Act.done out) := by
    intro entry hentry
    obtain ⟨i, hi, rfl⟩ := List.mem_iff_getElem.mp hentry
    obtain ⟨out, hout⟩ := h i hi
    exact ⟨out, Option.some.inj (hout.symm.trans (List.getElem?_eq_getElem hi))⟩
  obtain ⟨outcomes, rfl⟩ : u ∈ Set.range (List.map fun out : Outcome => (true, Act.done out)) := by
    rw [Set.range_list_map]
    exact hmem
  have hzip : outcomes.length = b.entries.length := by simpa using hlength
  refine ⟨⟨(b.entries.map (·.1)).zip outcomes⟩, (results?_eq_some hlength).mpr ⟨?_, ?_⟩⟩
  · simp [List.map_fst_zip, hzip]
  · have houtcomes : ((b.entries.map (·.1)).zip outcomes).map (·.2) = outcomes :=
      List.map_snd_zip (by simp [hzip])
    exact (congrArg (List.map _) houtcomes.symm).trans List.map_map

/-! ## Turns -/

variable {limit : Option Nat} {u : Underway} {w : World} {i j : Nat}

/-- The results of a batch that is run in turns, once all its requests are settled. -/
def inTurns (b : Batch) (schedule : List Nat) (w : World) : Option BatchResults :=
  b.results? (turns b.limit schedule b.underway w).1

theorem turns_append (limit : Option Nat) (before after : List Nat) (u : Underway) (w : World) :
    turns limit (before ++ after) u w =
      turns limit after (turns limit before u w).1 (turns limit before u w).2 := by
  simp [turns]

theorem length_turn (limit : Option Nat) (i : Nat) (u : Underway) (w : World) :
    (turn limit i u w).1.length = u.length := by
  unfold turn
  split
  · split <;> simp
  · simp
  · rfl

theorem length_turns (limit : Option Nat) (schedule : List Nat) (u : Underway) (w : World) :
    (turns limit schedule u w).1.length = u.length := by
  induction schedule generalizing u w with
  | nil => rfl
  | cons i schedule ih => exact (ih _ _).trans (length_turn limit i u w)

/-- A turn of one request leaves the others where they are. -/
theorem getElem?_turn_of_ne (h : i ≠ j) : (turn limit i u w).1[j]? = u[j]? := by
  unfold turn
  split
  · split <;> simp [h]
  · simp [h]
  · rfl

/-- What is settled stays so. -/
theorem SettledAt.turn (h : SettledAt u j) (limit : Option Nat) (i : Nat) (w : World) :
    SettledAt (turn limit i u w).1 j := by
  obtain ⟨out, hj⟩ := h
  by_cases hij : i = j
  · subst hij
    exact ⟨out, by simp [Batch.turn, hj]⟩
  · exact ⟨out, by rw [getElem?_turn_of_ne hij, hj]⟩

/-- A request may be started once all before it are settled. -/
theorem mayStart_of_settled (hlimit : limit ≠ some 0) (hi : i < u.length)
    (h : ∀ j < i, SettledAt u j) :
    mayStart limit u i = true := by
  have htake : ∀ entry ∈ u.take i, entry.1 = true ∧ (settled? entry).isSome = true := by
    intro entry hentry
    obtain ⟨j, hj, rfl⟩ := List.mem_iff_getElem.mp hentry
    obtain ⟨out, hout⟩ := h j (by simp at hj; omega)
    have hentry : (u.take i)[j] = (true, .done out) := by
      rw [List.getElem_take]
      exact Option.some.inj ((List.getElem?_eq_getElem _).symm.trans hout)
    rw [hentry]
    exact ⟨rfl, rfl⟩
  have hlead : i ≤ (u.takeWhile fun entry => (settled? entry).isSome).length := by
    rw [← List.take_append_drop i u,
      List.takeWhile_append_of_pos fun entry hentry => (htake entry hentry).2, List.length_append,
      List.length_take]
    omega
  unfold mayStart
  rw [Bool.and_eq_true, List.all_eq_true]
  refine ⟨fun entry hentry => (htake entry hentry).1, ?_⟩
  cases limit with
  | none => rfl
  | some limit =>
    have hpos : limit ≠ 0 := fun heq => hlimit (by rw [heq])
    simp only [decide_eq_true_eq]
    omega

/-! ## Fair schedules -/

/-- Every request has its turn again and again. -/
def Fair (schedule : Nat → Nat) : Prop := ∀ i n, ∃ k, n ≤ k ∧ schedule k = i

/-- The requests after the first `n` turns. -/
def after (limit : Option Nat) (schedule : Nat → Nat) (u : Underway) (w : World) (n : Nat) :
    Underway × World :=
  turns limit ((List.range n).map schedule) u w

variable {schedule : Nat → Nat}

theorem after_succ (n : Nat) : after limit schedule u w (n + 1) =
    turn limit (schedule n) (after limit schedule u w n).1 (after limit schedule u w n).2 := by
  rw [after, List.range_succ, List.map_append, turns_append]
  rfl

theorem length_after (n : Nat) : (after limit schedule u w n).1.length = u.length :=
  length_turns _ _ _ _

theorem SettledAt.after {n m : Nat} (h : SettledAt (after limit schedule u w n).1 i) (hle : n ≤ m) :
    SettledAt (Batch.after limit schedule u w m).1 i := by
  induction hle with
  | refl => exact h
  | step _ ih =>
    rw [after_succ]
    exact ih.turn _ _ _

/-- A request waits for its turn, and has it. -/
theorem exists_turn (limit : Option Nat) (u : Underway) (w : World)
    (hfair : Fair schedule) (i n : Nat) :
    ∃ k, n ≤ k ∧ schedule k = i ∧
      (after limit schedule u w k).1[i]? = (after limit schedule u w n).1[i]? := by
  have hturn := hfair i n
  let k := Nat.find hturn
  obtain ⟨hle, hk⟩ := Nat.find_spec hturn
  refine ⟨k, hle, hk, ?_⟩
  have hwaits : ∀ m, n ≤ m → m ≤ k →
      (after limit schedule u w m).1[i]? = (after limit schedule u w n).1[i]? := by
    intro m hn
    induction m, hn using Nat.le_induction with
    | base => exact fun _ => rfl
    | succ m hn ih =>
      intro hm
      have hother : schedule m ≠ i := fun heq => Nat.find_min hturn hm ⟨hn, heq⟩
      rw [after_succ, getElem?_turn_of_ne hother]
      exact ih (Nat.le_of_succ_le hm)
  exact hwaits k hle (Nat.le_refl k)

/-- A request that was started comes to its end. -/
theorem exists_settledAt (hfair : Fair schedule) {act : Act Outcome} {n : Nat}
    (h : (after limit schedule u w n).1[i]? = some (true, act)) :
    ∃ m, n ≤ m ∧ SettledAt (after limit schedule u w m).1 i := by
  induction act generalizing n with
  | done out => exact ⟨n, Nat.le_refl n, out, h⟩
  | perform e next ih =>
    obtain ⟨k, hle, rfl, hk⟩ := exists_turn limit u w hfair i n
    have hnext : (after limit schedule u w (k + 1)).1[schedule k]? =
        some (true, next ((after limit schedule u w k).2.answer e).1) := by
      have hlt := (List.getElem?_eq_some_iff.mp (hk.trans h)).1
      rw [after_succ, turn, hk.trans h]
      simp [hlt]
    obtain ⟨m, hm, hsettled⟩ := ih _ hnext
    exact ⟨m, by omega, hsettled⟩

/-- Whatever turns are taken, if all requests have them again and again, all are settled in the
end. -/
theorem exists_settled (hfair : Fair schedule) (hlimit : limit ≠ some 0) (u : Underway)
    (w : World) {i : Nat} (hi : i ≤ u.length) :
    ∃ n, ∀ j < i, SettledAt (after limit schedule u w n).1 j := by
  induction i with
  | zero => exact ⟨0, by simp⟩
  | succ i ih =>
    obtain ⟨n, hn⟩ := ih (Nat.le_of_succ_le hi)
    obtain ⟨k, hle, rfl, hk⟩ := exists_turn limit u w hfair i n
    have hsettled : ∀ j < schedule k, SettledAt (after limit schedule u w k).1 j :=
      fun j hj => (hn j hj).after hle
    have hlt : schedule k < (after limit schedule u w k).1.length := by
      rw [length_after]
      exact hi
    -- It is started in its turn, if it was not before.
    have hstarted : ∃ m act, k ≤ m ∧ (after limit schedule u w m).1[schedule k]? =
        some (true, act) := by
      cases hentry : (after limit schedule u w k).1[schedule k] with
      | mk started act =>
        have hget := (List.getElem?_eq_getElem hlt).trans (congrArg some hentry)
        cases started with
        | true => exact ⟨k, act, Nat.le_refl k, hget⟩
        | false =>
          refine ⟨k + 1, act, Nat.le_succ k, ?_⟩
          rw [after_succ, turn, hget]
          simp [mayStart_of_settled hlimit hlt hsettled, hlt]
    obtain ⟨m, act, hkm, hact⟩ := hstarted
    obtain ⟨m', hm, hend⟩ := exists_settledAt hfair hact
    refine ⟨m', fun j hj => ?_⟩
    obtain hj | rfl := Nat.lt_succ_iff_lt_or_eq.mp hj
    · exact (hsettled j hj).after (Nat.le_trans hkm hm)
    · exact hend

/-! ## One after another -/

/-- A request that was started may have all its turns at once. -/
theorem exists_schedule_act (limit : Option Nat) (before after : Underway)
    (act : Act Outcome) (w : World) :
    ∃ schedule, turns limit schedule (before ++ (true, act) :: after) w =
      (before ++ (true, .done (w.run act).1) :: after, (w.run act).2) := by
  induction act generalizing w with
  | done out => exact ⟨[], rfl⟩
  | perform e next ih =>
    obtain ⟨schedule, hschedule⟩ := ih (w.answer e).1 (w.answer e).2
    refine ⟨before.length :: schedule, ?_⟩
    have hturn : turn limit before.length (before ++ (true, .perform e next) :: after) w =
        (before ++ (true, next (w.answer e).1) :: after, (w.answer e).2) := by
      simp [turn]
    change turns limit schedule (turn limit before.length _ w).1 (turn limit before.length _ w).2 =
      _
    rw [hturn]
    exact hschedule

/-- A request with its key, and its outcome under the key. -/
def outcome (entry : BatchKey × Act Outcome) : Act (BatchKey × Outcome) := do
  let outcome ← entry.2
  pure (entry.1, outcome)

theorem run_outcomes_cons (w : World) (entry : BatchKey × Act Outcome)
    (entries : List (BatchKey × Act Outcome)) :
    w.run ((entry :: entries).mapM outcome) =
      ((entry.1, (w.run entry.2).1) :: ((w.run entry.2).2.run (entries.mapM outcome)).1,
        ((w.run entry.2).2.run (entries.mapM outcome)).2) := by
  rw [List.mapM_cons]
  change w.run ((entry.2.bind fun out => .done (entry.1, out)).bind fun result =>
    (entries.mapM outcome).bind fun results => .done (result :: results)) = _
  simp only [World.run_bind, World.run]

/-- The requests may be run one after another, in their order. -/
theorem exists_schedule_outcomes {limit : Option Nat} (hlimit : limit ≠ some 0)
    (entries : List (BatchKey × Act Outcome)) (settled : List (BatchKey × Outcome)) (w : World) :
    ∃ schedule, turns limit schedule
      (settled.map (fun entry => (true, .done entry.2)) ++
        entries.map fun entry => (false, entry.2)) w =
        ((settled ++ (w.run (entries.mapM outcome)).1).map fun entry => (true, .done entry.2),
          (w.run (entries.mapM outcome)).2) := by
  induction entries generalizing settled w with
  | nil =>
    have hnone : w.run (pure [] : Act (List (BatchKey × Outcome))) = ([], w) := rfl
    exact ⟨[], by simp [turns, hnone]⟩
  | cons entry entries ih =>
    obtain ⟨key, act⟩ := entry
    let before : Underway := settled.map fun entry => (true, .done entry.2)
    let behind : Underway := entries.map fun entry => (false, entry.2)
    have hstart : turn limit before.length (before ++ (false, act) :: behind) w =
        (before ++ (true, act) :: behind, w) := by
      have hbefore : ∀ j < before.length, SettledAt (before ++ (false, act) :: behind) j := by
        intro j hj
        obtain ⟨entry, -, hentry⟩ := List.mem_map.mp (List.getElem_mem hj)
        refine ⟨entry.2, ?_⟩
        rw [List.getElem?_append_left hj, List.getElem?_eq_getElem hj, ← hentry]
      have hmay := mayStart_of_settled hlimit (by simp) hbefore
      simp [turn, hmay]
    obtain ⟨through, hthrough⟩ := exists_schedule_act limit before behind act w
    obtain ⟨rest, hrest⟩ := ih (settled ++ [(key, (w.run act).1)]) (w.run act).2
    refine ⟨before.length :: (through ++ rest), ?_⟩
    change turns limit (through ++ rest)
      (turn limit before.length (before ++ (false, act) :: behind) w).1
      (turn limit before.length (before ++ (false, act) :: behind) w).2 = _
    rw [hstart, turns_append, hthrough, run_outcomes_cons]
    simpa [before, behind] using hrest

/-- Running a batch one request after another is running it in turns. -/
theorem exists_schedule_run {b : Batch} (hlimit : b.limit ≠ some 0) (w : World) : ∃ schedule,
    b.inTurns schedule w = some (w.run b.run).1 ∧
      (turns b.limit schedule b.underway w).2 = (w.run b.run).2 := by
  obtain ⟨schedule, hschedule⟩ := exists_schedule_outcomes hlimit b.entries [] w
  have hturns : turns b.limit schedule b.underway w =
      ((w.run (b.entries.mapM outcome)).1.map fun entry => (true, .done entry.2),
        (w.run (b.entries.mapM outcome)).2) := hschedule
  have hrun : w.run b.run =
      (⟨(w.run (b.entries.mapM outcome)).1⟩, (w.run (b.entries.mapM outcome)).2) := by
    change w.run ((b.entries.mapM outcome).bind fun outcomes => .done (BatchResults.mk outcomes)) =
      _
    rw [World.run_bind]
    rfl
  have hkeys (entries : List (BatchKey × Act Outcome)) (w : World) :
      (w.run (entries.mapM outcome)).1.map (·.1) = entries.map (·.1) := by
    induction entries generalizing w with
    | nil => rfl
    | cons entry entries ih => rw [run_outcomes_cons, List.map_cons, List.map_cons, ih]
  refine ⟨schedule, ?_, by rw [hturns, hrun]⟩
  rw [inTurns, results?_eq_some (by simp [length_turns, underway]), hturns, hrun]
  exact ⟨hkeys _ _, rfl⟩

/-! ## Other outcomes -/

end Batch

/-- The results with other outcomes. -/
def BatchResults.recast (change : Nat → Outcome → Outcome) (r : BatchResults) : BatchResults :=
  ⟨r.entries.mapIdx fun i entry => (entry.1, change i entry.2)⟩

namespace Batch

variable {limit : Option Nat} {u : Underway} {w : World} {i : Nat}
  {change : Nat → Outcome → Outcome}

/-- The requests with other outcomes, and the same in all else. -/
def Underway.recast (change : Nat → Outcome → Outcome) (u : Underway) : Underway :=
  u.mapIdx fun i entry => (entry.1, change i <$> entry.2)

/-- The batch whose requests have other outcomes. -/
def recast (change : Nat → Outcome → Outcome) (b : Batch) : Batch :=
  { b with entries := b.entries.mapIdx fun i entry => (entry.1, change i <$> entry.2) }

/-- Whether a request may be started depends on which are started and settled. -/
theorem mayStart_congr {v : Underway}
    (h : u.map (fun entry => (entry.1, (settled? entry).isSome)) =
      v.map fun entry => (entry.1, (settled? entry).isSome)) :
        mayStart limit u i = mayStart limit v i := by
  have hstarted (u : Underway) : (u.take i).all (·.1) =
      ((u.map fun entry => (entry.1, (settled? entry).isSome)).take i).all (·.1) := by
    simp [← List.map_take, List.all_map, Function.comp_def]
  have hlead (u : Underway) : (u.takeWhile fun entry => (settled? entry).isSome).length =
      ((u.map fun entry => (entry.1, (settled? entry).isSome)).takeWhile (·.2)).length := by
    simp [List.takeWhile_map, Function.comp_def]
  simp only [mayStart, hstarted, hlead, h]

theorem settled?_recast (f : Outcome → Outcome) (entry : Bool × Act Outcome) :
    settled? (entry.1, f <$> entry.2) = (settled? entry).map f := by
  obtain ⟨started, act⟩ := entry
  cases started <;> cases act <;> rfl

theorem turn_recast : turn limit i (u.recast change) w =
    (Underway.recast change (turn limit i u w).1, (turn limit i u w).2) := by
  have hmay : mayStart limit (u.recast change) i = mayStart limit u i := by
    refine mayStart_congr (List.ext_getElem? fun j => ?_)
    simp only [Underway.recast, List.getElem?_map, List.getElem?_mapIdx, Option.map_map]
    congr 1
    funext entry
    simp [settled?_recast]
  unfold turn
  simp only [hmay]
  simp only [Underway.recast, List.getElem?_mapIdx]
  cases hentry : u[i]? with
  | none => rfl
  | some entry =>
    obtain ⟨started, act⟩ := entry
    cases started with
    | false =>
      cases mayStart limit u i with
      | true => simp [List.mapIdx_set]
      | false => simp
    | true =>
      cases act with
      | done out => rfl
      | perform e next =>
        change ((u.recast change).set i (true, change i <$> next (w.answer e).1), (w.answer e).2) =
          (Underway.recast change (u.set i (true, next (w.answer e).1)), (w.answer e).2)
        rw [Underway.recast, Underway.recast, List.mapIdx_set]

/-- What requests end with makes no difference to their turns. -/
theorem turns_recast (schedule : List Nat) : turns limit schedule (u.recast change) w =
    (Underway.recast change (turns limit schedule u w).1, (turns limit schedule u w).2) := by
  induction schedule generalizing u w with
  | nil => rfl
  | cons i schedule ih =>
    change turns limit schedule (turn limit i (u.recast change) w).1
      (turn limit i (u.recast change) w).2 = _
    rw [turn_recast]
    exact ih

theorem underway_recast (b : Batch) : (b.recast change).underway = b.underway.recast change := by
  refine List.ext_getElem? fun i => ?_
  simp [underway, recast, Underway.recast, Function.comp_def]

theorem results?_recast {b : Batch} {r : BatchResults} (hlength : u.length = b.entries.length)
    (h : b.results? u = some r) :
    (b.recast change).results? (u.recast change) = some (r.recast change) := by
  obtain ⟨hkeys, rfl⟩ := (results?_eq_some hlength).mp h
  refine (results?_eq_some ?_).mpr ⟨?_, ?_⟩
  · simpa [Underway.recast, recast] using hlength
  · refine List.ext_getElem? fun i => ?_
    have hkey := congrArg (·[i]?) hkeys
    simpa [BatchResults.recast, recast, Function.comp_def] using hkey
  · refine List.ext_getElem? fun i => ?_
    simp only [Underway.recast, BatchResults.recast, List.getElem?_mapIdx, List.getElem?_map,
      Option.map_map]
    rfl

theorem inTurns_recast {b : Batch} {schedule : List Nat} {r : BatchResults}
    (h : b.inTurns schedule w = some r) :
    (b.recast change).inTurns schedule w = some (r.recast change) := by
  have hlimit : (b.recast change).limit = b.limit := rfl
  rw [inTurns, underway_recast, hlimit, turns_recast]
  exact results?_recast (by simp [length_turns, underway]) h

/-! ## All requests together -/

/-- The outcome under a key is what the request of that key ended with. -/
theorem exists_outcome {b : Batch} {schedule : List Nat} {r : BatchResults}
    (h : b.inTurns schedule w = some r) {key : BatchKey} {act : Act Outcome}
    (hi : b.entries[i]? = some (key, act)) : ∃ out,
      r.entries[i]? = some (key, out) ∧
      ((turns b.limit schedule b.underway w).1.map (·.2))[i]? = some (.done out) := by
  obtain ⟨hkeys, hu⟩ := (results?_eq_some (by simp [length_turns, underway])).mp h
  have hkey : (r.entries.map (·.1))[i]? = some key := by simp [hkeys, hi]
  obtain ⟨⟨key', out⟩, hentry, rfl⟩ : ∃ entry, r.entries[i]? = some entry ∧ entry.1 = key := by
    simpa using hkey
  exact ⟨out, hentry, by simp [hu, hentry]⟩

/-- However a batch is made, each request stands under its key, and those without a name are
numbered. However its requests take turns, all are settled in the end, and the results stand in the
order of the requests. Each of them is what its request comes to by its own settings, and would be
so whatever became of the others; apart from the others, it is what the request would come to
alone. -/
theorem made_settles (calls : List Call) (w : World) :
    (made calls).entries.length = calls.countP Call.adds ∧
    (∀ before key request after, calls = before ++ .add key request :: after →
      (made calls).entries[before.countP Call.adds]? = some (key, request)) ∧
    (∀ before request after, calls = before ++ .push request :: after →
      (made calls).entries[before.countP Call.adds]? =
        some (.numbered (before.countP Call.isPush), request)) ∧
    (∀ schedule, Fair schedule → ∃ n r, (made calls).inTurns ((List.range n).map schedule) w =
      some r) ∧
    (∃ schedule, (made calls).inTurns schedule w = some (w.run (made calls).run).1) ∧
    ∀ schedule r, (made calls).inTurns schedule w = some r →
      r.entries.map (·.1) = (made calls).entries.map (·.1) ∧
      (∀ change, ((made calls).recast change).inTurns schedule w = some (r.recast change)) ∧
      ∀ (i : Nat) key act, (made calls).entries[i]? = some (key, act) →
        ∃ out, r.entries[i]? = some (key, out) ∧
        (∃ t, act.Runs t out) ∧
        (∀ d : Dispatch, act = d.run → ∃ rounds r p',
          d.Course (d.retry.maxAttempts - 1) d.options Progress.start rounds p' ∧
          rounds.getLast? = some r ∧ out = d.verdict r) ∧
        (w.Apart ((made calls).entries.map (·.2)) →
          w.Yields act out ∧ (act.Unnumbered → out = (w.run act).1)) := by
  refine ⟨length_made, ?_, ?_, ?_, ?_, ?_⟩
  · rintro before key request after rfl
    exact getElem?_made rfl
  · rintro before request after rfl
    rw [← unnamed_made]
    exact getElem?_made rfl
  · intro schedule hfair
    obtain ⟨n, hn⟩ :=
      exists_settled hfair (limit_made calls) (made calls).underway w (Nat.le_refl _)
    obtain ⟨r, hr⟩ :=
      exists_results (b := made calls) (by simp [length_after, underway]) fun i hi =>
      hn i (by rwa [length_after] at hi)
    exact ⟨n, r, hr⟩
  · obtain ⟨schedule, hschedule, -⟩ := exists_schedule_run (limit_made calls) w
    exact ⟨schedule, hschedule⟩
  · intro schedule r hr
    obtain ⟨hkeys, -⟩ := (results?_eq_some (by simp [length_turns, underway])).mp hr
    refine ⟨hkeys, fun change => inTurns_recast hr, fun i key act hi => ?_⟩
    obtain ⟨out, hout, hdone⟩ := exists_outcome hr hi
    obtain ⟨h, halternation⟩ :=
      exists_alternation (made calls).limit schedule (made calls).underway w
    have hacts : (made calls).underway.map (·.2) = (made calls).entries.map (·.2) := by
      simp [underway, Function.comp_def]
    rw [hacts] at halternation
    have hact : ((made calls).entries.map (·.2))[i]? = some act := by simp [hi]
    obtain ⟨rest, hrest, hruns⟩ := halternation.interleaving.leads_own hact
    obtain rfl : rest = .done out := Option.some.inj (hrest.symm.trans hdone)
    refine ⟨out, hout, ⟨_, hruns⟩, ?_, fun hapart => ?_⟩
    · rintro d rfl
      obtain ⟨rounds, r, p', hcourse, -, hlast, hverdict⟩ := Dispatch.run_runs.mp hruns
      exact ⟨rounds, r, p', hcourse, hlast, hverdict⟩
    · have hyields := hapart.yields halternation hact hdone
      exact ⟨hyields, fun hunnumbered => hunnumbered.eq_run hyields⟩

/-- The same dispatch twice, one at a time. -/
def twice : List Call :=
  [.limit 1, .push Dispatch.watched.run, .add (.named "again") Dispatch.watched.run]

theorem within_watched {P : Effect → Prop} (hnotes : ∀ n, P (.note n))
    (htruncation : P .truncation) :
    Dispatch.watched.Within P where
  middleware := by
    intro stage hmem
    obtain rfl | hmem := List.mem_cons.mp hmem
    · exact loggingStage_mediates (fun _ => hnotes _) htruncation _ _
    · obtain rfl := List.mem_singleton.mp hmem
      exact Middleware.stage_mediates hnotes _
  stubs := by
    intro m hmem
    simp [Dispatch.watched, Dispatch.unavailable] at hmem
  transport := Script.transport_confined (fun _ => hnotes _) _

theorem made_settles_twice : ∃ schedule r,
    (made twice).inTurns schedule (.initial .default true .unreachable) = some r ∧
    r.entries[0]? =
      some (.numbered 0, ((World.initial .default true .unreachable).run Dispatch.watched.run).1) ∧
    r.entries[1]? =
      some (.named "again",
        ((World.initial .default true .unreachable).run Dispatch.watched.run).1) := by
  obtain ⟨-, hadd, hpush, -, ⟨schedule, hschedule⟩, hresults⟩ :=
    made_settles twice (.initial .default true .unreachable)
  generalize (World.run _ (made twice).run).1 = r at hschedule
  obtain ⟨-, -, hentries⟩ := hresults schedule r hschedule
  -- Nothing in the dispatch changes a store, so it is apart from itself.
  have hchanges : ∀ e, Dispatch.Own e → ∀ store, e.Changes store → False := by
    intro e he store hchanges
    cases he <;> cases hchanges
  have hconfined : Dispatch.watched.run.Confined fun e => ∀ store, e.Changes store → False :=
    Dispatch.run_confined hchanges
      (within_watched (fun n => hchanges _ (.note n)) (hchanges _ .truncation))
  have hunnumbered : Dispatch.watched.run.Unnumbered :=
    Dispatch.run_unnumbered ⟨rfl, by simp [Dispatch.watched, Dispatch.unavailable,
      RetryPolicy.ofTries]⟩ (within_watched (by simp) (by simp))
  have hrequests : (made twice).entries.map (·.2) =
      [Dispatch.watched.run, Dispatch.watched.run] := by
    rfl
  have hapart : (World.initial .default true .unreachable).Apart
      ((made twice).entries.map (·.2)) := by
    refine World.apart_of_confined (fun _ _ => False) (by simp) fun i act hi => ?_
    rw [hrequests] at hi
    obtain rfl : act = Dispatch.watched.run := by simpa using List.mem_of_getElem? hi
    exact hconfined
  have hfirst : (made twice).entries[0]? = some (.numbered 0, Dispatch.watched.run) :=
    hpush [.limit 1] _ _ rfl
  have hsecond : (made twice).entries[1]? = some (.named "again", Dispatch.watched.run) :=
    hadd [.limit 1, .push Dispatch.watched.run] _ _ [] rfl
  obtain ⟨out, hout, -, -, halone⟩ := hentries 0 _ _ hfirst
  obtain ⟨out', hout', -, -, halone'⟩ := hentries 1 _ _ hsecond
  rw [(halone hapart).2 hunnumbered] at hout
  rw [(halone' hapart).2 hunnumbered] at hout'
  exact ⟨schedule, r, hschedule, hout, hout'⟩

end Batch

end Courier
