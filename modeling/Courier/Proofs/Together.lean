import Courier.Proofs.Windows
/-
Requests that run side by side. Each of them goes on until it has to wait, so
their steps fall in an order of their own; still it is one of the orders in
which the requests may have their turns (`Batch.exists_schedule_together`), and
whatever holds of a batch that is run in turns holds of it.

The induction is on the request that is settled first and, for all of them, on
the requests behind it; what it carries is that all before are settled, so that
those behind may be started as far as the limit says.
-/
namespace Courier

namespace Batch

variable {limit : Option Nat} {u u' u'' before stretch behind : Underway} {w w' w'' : World}

/-- Some turns lead from the one to the other. -/
def Reaches (limit : Option Nat) (u : Underway) (w : World) (u' : Underway) (w' : World) : Prop :=
  ∃ schedule, turns limit schedule u w = (u', w')

theorem Reaches.refl (limit : Option Nat) (u : Underway) (w : World) :
    Reaches limit u w u w := ⟨[], rfl⟩

theorem Reaches.trans (h : Reaches limit u w u' w') (h' : Reaches limit u' w' u'' w'') :
    Reaches limit u w u'' w'' := by
  obtain ⟨schedule, hschedule⟩ := h
  obtain ⟨schedule', hschedule'⟩ := h'
  exact ⟨schedule ++ schedule', by rw [turns_append, hschedule, hschedule']⟩

theorem Reaches.length_eq (h : Reaches limit u w u' w') : u'.length = u.length := by
  obtain ⟨schedule, hschedule⟩ := h
  rw [← length_turns limit schedule u w, hschedule]

/-! ## One request -/

/-- A request that was started performs its next effect. -/
theorem reaches_answer (e : Effect) (next : e.Reply → Act Outcome) :
    Reaches limit (before ++ (true, .perform e next) :: behind) w
      (before ++ (true, next (w.answer e).1) :: behind) (w.answer e).2 :=
  ⟨[before.length], by simp [turns, turn]⟩

/-- It goes on until it has to wait. -/
theorem reaches_advance (act : Act Outcome) :
    Reaches limit (before ++ (true, act) :: behind) w
      (before ++ (true, (w.advance act).1) :: behind) (w.advance act).2 := by
  induction act generalizing w with
  | done out => exact .refl _ _ _
  | perform e next ih =>
    unfold World.advance
    split
    · exact .refl _ _ _
    · exact (reaches_answer e next).trans (ih _)

theorem reaches_resume (act : Act Outcome) :
    Reaches limit (before ++ (true, act) :: behind) w (before ++ (true, (w.resume act).1) :: behind)
      (w.resume act).2 := by
  cases act with
  | done out => exact .refl _ _ _
  | perform e next => exact (reaches_answer e next).trans (reaches_advance _)

theorem lead_le_append (before behind : Underway) : lead before ≤ lead (before ++ behind) := by
  refine le_lead.mpr fun i hi => ?_
  obtain ⟨out, hout⟩ := le_lead.mp (Nat.le_refl (lead before)) i hi
  exact ⟨out, by rw [List.getElem?_append_left (List.getElem?_eq_some_iff.mp hout).1, hout]⟩

/-- A request is started, if it was not before, when all before it are and the limit allows it. -/
theorem reaches_start (hbefore : ∀ entry ∈ before, entry.1 = true) (started : Bool)
    (act : Act Outcome) (hlimit : ∀ n, limit = some n → before.length < lead before + n) :
    Reaches limit (before ++ (started, act) :: behind) w (before ++ (true, act) :: behind) w := by
  cases started with
  | true => exact .refl _ _ _
  | false =>
    have hmay : mayStart limit (before ++ (false, act) :: behind) before.length = true := by
      have hlead := lead_le_append before ((false, act) :: behind)
      unfold mayStart
      rw [Bool.and_eq_true, List.take_left, List.all_eq_true]
      refine ⟨hbefore, ?_⟩
      cases limit with
      | none => rfl
      | some n =>
        exact decide_eq_true (Nat.lt_of_lt_of_le (hlimit n rfl) (Nat.add_le_add_right hlead n))
    exact ⟨[before.length], by simp [turns, turn, hmay]⟩

/-! ## The requests behind -/

/-- Requests that stand next to each other go on, each in its turn. -/
theorem reaches_resumeAll (hbefore : ∀ entry ∈ before, entry.1 = true)
    (hlimit : ∀ n, limit = some n → before.length + stretch.length ≤ lead before + n) :
    Reaches limit (before ++ stretch ++ behind) w
      (before ++ (w.resumeAll (stretch.map (·.2))).1.map (true, ·) ++ behind)
      (w.resumeAll (stretch.map (·.2))).2 := by
  induction stretch generalizing before w with
  | nil => exact .refl _ _ _
  | cons entry stretch ih =>
    obtain ⟨started, act⟩ := entry
    let resumed := (w.resume act).1
    have hstart : Reaches limit (before ++ (started, act) :: (stretch ++ behind)) w
        (before ++ (true, act) :: (stretch ++ behind)) w := by
      refine reaches_start hbefore started act fun n hn => ?_
      have := hlimit n hn
      rw [List.length_cons] at this
      omega
    have hstarted : ∀ entry ∈ before ++ [(true, resumed)], entry.1 = true :=
      List.forall_mem_append.mpr ⟨hbefore, List.forall_mem_singleton.mpr rfl⟩
    have hwithin : ∀ n, limit = some n →
        (before ++ [(true, resumed)]).length + stretch.length ≤
            lead (before ++ [(true, resumed)]) + n := by
      intro n hn
      have hlead := lead_le_append before [(true, resumed)]
      have := hlimit n hn
      rw [List.length_cons] at this
      rw [List.length_append, List.length_singleton]
      omega
    have hresume : Reaches limit (before ++ (true, act) :: (stretch ++ behind)) w
        (before ++ (true, resumed) :: (stretch ++ behind)) (w.resume act).2 := reaches_resume act
    have hrest := ih (w := (w.resume act).2) hstarted hwithin
    simpa [World.resumeAll, resumed] using (hstart.trans hresume).trans
      (by simpa [resumed] using hrest)

/-- While a request waits, those behind it go on. -/
theorem reaches_goOn (hlimit : limit ≠ some 0) (hbefore : ∀ entry ∈ before, entry.1 = true)
    (hlead : before.length ≤ lead before + 1) (behind : Underway) :
    ∃ behind', behind'.map (·.2) = (goOn limit w (behind.map (·.2))).1 ∧
      Reaches limit (before ++ behind) w (before ++ behind')
        (goOn limit w (behind.map (·.2))).2 := by
  cases limit with
  | none =>
    refine ⟨(w.resumeAll (behind.map (·.2))).1.map (true, ·), by simp [goOn], ?_⟩
    have hall : Reaches none (before ++ behind ++ []) w
        (before ++ (w.resumeAll (behind.map (·.2))).1.map (true, ·) ++ [])
            (w.resumeAll (behind.map (·.2))).2 :=
      reaches_resumeAll hbefore nofun
    simpa [goOn] using hall
  | some n =>
    have hpos : n ≠ 0 := fun h => hlimit (by rw [h])
    let stretch := behind.take (n - 1)
    refine ⟨(w.resumeAll (stretch.map (·.2))).1.map (true, ·) ++ behind.drop (n - 1), ?_, ?_⟩
    · simp [goOn, stretch, List.map_take]
    · have hwithin : ∀ n', some n = some n' →
          before.length + stretch.length ≤ lead before + n' := by
        rintro n' hn'
        obtain rfl := Option.some.inj hn'
        have : stretch.length ≤ n - 1 := List.length_take_le _ _
        omega
      have hall : Reaches (some n) (before ++ stretch ++ behind.drop (n - 1)) w
          (before ++ (w.resumeAll (stretch.map (·.2))).1.map (true, ·) ++ behind.drop (n - 1))
          (w.resumeAll (stretch.map (·.2))).2 := reaches_resumeAll hbefore hwithin
      simpa [goOn, stretch, List.map_take] using hall

/-! ## All requests -/

/-- Requests that are settled. -/
def ended (outs : List Outcome) : Underway := outs.map fun out => (true, .done out)

theorem lead_ended (outs : List Outcome) : lead (ended outs) = outs.length := by
  induction outs with
  | nil => rfl
  | cons out outs ih => simpa [lead, ended, settled?] using ih

theorem ended_started {outs : List Outcome} : ∀ entry ∈ ended outs, entry.1 = true := by
  intro entry hentry
  obtain ⟨out, -, rfl⟩ := List.mem_map.mp hentry
  rfl

/-- A request behind settled ones is settled, and those behind it go on meanwhile. -/
theorem reaches_settle (hlimit : limit ≠ some 0) (outs : List Outcome) (behind : Underway)
    (act : Act Outcome) :
    ∃ behind', behind'.map (·.2) = (settle limit w (behind.map (·.2)) act).2.1 ∧
      Reaches limit (ended outs ++ (true, act) :: behind) w
        (ended outs ++ (true, .done (settle limit w (behind.map (·.2)) act).1) :: behind')
        (settle limit w (behind.map (·.2)) act).2.2 := by
  induction act generalizing w behind with
  | done out => exact ⟨behind, rfl, .refl _ _ _⟩
  | perform e next ih =>
    let current : Underway := ended outs ++ [(true, .perform e next)]
    have hcurrent : ∀ entry ∈ current, entry.1 = true :=
      List.forall_mem_append.mpr ⟨ended_started, List.forall_mem_singleton.mpr rfl⟩
    have hlead : current.length ≤ lead current + 1 := by
      have hle := lead_le_append (ended outs) [(true, .perform e next)]
      rw [lead_ended] at hle
      simp only [current, List.length_append, List.length_singleton, ended,
        List.length_map] at hle ⊢
      omega
    unfold settle
    by_cases hdefers : w.defers e = true
    · obtain ⟨behind₁, hbehind₁, hreaches₁⟩ := reaches_goOn (w := w) hlimit hcurrent hlead behind
      simp only [hdefers, if_true, ← hbehind₁]
      obtain ⟨behind₂, hbehind₂, hreaches₂⟩ :=
        ih _ (w := ((goOn limit w (behind.map (·.2))).2.answer e).2) behind₁
      have hwaits : Reaches limit (ended outs ++ (true, .perform e next) :: behind) w
          (ended outs ++ (true, .perform e next) :: behind₁)
              (goOn limit w (behind.map (·.2))).2 := by
        simpa [current] using hreaches₁
      exact ⟨behind₂, hbehind₂, hwaits.trans ((reaches_answer e next).trans hreaches₂)⟩
    · simp only [hdefers, if_false, Bool.false_eq_true]
      obtain ⟨behind₂, hbehind₂, hreaches₂⟩ := ih (w.answer e).1 (w := (w.answer e).2) behind
      exact ⟨behind₂, hbehind₂, (reaches_answer e next).trans hreaches₂⟩

/-- All requests are settled, the first one first. -/
theorem reaches_settleAll (hlimit : limit ≠ some 0) (outs : List Outcome) (keys : List BatchKey)
    (behind : Underway) (hkeys : keys.length = behind.length) :
    ((settleAll limit keys w (behind.map (·.2))).1.map (·.1) = keys) ∧
      Reaches limit (ended outs ++ behind) w
        (ended (outs ++ (settleAll limit keys w (behind.map (·.2))).1.map (·.2)))
        (settleAll limit keys w (behind.map (·.2))).2 := by
  induction keys generalizing outs behind w with
  | nil =>
    obtain rfl := List.length_eq_zero_iff.mp hkeys.symm
    exact ⟨rfl, by simpa [settleAll] using Reaches.refl limit (ended outs) w⟩
  | cons key keys ih =>
    obtain _ | ⟨⟨started, act⟩, behind⟩ := behind
    · simp at hkeys
    · have hstart : Reaches limit (ended outs ++ (started, act) :: behind) w
          (ended outs ++ (true, act) :: behind) w := by
        refine reaches_start ended_started started act fun n hn => ?_
        have hpos : n ≠ 0 := fun h => hlimit (by rw [hn, h])
        rw [lead_ended, ended, List.length_map]
        omega
      have hresume : Reaches limit (ended outs ++ (true, act) :: behind) w
          (ended outs ++ (true, (w.resume act).1) :: behind) (w.resume act).2 := reaches_resume act
      obtain ⟨behind', hbehind', hsettle⟩ :=
        reaches_settle (w := (w.resume act).2) hlimit outs behind (w.resume act).1
      generalize hsettled : settle limit (w.resume act).2 (behind.map (·.2)) (w.resume act).1 =
        settled at hbehind' hsettle
      obtain ⟨out, acts, w'⟩ := settled
      obtain rfl : behind'.map (·.2) = acts := hbehind'
      have hlength : keys.length = behind'.length := by
        have hsame := hsettle.length_eq
        simp only [List.length_append, List.length_cons] at hsame hkeys
        omega
      obtain ⟨hrest, hreaches⟩ := ih (w := w') (outs ++ [out]) behind' hlength
      have hend : ended outs ++ (true, .done out) :: behind' =
          ended (outs ++ [out]) ++ behind' := by
        simp [ended]
      rw [hend] at hsettle
      simp only [settleAll, List.map_cons, hsettled]
      refine ⟨by rw [hrest], ?_⟩
      simpa using ((hstart.trans hresume).trans hsettle).trans hreaches

/-- Requests that run side by side have their turns in some order. -/
theorem exists_schedule_together {b : Batch} (hlimit : b.limit ≠ some 0) (w : World) : ∃ schedule,
    b.inTurns schedule w = some (b.runTogether w).1 ∧
      (turns b.limit schedule b.underway w).2 = (b.runTogether w).2 := by
  have hrequests : b.underway.map (·.2) = b.entries.map (·.2) := by
    simp [underway, Function.comp_def]
  obtain ⟨hkeys, schedule, hschedule⟩ :=
    reaches_settleAll (w := w) hlimit [] (b.entries.map (·.1)) b.underway
      (by simp [underway])
  rw [hrequests] at hkeys hschedule
  refine ⟨schedule, ?_, congrArg Prod.snd hschedule⟩
  rw [inTurns, results?_eq_some (by simp [length_turns, underway])]
  exact ⟨hkeys, (congrArg Prod.fst hschedule).trans List.map_map⟩

/-- Nothing else happens meanwhile, and all of them come to their end. -/
theorem together_alternates {b : Batch} (hlimit : b.limit ≠ some 0) (w : World) : ∃ h left,
    Alternation (b.entries.map (·.2)) w h left (b.runTogether w).2 ∧
      ∀ act ∈ left, ∃ out, act = .done out := by
  obtain ⟨schedule, hresults, hworld⟩ := exists_schedule_together hlimit w
  obtain ⟨h, halternation⟩ := exists_alternation b.limit schedule b.underway w
  obtain ⟨-, hended⟩ := (results?_eq_some (by simp [length_turns, underway])).mp hresults
  have hrequests : b.underway.map (·.2) = b.entries.map (·.2) := by
    simp [underway, Function.comp_def]
  rw [hworld, hended, hrequests] at halternation
  refine ⟨h, _, halternation, fun act hact => ?_⟩
  obtain ⟨entry, hentry, rfl⟩ := List.mem_map.mp hact
  obtain ⟨result, -, rfl⟩ := List.mem_map.mp hentry
  exact ⟨result.2, rfl⟩

end Batch

end Courier
