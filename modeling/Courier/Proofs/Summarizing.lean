import Courier.Policies
import Courier.Proofs.ReadingBack.Utf8
/-
What the error of a failed response shows of its body. The length that counts
is the one that was last set through any handle of the policy, whatever was
made, copied or set besides; it counts characters of the lossy text, so a cut
never falls inside a character. A character that may not be shown is looked for
only within the cut, and a broken piece of the body, which reads as U+FFFD, is
such a character.

- `Policies.length_run`: the length of a policy after any calls.
- `Summary.summarizes_of?`: the summary for a length, in all of its cases.
- `Policies.run_raise`: the error that a call gives, among any calls before it
  and after it.
-/
namespace Courier

/-! ## The text of a body -/

namespace Utf8

/-- A character that was begun ends in a piece, be it a broken one. -/
theorem piecesFrom_some_ne_nil (u : Unfinished) (bytes : Bytes) :
    piecesFrom (some u) bytes ≠ [] := by
  induction bytes generalizing u with
  | nil => exact List.cons_ne_nil _ _
  | cons b rest ih =>
    unfold piecesFrom
    split
    · dsimp only
      split
      · exact List.cons_ne_nil _ _
      · exact ih _
    · exact List.cons_ne_nil _ _

theorem pieces_eq_nil {bytes : Bytes} : pieces bytes = [] ↔ bytes = [] := by
  refine ⟨fun h => ?_, fun h => h ▸ rfl⟩
  cases bytes with
  | nil => rfl
  | cons b rest =>
    rw [pieces] at h
    unfold piecesFrom at h
    split at h
    · exact absurd h (List.cons_ne_nil _ _)
    · exact absurd h (piecesFrom_some_ne_nil _ _)
    · exact absurd h (List.cons_ne_nil _ _)

theorem toList_decodeLossy (bytes : Bytes) :
    (decodeLossy bytes).toList = (pieces bytes).map (·.getD replacement) :=
  String.toList_ofList

theorem decodeLossy_eq_empty {bytes : Bytes} : decodeLossy bytes = "" ↔ bytes = [] := by
  rw [← String.toList_inj, toList_decodeLossy, String.toList_empty, List.map_eq_nil_iff,
    pieces_eq_nil]

end Utf8

/-! ## Summaries -/

namespace Summary

/-- The characters that a cut summary may not show: U+FFFD and the controls, but for those that
break and indent lines. -/
def Hidden (c : Char) : Prop :=
  c = Utf8.replacement ∨ (c.toNat < 0x20 ∨ 0x7F ≤ c.toNat ∧ c.toNat < 0xA0) ∧ c ≠ '\n' ∧
    c ≠ '\r' ∧ c ≠ '\t'

theorem isPrintable_eq_false {c : Char} : isPrintable c = false ↔ Hidden c := by
  simp only [isPrintable, isControl, Hidden, Bool.and_eq_false_iff, Bool.or_eq_false_iff,
    Bool.not_eq_false', Bool.or_eq_true, Bool.and_eq_true, decide_eq_true_eq,
    decide_eq_false_iff_not, ne_eq, Decidable.not_not]
  grind

/-- What stands behind a text that was cut. -/
def mark : String := " (truncated...)"

/-- The summary of a body for a length, where a length of zero shows all of it. -/
structure Summarizes (body : Bytes) (length : Nat) (summary : Option String) : Prop where
  whole :
    length = 0 → summary = if Utf8.decodeLossy body = "" then none else some (Utf8.decodeLossy body)
  missing : 0 < length →
    (summary = none ↔ body = [] ∨ ∃ c ∈ (Utf8.decodeLossy body).toList.take length, Hidden c)
  shown : 0 < length → ∀ s, summary = some s →
    s.toList = (Utf8.decodeLossy body).toList.take length ++
      if length < (Utf8.decodeLossy body).toList.length then mark.toList else []

theorem cut?_eq_none {body : Bytes} {length : Nat} : cut? body length = none ↔
    body = [] ∨ ∃ c ∈ (Utf8.decodeLossy body).toList.take length, Hidden c := by
  by_cases hempty : body = []
  · simp [cut?, hempty]
  · by_cases hall : ((Utf8.decodeLossy body).toList.take length).all isPrintable = true
    · have hnone : ¬∃ c ∈ (Utf8.decodeLossy body).toList.take length, Hidden c := by
        rintro ⟨c, hc, hhidden⟩
        rw [← isPrintable_eq_false, List.all_eq_true.1 hall c hc] at hhidden
        exact absurd hhidden (by decide)
      simp only [hempty, hnone, or_self, iff_false]
      simp only [cut?, List.isEmpty_iff, hempty, hall, Bool.not_true, Bool.false_eq_true, if_false]
      split <;> exact Option.some_ne_none _
    · have hsome : ∃ c ∈ (Utf8.decodeLossy body).toList.take length, Hidden c := by
        obtain ⟨c, hc, hhidden⟩ := List.all_eq_false.1 (Bool.eq_false_iff.2 hall)
        exact ⟨c, hc, isPrintable_eq_false.1 (Bool.eq_false_iff.2 hhidden)⟩
      simp [cut?, hall, hsome]

theorem toList_of_cut? {body : Bytes} {length : Nat} {s : String} (h : cut? body length = some s) :
    s.toList = (Utf8.decodeLossy body).toList.take length ++
      if length < (Utf8.decodeLossy body).toList.length then mark.toList else [] := by
  simp only [cut?] at h
  split at h
  · nomatch h
  split at h
  · nomatch h
  split at h
  next hlong =>
    rw [← Option.some.inj h, String.toList_append, String.toList_ofList, if_pos hlong]
    rfl
  next hlong => rw [← Option.some.inj h, String.toList_ofList, if_neg hlong, List.append_nil]

theorem summarizes_of? (body : Bytes) (length : Nat) :
    Summarizes body length (of? body (.ofLength length)) := by
  cases length with
  | zero =>
    refine ⟨fun _ => ?_, fun h => absurd h (Nat.lt_irrefl 0), fun h => absurd h (Nat.lt_irrefl 0)⟩
    simp only [Truncation.ofLength, of?, List.isEmpty_iff, Utf8.decodeLossy_eq_empty]
  | succ n =>
    exact ⟨fun h => absurd h (Nat.succ_ne_zero n), fun _ => cut?_eq_none, fun _ _ => toList_of_cut?⟩

end Summary

/-- The error of a response, its summary cut to a length. -/
structure StatusError.Describes (e : StatusError) (r : Response) (length : Nat) : Prop where
  response : e.response = r
  summary : Summary.Summarizes r.body length e.summary
  /-- The status line, and once behind it the summary that there is. -/
  message : e.message =
    "HTTP request returned status code " ++ Ascii.showNat r.status ++
      (e.summary.elim "" fun s => ":\n" ++ s ++ "\n")

theorem StatusError.of?_eq_none {r : Response} {t : Truncation} :
    of? r t = none ↔ r.failed = false := by
  simp [of?]

theorem StatusError.describes_of? {e : StatusError} {r : Response} {length : Nat}
    (h : of? r (.ofLength length) = some e) : e.Describes r length := by
  simp only [of?, Option.ite_none_right_eq_some, Option.some.injEq] at h
  obtain ⟨-, rfl⟩ := h
  refine ⟨rfl, Summary.summarizes_of? r.body length, ?_⟩
  unfold message status
  refine congrArg _ ?_
  cases Summary.of? r.body (.ofLength length) <;> rfl

/-! ## Policies -/

namespace Policies

/-- The handle through which a call sets a length, and that length. -/
def Call.setting? : Call → Option (Nat × Nat)
  | .truncate handle => some (handle, Truncation.defaultLength)
  | .truncateAt handle length => some (handle, length)
  | .dontTruncate handle => some (handle, 0)
  | _ => none

/-- The length that a call sets for a policy, through whichever of its handles. -/
def set? (p : Policies) (policy : Nat) (call : Call) : Option Nat :=
  call.setting?.bind fun (handle, length) =>
    if p.handles[handle]? = some policy then some length else none

/-- The lengths that calls set for a policy, one after another. -/
def settings (policy : Nat) : Policies → List Call → List Nat
  | _, [] => []
  | p, call :: calls => (p.set? policy call).toList ++ settings policy (p.step call) calls

theorem length_make (p : Policies) (policy : Nat) : p.make.length policy = p.length policy := by
  simp only [length, make, List.getElem?_append]
  split
  · rfl
  next hnew =>
    rw [List.getElem?_eq_none (Nat.le_of_not_lt hnew)]
    cases hn : policy - p.lengths.length <;> simp

/-- A length that is set through a handle is that of the policy for which it stands, and of no
other. -/
theorem length_truncateAt (p : Policies) (handle n policy : Nat) :
    (p.truncateAt handle n).length policy =
    if p.handles[handle]? = some policy then n else p.length policy := by
  cases hhandle : p.handles[handle]? with
  | none => simp [truncateAt, hhandle]
  | some own =>
    have hlive : own < p.lengths.length := p.live own (List.mem_of_getElem? hhandle)
    by_cases hown : own = policy
    · subst hown
      simp [truncateAt, hhandle, length, hlive]
    · simp [truncateAt, hhandle, length, hown]

theorem length_step (p : Policies) (call : Call) (policy : Nat) :
    (p.step call).length policy = (p.set? policy call).getD (p.length policy) := by
  have hset (handle n : Nat) : (p.truncateAt handle n).length policy =
      (if p.handles[handle]? = some policy then some n else none).getD (p.length policy) := by
    rw [length_truncateAt]
    split <;> rfl
  cases call with
  | make => exact p.length_make policy
  | copy | raise => rfl
  | truncate handle | truncateAt handle | dontTruncate handle => exact hset handle _

/-- The length of a policy is the one that was set last, if any was. -/
theorem length_run (p : Policies) (calls : List Call) (policy : Nat) :
    (p.run calls).2.length policy = (settings policy p calls).getLast?.getD (p.length policy) := by
  induction calls generalizing p with
  | nil => rfl
  | cons call calls ih =>
    rw [run, ih, length_step, settings, List.getLast?_append]
    cases p.set? policy call <;> cases (settings policy (p.step call) calls).getLast? <;> rfl

/-- Every call is answered by the policies that the calls before it leave. -/
theorem reply_run (p : Policies) (before after : List Call) (call : Call) :
    (p.run (before ++ call :: after)).1[before.length]? = some ((p.run before).2.reply call) := by
  induction before generalizing p with
  | nil => rfl
  | cons first before ih => exact ih (p.step first)

/-- Of policies that are made, copied and set in any order: a response that did not fail gives no
error; a failed one gives the error that shows its body cut to the length which was last set through
any handle of the policy, or else to the default one. Calls that follow do not change it. -/
theorem run_raise (before after : List Call) (r : Response) {handle policy : Nat}
    (h : (empty.run before).2.handles[handle]? = some policy) :
    ∃ e?, (empty.run (before ++ .raise handle r :: after)).1[before.length]? = some e? ∧
      (e? = none ↔ r.failed = false) ∧
      ∀ e, e? = some e →
        e.Describes r ((settings policy empty before).getLast?.getD Truncation.defaultLength) := by
  have hlength : (empty.run before).2.length policy =
      (settings policy empty before).getLast?.getD Truncation.defaultLength :=
        length_run empty before policy
  have hreply : (empty.run before).2.reply (.raise handle r) =
      StatusError.of? r
          (.ofLength ((settings policy empty before).getLast?.getD Truncation.defaultLength)) := by
    rw [reply, raise?, truncation?, h, ← hlength]
    rfl
  refine ⟨_, reply_run empty before after _, ?_, fun e he => ?_⟩
  · rw [hreply, StatusError.of?_eq_none]
  · exact StatusError.describes_of? (hreply ▸ he)

/-- A policy cuts to two characters, set through its copy, beside another one that does not cut; the
cut stands behind a character of three bytes. -/
theorem run_raise_copied :
    (empty.run [.make, .copy 0, .make, .truncateAt 1 2, .dontTruncate 2]).2.handles[0]? = some 0 ∧
      ∃ e, (empty.run ([.make, .copy 0, .make, .truncateAt 1 2, .dontTruncate 2] ++
          .raise 0 ⟨500, .empty, Utf8.encode "1€ and more", .empty, none⟩ :: [.truncate 0])).1[5]? =
            some (some e) ∧
        e.Describes ⟨500, .empty, Utf8.encode "1€ and more", .empty, none⟩ 2 := by
  have hhandle :
      (empty.run [.make, .copy 0, .make, .truncateAt 1 2, .dontTruncate 2]).2.handles[0]? =
      some 0 := rfl
  obtain ⟨e?, hat, hnone, hsome⟩ :=
    run_raise _ [.truncate 0] ⟨500, .empty, Utf8.encode "1€ and more", .empty, none⟩ hhandle
  cases e? with
  | none => exact absurd (hnone.1 rfl) (by decide)
  | some e => exact ⟨hhandle, e, hat, hsome e rfl⟩

end Policies

end Courier
