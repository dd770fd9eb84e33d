import Courier.Url.Pattern
/-
What patterns match. A pattern covers a text if each star can be given a run of
bytes such that the two become the same (`Pattern.Covers`). Matching gives no
run a second thought once the next star is met, and needs none: what follows the
later star may begin at any place behind (`Pattern.covers_of_reachedStar`), so
giving more bytes to an earlier star leads nowhere new.

The same match is a loop that keeps its place and the last star met
(`Pattern.Place`). The loop ends, whatever pattern and text it is given
(`Pattern.Place.ends_start`).
-/
namespace Courier.Pattern

/-- `Covers pattern text`: a star stands for any run of bytes, every other byte for itself. -/
inductive Covers : (pattern text : Bytes) → Prop
  | nil : Covers [] []
  | run {pattern text} (run : Bytes) : Covers pattern text → Covers (star :: pattern) (run ++ text)
  | byte {pattern text} {b : UInt8} :
      b ≠ star → Covers pattern text → Covers (b :: pattern) (b :: text)

variable {pattern text literal p t : Bytes}

/-! ## Covering -/

theorem covers_nil : Covers [] text ↔ text = [] := by
  constructor
  · intro h
    cases h
    rfl
  · rintro rfl
    exact .nil

/-- What follows a star covers some rest of the text. -/
theorem covers_star :
    Covers (star :: pattern) text ↔ ∃ suffix, suffix <:+ text ∧ Covers pattern suffix := by
  constructor
  · intro h
    cases h with
    | run run h => exact ⟨_, List.suffix_append run _, h⟩
    | byte hne _ => exact absurd rfl hne
  · rintro ⟨suffix, ⟨run, rfl⟩, h⟩
    exact .run run h

theorem covers_byte {b : UInt8} (hb : b ≠ star) :
    Covers (b :: pattern) text ↔ ∃ rest, text = b :: rest ∧ Covers pattern rest := by
  constructor
  · intro h
    cases h with
    | run _ _ => exact absurd rfl hb
    | byte _ h => exact ⟨_, rfl, h⟩
  · rintro ⟨rest, rfl, h⟩
    exact .byte hb h

/-- Bytes without a star cover themselves only. -/
theorem covers_literal (hliteral : star ∉ literal) :
    Covers (literal ++ pattern) text ↔ ∃ rest, text = literal ++ rest ∧ Covers pattern rest := by
  induction literal generalizing text with
  | nil => simp
  | cons b literal ih =>
    have hb : b ≠ star := Ne.symm (List.ne_of_not_mem_cons hliteral)
    have hrest : star ∉ literal := List.not_mem_of_not_mem_cons hliteral
    rw [List.cons_append, covers_byte hb]
    constructor
    · rintro ⟨rest, rfl, h⟩
      obtain ⟨rest', rfl, hcovers⟩ := (ih hrest).mp h
      exact ⟨rest', rfl, hcovers⟩
    · rintro ⟨rest, rfl, h⟩
      exact ⟨literal ++ rest, rfl, (ih hrest).mpr ⟨rest, rfl, h⟩⟩

/-- Every byte of a pattern but the stars has its place in the text. -/
theorem Covers.length_le (h : Covers pattern text) :
    (pattern.filter (· ≠ star)).length ≤ text.length := by
  induction h with
  | nil => exact Nat.le_refl 0
  | run run _ ih =>
    rw [List.filter_cons_of_neg (by simp), List.length_append]
    exact Nat.le_add_left_of_le ih
  | byte hne _ ih =>
    rw [List.filter_cons_of_pos (by simpa using hne)]
    exact Nat.succ_le_succ ih

/-- Stars alone cover any text, the empty one too. -/
theorem covers_of_all_star (h : pattern.all (· = star) = true) : Covers pattern [] := by
  induction pattern with
  | nil => exact .nil
  | cons b pattern ih =>
    obtain ⟨hb, hrest⟩ : b = star ∧ pattern.all (· = star) = true := by simpa using h
    exact hb ▸ .run [] (ih hrest)

/-! ## Matching at one place -/

/-- A match that reached the end of the text has decided the pattern. If it failed, the pattern is
too long for the text, and for every part of it. -/
theorem attempt_finished {matched : Bool} (h : attempt pattern text = .finished matched) :
    (matched = true → Covers pattern text) ∧
      (matched = false → text.length < (pattern.filter (· ≠ star)).length) := by
  fun_induction attempt pattern text with
  | case1 pattern =>
    cases h
    refine ⟨covers_of_all_star, fun hall => ?_⟩
    obtain ⟨b, hmem, hb⟩ := List.all_eq_false.mp hall
    exact List.length_pos_of_mem (List.mem_filter.mpr ⟨hmem, by simpa using hb⟩)
  | case2 => cases h
  | case3 => cases h
  | case4 p ps ts hp ih =>
    obtain ⟨hcovers, hlong⟩ := ih h
    refine ⟨fun hm => .byte hp (hcovers hm), fun hm => ?_⟩
    rw [List.filter_cons_of_pos (by simpa using hp)]
    exact Nat.succ_lt_succ (hlong hm)
  | case5 => cases h

theorem attempt_reachedStar (h : attempt pattern text = .reachedStar p t) :
    ∃ literal, star ∉ literal ∧ pattern = literal ++ star :: p ∧ text = literal ++ t := by
  fun_induction attempt pattern text with
  | case1 => cases h
  | case2 => cases h
  | case3 ps t' ts =>
    cases h
    exact ⟨[], List.not_mem_nil, rfl, rfl⟩
  | case4 ps b ts hb ih =>
    obtain ⟨literal, hliteral, rfl, rfl⟩ := ih h
    exact ⟨b :: literal, List.not_mem_cons_of_ne_of_not_mem (Ne.symm hb) hliteral, rfl, rfl⟩
  | case5 => cases h

theorem attempt_mismatch (h : attempt pattern text = .mismatch) : ¬ Covers pattern text := by
  fun_induction attempt pattern text with
  | case1 => cases h
  | case2 => simp [covers_nil]
  | case3 => cases h
  | case4 b ps ts hb ih =>
    intro hcovers
    obtain ⟨rest, heq, hrest⟩ := (covers_byte hb).mp hcovers
    obtain ⟨-, rfl⟩ := List.cons.inj heq
    exact ih h hrest
  | case5 b ps t' ts hb hne =>
    intro hcovers
    obtain ⟨rest, heq, -⟩ := (covers_byte hb).mp hcovers
    exact hne (List.cons.inj heq).1.symm

/-- From a star on, all that matters is what follows it, at any place behind. -/
theorem covers_of_reachedStar (h : attempt pattern text = .reachedStar p t) :
    Covers pattern text ↔ ∃ suffix, suffix <:+ t ∧ Covers p suffix := by
  obtain ⟨literal, hliteral, rfl, rfl⟩ := attempt_reachedStar h
  rw [covers_literal hliteral]
  constructor
  · rintro ⟨rest, heq, hcovers⟩
    obtain rfl := List.append_cancel_left heq
    exact covers_star.mp hcovers
  · intro hcovers
    exact ⟨t, rfl, covers_star.mpr hcovers⟩

/-- So no place for what stands before the star is better than the first one. -/
theorem exists_suffix_of_reachedStar (h : attempt pattern text = .reachedStar p t) :
    (∃ suffix, suffix <:+ text ∧ Covers pattern suffix) ↔
      ∃ suffix, suffix <:+ t ∧ Covers p suffix := by
  refine ⟨?_, fun hcovers => ⟨text, List.suffix_rfl, (covers_of_reachedStar h).mpr hcovers⟩⟩
  obtain ⟨literal, hliteral, rfl, rfl⟩ := attempt_reachedStar h
  rintro ⟨suffix, hsuffix, hcovers⟩
  obtain ⟨rest, rfl, hrest⟩ := (covers_literal hliteral).mp hcovers
  obtain ⟨suffix', hsuffix', hcovers'⟩ := covers_star.mp hrest
  refine ⟨suffix', List.suffix_of_suffix_length_le ?_ (List.suffix_append literal t) ?_, hcovers'⟩
  · exact hsuffix'.trans ((List.suffix_append literal rest).trans hsuffix)
  · have hlength := hsuffix.length_le
    simp only [List.length_append] at hlength
    exact Nat.le_trans hsuffix'.length_le (by omega)

/-! ## Matching all of a text -/

theorem afterStar_iff :
    afterStar pattern text = true ↔ ∃ suffix, suffix <:+ text ∧ Covers pattern suffix := by
  fun_induction afterStar pattern text with
  | case1 pattern text matched hreached =>
    obtain ⟨hcovers, hlong⟩ := attempt_finished hreached
    constructor
    · intro hm
      exact ⟨text, List.suffix_rfl, hcovers hm⟩
    · rintro ⟨suffix, hsuffix, hsuffixCovers⟩
      refine Bool.of_not_eq_false fun hm => ?_
      exact absurd (Nat.le_trans hsuffixCovers.length_le hsuffix.length_le)
        (Nat.not_le.mpr (hlong hm))
  | case2 pattern text p t hreached _ ih => rw [ih, exists_suffix_of_reachedStar hreached]
  | case3 pattern hreached => cases pattern <;> cases hreached
  | case4 pattern t rest hreached ih =>
    rw [ih]
    constructor
    · rintro ⟨suffix, hsuffix, hcovers⟩
      exact ⟨suffix, hsuffix.trans (List.suffix_cons t rest), hcovers⟩
    · rintro ⟨suffix, hsuffix, hcovers⟩
      obtain rfl | hsuffix := List.suffix_cons_iff.mp hsuffix
      · exact absurd hcovers (attempt_mismatch hreached)
      · exact ⟨suffix, hsuffix, hcovers⟩

theorem matchesAll_iff : matchesAll pattern text = true ↔ Covers pattern text := by
  unfold matchesAll
  cases hreached : attempt pattern text with
  | finished matched =>
    obtain ⟨hcovers, hlong⟩ := attempt_finished hreached
    refine ⟨hcovers, fun h => Bool.of_not_eq_false fun hm => ?_⟩
    exact absurd h.length_le (Nat.not_le.mpr (hlong hm))
  | reachedStar p t => rw [covers_of_reachedStar hreached, ← afterStar_iff]
  | mismatch => exact iff_of_false Bool.false_ne_true (attempt_mismatch hreached)

theorem covers_loosened :
    Covers (loosened pattern) text ↔ ∃ suffix, suffix <:+ text ∧ Covers pattern suffix := by
  unfold loosened
  split
  · next hstar =>
    obtain ⟨rest, rfl⟩ := List.head?_eq_some_iff.mp hstar
    refine ⟨fun h => ⟨text, List.suffix_rfl, h⟩, ?_⟩
    rintro ⟨suffix, hsuffix, h⟩
    obtain ⟨suffix', hsuffix', h⟩ := covers_star.mp h
    exact covers_star.mpr ⟨suffix', hsuffix'.trans hsuffix, h⟩
  · exact covers_star

/-! ## The loop -/

/-- Where a match stands: what is left of the pattern and of the text, and of the last star what
follows it and the text from which it may take in more bytes. -/
structure Place where
  pattern : Bytes
  text : Bytes
  last? : Option (Bytes × Bytes)

namespace Place

/-- Before anything was matched. -/
def start (pattern text : Bytes) : Place := ⟨pattern, text, none⟩

/-- The last star takes in one byte more. Without a star there is no match. -/
def back (last? : Option (Bytes × Bytes)) : Bool ⊕ Place :=
  match last? with
  | some (pattern, _ :: text) => .inr ⟨pattern, text, some (pattern, text)⟩
  | _ => .inl false

/-- One round: whether the pattern matches, or the next place. -/
def step (place : Place) : Bool ⊕ Place :=
  match place.pattern, place.text with
  | pattern, [] => .inl (pattern.all (· = star))
  | [], _ :: _ => back place.last?
  | b :: pattern, t :: text =>
    if b = star then .inr ⟨pattern, t :: text, some (pattern, t :: text)⟩
    else if b = t then .inr ⟨pattern, text, place.last?⟩
    else back place.last?

/-- `place.Ends matched`: from the place on the loop comes to an end, with this result. -/
inductive Ends : Place → Bool → Prop
  | stops {place matched} : place.step = .inl matched → Ends place matched
  | goesOn {place next matched} : place.step = .inr next → Ends next matched → Ends place matched

theorem Ends.unique {place : Place} {matched matched' : Bool} (h : place.Ends matched)
    (h' : place.Ends matched') :
    matched = matched' := by
  induction h with
  | stops hstep =>
    cases h' with
    | stops hstep' => exact Sum.inl.inj (hstep.symm.trans hstep')
    | goesOn hstep' _ => cases hstep.symm.trans hstep'
  | goesOn hstep _ ih =>
    cases h' with
    | stops hstep' => cases hstep.symm.trans hstep'
    | goesOn hstep' h' => exact ih (Sum.inr.inj (hstep.symm.trans hstep') ▸ h')

/-- How the loop ends from a place depends on how the match goes on there; where it fails, the last
star is asked. -/
theorem ends_of_attempt {last? : Option (Bytes × Bytes)} {matched : Bool}
    (h : match attempt pattern text with
      | .finished m => m = matched
      | .reachedStar p t => Ends ⟨p, t, some (p, t)⟩ matched
      | .mismatch => ∀ place : Place, place.step = back last? → place.Ends matched) :
    Ends ⟨pattern, text, last?⟩ matched := by
  fun_induction attempt pattern text with
  | case1 pattern => exact .stops (by simp [step, ← h])
  | case2 => exact h _ (by simp [step])
  | case3 ps t ts => exact .goesOn (by simp [step]) h
  | case4 b ps ts hb ih => exact .goesOn (by simp [step, hb]) (ih h)
  | case5 b ps t ts hb hne => exact h _ (by simp [step, hb, hne])

theorem ends_afterStar (pattern text : Bytes) :
    Ends ⟨pattern, text, some (pattern, text)⟩ (afterStar pattern text) := by
  fun_induction afterStar pattern text with
  | case1 pattern text matched hreached => exact ends_of_attempt (by rw [hreached])
  | case2 pattern text p t hreached _ ih => exact ends_of_attempt (by rw [hreached]; exact ih)
  | case3 pattern hreached =>
    exact ends_of_attempt (by rw [hreached]; exact fun _ hstep => .stops hstep)
  | case4 pattern t rest hreached ih =>
    exact ends_of_attempt (by rw [hreached]; exact fun _ hstep => .goesOn hstep ih)

/-- The loop comes to its end, and says what matching says. -/
theorem ends_start (pattern text : Bytes) :
    (start pattern text).Ends (matchesAll pattern text) := by
  refine ends_of_attempt ?_
  unfold matchesAll
  cases attempt pattern text with
  | finished matched => rfl
  | reachedStar p t => exact ends_afterStar p t
  | mismatch => exact fun _ hstep => .stops hstep

end Place

/-- A pattern matches exactly the texts that it covers. Looked for in a text it is found if it
covers some rest of the text, whether or not it begins with a star; so it is with URLs, byte by
byte. A loop that remembers a single star comes to its end on every pattern and text, with the same
result. -/
theorem matches_iff_covers :
    (∀ pattern text : Bytes, (matchesAll pattern text = true ↔ Covers pattern text) ∧
      (matchesAll (loosened pattern) text = true ↔
        ∃ suffix, suffix <:+ text ∧ Covers pattern suffix) ∧
      ∀ matched, (Place.start pattern text).Ends matched ↔ matched = matchesAll pattern text) ∧
    ∀ pattern url : String, matchesUrl pattern url = true ↔
      ∃ suffix, suffix <:+ Utf8.encode url ∧ Covers (Utf8.encode pattern) suffix := by
  have hloosened (pattern text : Bytes) :
      matchesAll (loosened pattern) text = true ↔
          ∃ suffix, suffix <:+ text ∧ Covers pattern suffix :=
    matchesAll_iff.trans covers_loosened
  refine ⟨fun pattern text => ⟨matchesAll_iff, hloosened pattern text, fun matched => ?_⟩,
      fun pattern url =>
    hloosened _ _⟩
  constructor
  · intro h
    exact h.unique (Place.ends_start pattern text)
  · rintro rfl
    exact Place.ends_start pattern text

end Courier.Pattern
