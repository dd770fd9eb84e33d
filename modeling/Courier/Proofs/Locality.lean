import Mathlib.Data.List.TakeWhile
import Courier.Proofs.ReadingBack.Json
/-
The readers of tokens look at nothing but what they take off the front of a
text. A literal, a string, a colon and the place where the next item or the
next key of an object begins are the same whatever follows them
(`literal_front`, `stringFrom_front`, `nextItem_front`, `nextKey_front`,
`colon_front`). A number is the exception: it is as long as it can be, so it is
the same only in front of what does not go on with it (`number_front`).

Each lemma takes a text that a reader accepts apart: what was taken off, and
what is left. It says that the same is taken off any other text that begins
with it.
-/
namespace Courier.Json

/-! ## Results -/

theorem bind_eq_ok {ε α β : Type} {x : Except ε α} {f : α → Except ε β} {b : β} :
    x >>= f = .ok b ↔ ∃ a, x = .ok a ∧ f a = .ok b := by
  cases x <;> simp [bind, Except.bind]

theorem map_eq_ok {ε α β : Type} {x : Except ε α} {f : α → β} {b : β} :
    x.map f = .ok b ↔ ∃ a, x = .ok a ∧ f a = b := by
  cases x <;> simp [Except.map]

namespace Reader

variable {bytes rest : Bytes}

/-! ## Tokens -/

theorem skipBlanks_eq_cons {b : UInt8} (h : skipBlanks bytes = b :: rest) : ∃ blanks,
    bytes = blanks ++ b :: rest ∧ ∀ more, skipBlanks (blanks ++ b :: more) = b :: more := by
  have hb : isBlank b = false := by
    have hhead := List.head?_dropWhile_not isBlank bytes
    rw [skipBlanks] at h
    simpa [h] using hhead
  refine ⟨bytes.takeWhile isBlank, ?_, fun more => ?_⟩
  · rw [← h, skipBlanks, List.takeWhile_append_dropWhile]
  · rw [skipBlanks, List.dropWhile_append_of_pos fun b hb => List.mem_takeWhile_imp
      (p := isBlank) hb]
    exact skipBlanks_cons hb more

theorem literal_front {cs : List Char} (h : literal cs bytes = .ok rest) :
    ∃ used, bytes = used ++ rest ∧ ∀ more, literal cs (used ++ more) = .ok more := by
  induction cs generalizing bytes with
  | nil =>
    obtain rfl := Except.ok.inj h
    exact ⟨[], rfl, fun _ => rfl⟩
  | cons c cs ih =>
    cases bytes with
    | nil => cases h
    | cons b bytes =>
      rw [literal] at h
      split at h
      · next hb =>
        obtain ⟨used, rfl, hused⟩ := ih h
        exact ⟨b :: used, rfl, fun more => by rw [List.cons_append, literal, if_pos hb, hused]⟩
      · cases h

/-- A byte that only leads to another state. -/
theorem stringFrom_step {w w' : Within} {done done' : Bytes} {b : UInt8} {s : String}
    (heq : ∀ more, stringFrom w done (b :: more) = stringFrom w' done' more)
    (ih : ∃ used, bytes = used ++ rest ∧ ∀ more, stringFrom w' done' (used ++ more) =
      .ok (s, more)) :
    ∃ used, b :: bytes = used ++ rest ∧
      ∀ more, stringFrom w done (used ++ more) = .ok (s, more) := by
  obtain ⟨used, rfl, hused⟩ := ih
  exact ⟨b :: used, rfl, fun more => (heq _).trans (hused more)⟩

theorem stringFrom_front {w : Within} {done : Bytes} {s : String}
    (h : stringFrom w done bytes = .ok (s, rest)) :
    ∃ used, bytes = used ++ rest ∧ ∀ more, stringFrom w done (used ++ more) = .ok (s, more) := by
  fun_induction stringFrom w done bytes with
  | case2 done tail t hdecode =>
    obtain ⟨rfl, rfl⟩ := Prod.mk.inj (Except.ok.inj h)
    exact ⟨[byte '\x22'], rfl, fun more => by simp [stringFrom, hdecode]⟩
  | _ =>
    first
      | cases h
      | next ih => exact stringFrom_step (fun more => by simp [stringFrom, *]) (ih h)

/-! ## Numbers -/

theorem endsNumber_of_skipBlanks {b : UInt8} (h : skipBlanks bytes = b :: rest)
    (hb : isDigit b = false ∧ b ≠ byte '.' ∧ b ≠ byte 'e' ∧ b ≠ byte 'E') : EndsNumber bytes := by
  cases bytes with
  | nil => exact .nil
  | cons first more =>
    by_cases hblank : isBlank first = true
    · simp only [isBlank, Bool.or_eq_true, decide_eq_true_eq] at hblank
      rcases hblank with ((rfl | rfl) | rfl) | rfl <;> exact .cons (by decide) more
    · rw [skipBlanks_cons (by simpa using hblank)] at h
      obtain ⟨rfl, rfl⟩ := List.cons.inj h
      exact .cons hb more

/-- Where no digit stands, none stands after what follows is exchanged. -/
theorem EndsDigits.exchange {used more : Bytes} (h : EndsDigits (used ++ rest))
    (hmore : EndsNumber more) :
    EndsDigits (used ++ more) := by
  cases used with
  | nil => exact hmore.endsDigits
  | cons b used =>
    rintro _ _ ⟨⟩
    exact h b _ rfl

/-- Every text begins with its digits, which may be none. -/
theorem exists_digits (bytes : Bytes) :
    ∃ ds after, bytes = ds ++ after ∧ (∀ d ∈ ds, isDigit d = true) ∧
    EndsDigits after := by
  refine ⟨bytes.takeWhile isDigit, bytes.dropWhile isDigit, List.takeWhile_append_dropWhile.symm,
    fun _ => List.mem_takeWhile_imp, fun b more heq => ?_⟩
  simpa [heq] using List.head?_dropWhile_not isDigit bytes

variable {negative : Bool} {significand : Nat} {exponent : Int} {n : Number}

/-- A number that ends here, whatever comes next. -/
theorem ends_of_map_eq_ok {x : Except Flaw Number} (h : x.map (·, bytes) = .ok (n, rest)) :
    bytes = rest ∧ ∀ more : Bytes, x.map (·, more) = .ok (n, more) := by
  obtain ⟨y, rfl, hpair⟩ := map_eq_ok.mp h
  obtain ⟨rfl, rfl⟩ := Prod.mk.inj hpair
  exact ⟨rfl, fun _ => rfl⟩

/-- The digits of an exponent, after its sign. -/
def powerPart (negative : Bool) (significand : Nat) (exponent : Int) (down : Bool) (bytes : Bytes) :
    Except Flaw (Number × Bytes) :=
  match bytes with
  | [] => .error .endOfValue
  | b :: _ =>
    if !isDigit b then .error .invalidNumber
    else
      let power : Int := digitsValue (bytes.takeWhile isDigit)
      (toDouble negative significand (exponent + if down then -power else power)).map
        (·, bytes.dropWhile isDigit)

theorem exponentPart_cons (b : UInt8) (more : Bytes) :
    exponentPart negative significand exponent (b :: more) =
    if b = byte '+' then powerPart negative significand exponent false more
    else if b = byte '-' then powerPart negative significand exponent true more
    else powerPart negative significand exponent false (b :: more) := by
  split_ifs with hplus hminus
  · simp only [exponentPart, if_pos hplus]
    rfl
  · simp only [exponentPart, if_neg hplus, if_pos hminus]
    rfl
  · simp only [exponentPart, if_neg hplus, if_neg hminus]
    rfl

theorem powerPart_front {down : Bool}
    (h : powerPart negative significand exponent down bytes = .ok (n, rest)) :
    ∃ d ds, bytes = d :: ds ++ rest ∧
      ∀ more, EndsNumber more → powerPart negative significand exponent down (d :: ds ++ more) =
        .ok (n, more) := by
  obtain ⟨ds, after, rfl, hds, hafter⟩ := exists_digits bytes
  cases ds with
  | nil =>
    cases after with
    | nil => cases h
    | cons b more => simp [powerPart, hafter b more rfl] at h
  | cons d ds =>
    have hd : isDigit d = true := hds d List.mem_cons_self
    have hpower {tail : Bytes} (htail : EndsDigits tail) :
        powerPart negative significand exponent down (d :: ds ++ tail) =
        (toDouble negative significand (exponent + if down then -(digitsValue (d :: ds) : Int) else
          digitsValue (d :: ds))).map (·, tail) := by
      obtain ⟨htake, hdrop⟩ := takeWhile_isDigit hds htail
      rw [List.cons_append] at htake hdrop ⊢
      simp only [powerPart, hd, htake, hdrop, Bool.not_true, Bool.false_eq_true, if_false]
    rw [hpower hafter] at h
    obtain ⟨rfl, hx⟩ := ends_of_map_eq_ok h
    exact ⟨d, ds, rfl, fun more hmore => (hpower hmore.endsDigits).trans (hx more)⟩

theorem exponentPart_front (h : exponentPart negative significand exponent bytes = .ok (n, rest)) :
    ∃ used, bytes = used ++ rest ∧
      ∀ more, EndsNumber more → exponentPart negative significand exponent (used ++ more) =
        .ok (n, more) := by
  cases bytes with
  | nil => cases h
  | cons b tail =>
    rw [exponentPart_cons] at h
    split_ifs at h with hplus hminus
    · obtain ⟨d, ds, rfl, hpower⟩ := powerPart_front h
      refine ⟨b :: d :: ds, rfl, fun more hmore => ?_⟩
      rw [List.cons_append, exponentPart_cons, if_pos hplus, hpower more hmore]
    · obtain ⟨d, ds, rfl, hpower⟩ := powerPart_front h
      refine ⟨b :: d :: ds, rfl, fun more hmore => ?_⟩
      rw [List.cons_append, exponentPart_cons, if_neg hplus, if_pos hminus, hpower more hmore]
    · obtain ⟨d, ds, heq, hpower⟩ := powerPart_front h
      obtain ⟨rfl, rfl⟩ := List.cons.inj heq
      refine ⟨b :: ds, rfl, fun more hmore => ?_⟩
      have hmore := hpower more hmore
      rw [List.cons_append] at hmore ⊢
      rw [exponentPart_cons, if_neg hplus, if_neg hminus, hmore]

/-- What comes after the digits of a fraction. -/
def afterFraction (negative : Bool) (significand : Nat) (exponent : Int) :
    Bytes → Except Flaw (Number × Bytes)
  | b :: more =>
    if b = byte 'e' || b = byte 'E' then exponentPart negative significand exponent more
    else (toDouble negative significand exponent).map (·, b :: more)
  | [] => (toDouble negative significand exponent).map (·, [])

theorem fractionPart_append {ds : Bytes} (hne : ds ≠ []) (hds : ∀ d ∈ ds, isDigit d = true)
    (hrest : EndsDigits rest) : fractionPart negative significand exponent (ds ++ rest) =
      afterFraction negative (fitting significand ds).1
        (exponent - (ds.length - (fitting significand ds).2.length : Nat)) rest := by
  obtain ⟨htake, hdrop⟩ := takeWhile_isDigit hds hrest
  have hempty : ds.isEmpty = false := by simpa using hne
  simp only [fractionPart, htake, hdrop, hempty, Bool.false_eq_true, if_false]
  cases rest <;> rfl

theorem afterFraction_ends {more : Bytes} (h : EndsNumber more) :
    afterFraction negative significand exponent more =
    (toDouble negative significand exponent).map (·, more) := by
  cases more with
  | nil => rfl
  | cons b tail => simp [afterFraction, h b tail rfl]

theorem afterFraction_front (h : afterFraction negative significand exponent bytes =
    .ok (n, rest)) :
    ∃ used, bytes = used ++ rest ∧
      ∀ more, EndsNumber more → afterFraction negative significand exponent (used ++ more) =
        .ok (n, more) := by
  have hends (hx : ∀ more : Bytes, (toDouble negative significand exponent).map (·, more) =
      .ok (n, more)) :
      ∀ more, EndsNumber more → afterFraction negative significand exponent ([] ++ more) =
          .ok (n, more) :=
    fun more hmore => (afterFraction_ends hmore).trans (hx more)
  cases bytes with
  | nil =>
    obtain ⟨rfl, hx⟩ := ends_of_map_eq_ok h
    exact ⟨[], rfl, hends hx⟩
  | cons b tail =>
    rw [afterFraction] at h
    split at h
    · next he =>
      obtain ⟨used, rfl, hused⟩ := exponentPart_front h
      refine ⟨b :: used, rfl, fun more hmore => ?_⟩
      rw [List.cons_append, afterFraction, if_pos he, hused more hmore]
    · obtain ⟨rfl, hx⟩ := ends_of_map_eq_ok h
      exact ⟨[], rfl, hends hx⟩

theorem fractionPart_front (h : fractionPart negative significand exponent bytes = .ok (n, rest)) :
    ∃ used, bytes = used ++ rest ∧
      ∀ more, EndsNumber more → fractionPart negative significand exponent (used ++ more) =
        .ok (n, more) := by
  obtain ⟨ds, after, rfl, hds, hafter⟩ := exists_digits bytes
  have hne : ds ≠ [] := by
    rintro rfl
    cases after with
    | nil => cases h
    | cons b more => simp [fractionPart, hafter b more rfl] at h
  rw [fractionPart_append hne hds hafter] at h
  obtain ⟨used, rfl, hused⟩ := afterFraction_front h
  refine ⟨ds ++ used, (List.append_assoc ..).symm, fun more hmore => ?_⟩
  rw [List.append_assoc, fractionPart_append hne hds (hafter.exchange hmore), hused more hmore]

/-- A number without a fraction and an exponent. -/
def whole (negative : Bool) (ds : Bytes) : Except Flaw Number :=
  if (fitting 0 ds).2.isEmpty then integer negative (fitting 0 ds).1
  else toDouble negative (fitting 0 ds).1 (fitting 0 ds).2.length

/-- What comes after the digits before a point. -/
def afterDigits (negative : Bool) (ds : Bytes) : Bytes → Except Flaw (Number × Bytes)
  | b :: more =>
    if b = byte '.' then fractionPart negative (fitting 0 ds).1 (fitting 0 ds).2.length more
    else if b = byte 'e' || b = byte 'E' then
      exponentPart negative (fitting 0 ds).1 (fitting 0 ds).2.length more
    else (whole negative ds).map (·, b :: more)
  | [] => (whole negative ds).map (·, [])

theorem number_append {d : UInt8} {ds : Bytes} (hds : ∀ b ∈ d :: ds, isDigit b = true)
    (hrest : EndsDigits rest) :
    number negative (d :: ds ++ rest) =
      if d = byte '0' && !ds.isEmpty then .error .invalidNumber else afterDigits negative
        (d :: ds) rest := by
  obtain ⟨htake, hdrop⟩ := takeWhile_isDigit hds hrest
  have hwhole (rest : Bytes) : (whole negative (d :: ds)).map (·, rest) =
      if (fitting 0 (d :: ds)).2.isEmpty then
        (integer negative (fitting 0 (d :: ds)).1).map (·, rest)
      else (toDouble negative (fitting 0 (d :: ds)).1 (fitting 0 (d :: ds)).2.length).map
          (·, rest) := by
    rw [whole]
    split <;> rfl
  simp only [number, htake, hdrop]
  cases rest <;> simp only [afterDigits, hwhole]

theorem afterDigits_ends {ds more : Bytes} (h : EndsNumber more) :
    afterDigits negative ds more = (whole negative ds).map (·, more) := by
  cases more with
  | nil => rfl
  | cons b tail => simp [afterDigits, h b tail rfl]

theorem afterDigits_front {ds : Bytes} (h : afterDigits negative ds bytes = .ok (n, rest)) :
    ∃ used, bytes = used ++ rest ∧
      ∀ more, EndsNumber more → afterDigits negative ds (used ++ more) = .ok (n, more) := by
  have hends (hx : ∀ more : Bytes, (whole negative ds).map (·, more) = .ok (n, more)) :
      ∀ more, EndsNumber more → afterDigits negative ds ([] ++ more) = .ok (n, more) :=
    fun more hmore => (afterDigits_ends hmore).trans (hx more)
  cases bytes with
  | nil =>
    obtain ⟨rfl, hx⟩ := ends_of_map_eq_ok h
    exact ⟨[], rfl, hends hx⟩
  | cons b tail =>
    rw [afterDigits] at h
    split_ifs at h with hpoint he
    · obtain ⟨used, rfl, hused⟩ := fractionPart_front h
      refine ⟨b :: used, rfl, fun more hmore => ?_⟩
      rw [List.cons_append, afterDigits, if_pos hpoint, hused more hmore]
    · obtain ⟨used, rfl, hused⟩ := exponentPart_front h
      refine ⟨b :: used, rfl, fun more hmore => ?_⟩
      rw [List.cons_append, afterDigits, if_neg hpoint, if_pos he, hused more hmore]
    · obtain ⟨rfl, hx⟩ := ends_of_map_eq_ok h
      exact ⟨[], rfl, hends hx⟩

theorem number_front (h : number negative bytes = .ok (n, rest)) :
    ∃ used, bytes = used ++ rest ∧ used ≠ [] ∧
    ∀ more, EndsNumber more → number negative (used ++ more) = .ok (n, more) := by
  obtain ⟨ds, after, rfl, hds, hafter⟩ := exists_digits bytes
  cases ds with
  | nil =>
    cases after with
    | nil => cases h
    | cons b more => simp [number, hafter b more rfl] at h
  | cons d ds =>
    rw [number_append hds hafter] at h
    split at h
    · cases h
    · next hzero =>
      obtain ⟨used, rfl, hused⟩ := afterDigits_front h
      refine ⟨d :: ds ++ used, (List.append_assoc ..).symm, List.cons_ne_nil _ _,
        fun more hmore => ?_⟩
      rw [List.append_assoc, number_append hds (hafter.exchange hmore), if_neg hzero,
        hused more hmore]

/-! ## Items and members -/

/-- The next token is a closing bracket. -/
def Closes (bracket : Char) (bytes : Bytes) : Prop :=
  ∃ rest, skipBlanks bytes = byte bracket :: rest

/-- Where the next item begins does not depend on what follows its first byte. -/
theorem nextItem_front {first : Bool} {at_ : Bytes} (h : nextItem first bytes = .ok (some at_)) :
    ∃ front b tail, bytes = front ++ at_ ∧ at_ = b :: tail ∧
      ∀ more, nextItem first (front ++ b :: more) = .ok (some (b :: more)) := by
  rw [nextItem] at h
  split at h
  · cases h
  · next b tail hblanks =>
    obtain ⟨blanks, rfl, hskip⟩ := skipBlanks_eq_cons hblanks
    split_ifs at h with hclose hfirst hcomma
    · cases h
    · obtain rfl := Option.some.inj (Except.ok.inj h)
      refine ⟨blanks, b, tail, rfl, rfl, fun more => ?_⟩
      simp only [nextItem, hskip, if_neg hclose, if_pos hfirst]
    · split at h
      · cases h
      · next c tail' hblanks' =>
        obtain ⟨blanks', rfl, hskip'⟩ := skipBlanks_eq_cons hblanks'
        split_ifs at h with hclose'
        obtain rfl := Option.some.inj (Except.ok.inj h)
        refine ⟨blanks ++ b :: blanks', c, tail', by simp, rfl, fun more => ?_⟩
        rw [List.append_assoc, List.cons_append]
        simp only [nextItem, hskip, hskip', if_neg hclose, if_neg hfirst, if_pos hcomma,
          if_neg hclose']

theorem nextItem_none {first : Bool} : nextItem first bytes = .ok none ↔ Closes ']' bytes := by
  constructor
  · intro h
    rw [nextItem] at h
    split at h
    · cases h
    · next b tail hblanks =>
      by_cases hclose : b = byte ']'
      · exact ⟨tail, hclose ▸ hblanks⟩
      · rw [if_neg hclose] at h
        split_ifs at h
        · cases h
        · split at h
          · cases h
          · split_ifs at h
            cases h
  · rintro ⟨tail, hclose⟩
    rw [nextItem, hclose]
    rfl

/-- After an item stands nothing that goes on with a number. -/
theorem endsNumber_of_nextItem {next : Option Bytes} (h : nextItem false bytes = .ok next) :
    EndsNumber bytes := by
  rw [nextItem] at h
  split at h
  · cases h
  · next b tail hblanks =>
    simp only [Bool.false_eq_true, if_false] at h
    refine endsNumber_of_skipBlanks hblanks ?_
    split_ifs at h with hclose hcomma
    · exact hclose ▸ (by decide)
    · exact hcomma ▸ (by decide)

theorem closeList_front (h : closeList bytes = .ok rest) : skipBlanks bytes = byte ']' :: rest := by
  rw [closeList] at h
  split at h
  · cases h
  · next b tail hblanks =>
    split_ifs at h with hclose
    · rw [hblanks, hclose, Except.ok.inj h]
    · split at h
      · split_ifs at h
      · cases h

theorem closeList_of_skipBlanks (h : skipBlanks bytes = byte ']' :: rest) :
    closeList bytes = .ok rest := by
  rw [closeList, h]
  rfl

/-- Where the next key begins does not depend on what follows its opening quote. -/
theorem nextKey_front {first : Bool} {at_ : Bytes} (h : nextKey first bytes = .ok (some at_)) :
    ∃ front, bytes = front ++ at_ ∧ ∀ more, nextKey first (front ++ more) = .ok (some more) := by
  rw [nextKey] at h
  split at h
  · cases h
  · next b tail hblanks =>
    obtain ⟨blanks, rfl, hskip⟩ := skipBlanks_eq_cons hblanks
    split_ifs at h with hclose hfirst hquote hcomma
    · cases h
    · obtain rfl := Option.some.inj (Except.ok.inj h)
      refine ⟨blanks ++ [b], by simp, fun more => ?_⟩
      rw [List.append_assoc, List.singleton_append]
      simp only [nextKey, hskip, if_neg hclose, if_pos hfirst, if_pos hquote]
    · split at h
      · cases h
      · next c tail' hblanks' =>
        obtain ⟨blanks', rfl, hskip'⟩ := skipBlanks_eq_cons hblanks'
        split_ifs at h with hquote
        obtain rfl := Option.some.inj (Except.ok.inj h)
        refine ⟨blanks ++ b :: (blanks' ++ [c]), by simp, fun more => ?_⟩
        rw [List.append_assoc, List.cons_append, List.append_assoc, List.singleton_append]
        simp only [nextKey, hskip, hskip', if_neg hclose, if_neg hfirst, if_pos hcomma,
          if_pos hquote]

theorem nextKey_none {first : Bool} : nextKey first bytes = .ok none ↔ Closes '\x7d' bytes := by
  constructor
  · intro h
    rw [nextKey] at h
    split at h
    · cases h
    · next b tail hblanks =>
      by_cases hclose : b = byte '\x7d'
      · exact ⟨tail, hclose ▸ hblanks⟩
      · rw [if_neg hclose] at h
        split_ifs at h
        · cases h
        · split at h
          · cases h
          · split_ifs at h
            cases h
  · rintro ⟨tail, hclose⟩
    rw [nextKey, hclose]
    rfl

/-- After a member stands nothing that goes on with a number. -/
theorem endsNumber_of_nextKey {next : Option Bytes} (h : nextKey false bytes = .ok next) :
    EndsNumber bytes := by
  rw [nextKey] at h
  split at h
  · cases h
  · next b tail hblanks =>
    simp only [Bool.false_eq_true, if_false] at h
    refine endsNumber_of_skipBlanks hblanks ?_
    split_ifs at h with hclose hcomma
    · exact hclose ▸ (by decide)
    · exact hcomma ▸ (by decide)

theorem colon_front (h : colon bytes = .ok rest) :
    ∃ front, bytes = front ++ rest ∧ ∀ more, colon (front ++ more) = .ok more := by
  rw [colon] at h
  split at h
  · cases h
  · next b tail hblanks =>
    obtain ⟨blanks, rfl, hskip⟩ := skipBlanks_eq_cons hblanks
    split_ifs at h with hcolon
    obtain rfl := Except.ok.inj h
    refine ⟨blanks ++ [b], by simp, fun more => ?_⟩
    rw [List.append_assoc, List.singleton_append, colon, hskip]
    exact if_pos hcolon

end Courier.Json.Reader
