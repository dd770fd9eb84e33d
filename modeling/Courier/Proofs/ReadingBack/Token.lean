import Courier.Json.Printer
import Courier.Json.Reader
import Courier.Proofs.ReadingBack.Utf8
/-
The strings and integers of a JSON text are read back as they were written
(`Reader.string_ofChars`, `Reader.number_decimal`). A string may be followed by
anything. An integer ends where something stands that does not belong to a
number (`Reader.EndsNumber`), which no token after a value does.
-/
namespace Courier.Json.Reader

open Utf8 (ofChars)

/-! ## Strings -/

/-- A byte that stands for itself in a string. -/
def IsPlain (b : UInt8) : Prop := b ≠ 0x22 ∧ b ≠ 0x5C ∧ 0x20 ≤ b.toNat

theorem stringFrom_plain {b : UInt8} (h : IsPlain b) (done rest : Bytes) :
    stringFrom .plain done (b :: rest) = stringFrom .plain (b :: done) rest := by
  obtain ⟨hquote, hbackslash, hcontrol⟩ := h
  have hlt : ¬ b < 0x20 := by
    rw [UInt8.lt_iff_toNat_lt]
    exact Nat.not_lt_of_le hcontrol
  have hquote' : b ≠ byte '\x22' := hquote
  have hbackslash' : b ≠ byte '\\' := hbackslash
  rw [stringFrom, if_neg hquote', if_neg hbackslash', if_neg hlt]

theorem stringFrom_plains {bytes : Bytes} (h : ∀ b ∈ bytes, IsPlain b) (done rest : Bytes) :
    stringFrom .plain done (bytes ++ rest) = stringFrom .plain (bytes.reverse ++ done) rest := by
  induction bytes generalizing done with
  | nil => rfl
  | cons b bytes ih =>
    rw [List.cons_append, stringFrom_plain (h b List.mem_cons_self),
      ih fun b' hb' => h b' (List.mem_cons_of_mem b hb'), List.reverse_cons, List.append_assoc]
    rfl

/-- The bytes of a character that needs no escape stand for themselves. -/
theorem isPlain_of_mem {c : Char} (hquote : c ≠ '\x22') (hbackslash : c ≠ '\\')
    (hcontrol : 32 ≤ c.toNat) {b : UInt8} (hb : b ∈ String.utf8EncodeChar c) : IsPlain b := by
  by_cases hascii : c.toNat < 0x80
  · rw [Utf8.utf8EncodeChar_of_lt hascii, List.mem_singleton] at hb
    have hnum : b.toNat = c.toNat := by rw [hb, Utf8.toNat_ofNat_of_lt (by omega)]
    have hne (d : Char) (hd : c ≠ d) : b.toNat ≠ d.toNat := by
      rw [hnum]
      exact fun heq => hd (Char.toNat_inj.mp heq)
    exact ⟨fun heq => hne '\x22' hquote (by rw [heq]; rfl),
      fun heq => hne '\\' hbackslash (by rw [heq]; rfl), by omega⟩
  · have hle := Utf8.le_of_mem_utf8EncodeChar (Nat.le_of_not_lt hascii) hb
    refine ⟨?_, ?_, by omega⟩ <;> rintro rfl <;> simp at hle

/-- The number that the four digits of the escape of a control character write. -/
theorem hexNumber?_control :
    ∀ n < 32, hexNumber? [0x30, 0x30, UInt8.ofNat (Ascii.hexLower (n / 16)).toNat,
    UInt8.ofNat (Ascii.hexLower (n % 16)).toNat] = some n := by decide

theorem utf8EncodeChar_hexLower : ∀ n < 16,
    String.utf8EncodeChar (Ascii.hexLower n) = [UInt8.ofNat (Ascii.hexLower n).toNat] := by decide

/-- The last digit of a number that is no half of a surrogate pair. -/
theorem stringFrom_hex {front : Bytes} {b : UInt8} {n : Nat} (hfront : front.length = 3)
    (hnumber : hexNumber? (front ++ [b]) = some n) (hn : n < 0xD800) (done rest : Bytes) :
    stringFrom (.hex front none) done (b :: rest) =
      stringFrom .plain (reversedChar n ++ done) rest := by
  have hlone : (0xDC00 ≤ n && n ≤ 0xDFFF) = false := by simp; omega
  have hfirst : (0xD800 ≤ n && n ≤ 0xDBFF) = false := by simp; omega
  have hlength : ¬ front.length < 3 := by omega
  rw [stringFrom.eq_def]
  simp only [hlength, if_false, hnumber, hlone, hfirst, Bool.false_eq_true]

/-- A control character that is written by its number. -/
theorem stringFrom_control {c : Char} (h : c.toNat < 32) (done rest : Bytes) :
    stringFrom .plain done (ofChars ['\\', 'u', '0', '0', Ascii.hexLower (c.toNat / 16),
      Ascii.hexLower (c.toNat % 16)] ++ rest) =
        stringFrom .plain ((String.utf8EncodeChar c).reverse ++ done) rest := by
  have hhigh := utf8EncodeChar_hexLower (c.toNat / 16) (by omega)
  have hlow := utf8EncodeChar_hexLower (c.toNat % 16) (by omega)
  have hnumber := hexNumber?_control c.toNat h
  have hchar : reversedChar c.toNat = (String.utf8EncodeChar c).reverse := by
    rw [reversedChar, Char.ofNat_toNat]
  have hbytes : ofChars ['\\', 'u', '0', '0', Ascii.hexLower (c.toNat / 16),
      Ascii.hexLower (c.toNat % 16)] =
      [0x5C, 0x75, 0x30, 0x30, UInt8.ofNat (Ascii.hexLower (c.toNat / 16)).toNat,
        UInt8.ofNat (Ascii.hexLower (c.toNat % 16)).toNat] := by
    simp only [Utf8.ofChars_cons, Utf8.ofChars_nil, hhigh, hlow]
    rfl
  rw [hbytes]
  -- The first five bytes only take the reader to the last digit.
  show stringFrom (.hex [0x30, 0x30, UInt8.ofNat (Ascii.hexLower (c.toNat / 16)).toNat] none) done
    (UInt8.ofNat (Ascii.hexLower (c.toNat % 16)).toNat :: rest) = _
  rw [stringFrom_hex rfl hnumber (by omega), hchar]

/-- A character of a string is read as it was written. -/
theorem stringFrom_escape (c : Char) (done rest : Bytes) :
    stringFrom .plain done (ofChars (escape c) ++ rest) =
    stringFrom .plain ((String.utf8EncodeChar c).reverse ++ done) rest := by
  unfold escape
  split
  · next h => subst h; rfl
  split
  · next h => subst h; rfl
  split
  · next h => subst h; rfl
  split
  · next h => subst h; rfl
  split
  · next h => subst h; rfl
  split
  · next h => subst h; rfl
  split
  · next h => subst h; rfl
  split
  · next h => exact stringFrom_control h done rest
  · next hquote hbackslash _ _ _ _ _ hcontrol =>
    rw [Utf8.ofChars_cons, Utf8.ofChars_nil, List.append_nil]
    exact stringFrom_plains (fun b => isPlain_of_mem hquote hbackslash (Nat.le_of_not_lt hcontrol))
      done rest

/-- A string is read as it was written, up to its closing quote. -/
theorem string_ofChars (s : String) (rest : Bytes) :
    string (ofChars (s.toList.flatMap escape) ++ 0x22 :: rest) = .ok (s, rest) := by
  have hchars (cs : List Char) (done tail : Bytes) :
      stringFrom .plain done (ofChars (cs.flatMap escape) ++ tail) =
      stringFrom .plain ((ofChars cs).reverse ++ done) tail := by
    induction cs generalizing done with
    | nil => rfl
    | cons c cs ih =>
      rw [List.flatMap_cons, Utf8.ofChars_append, List.append_assoc, stringFrom_escape, ih,
        Utf8.ofChars_cons, List.reverse_append, List.append_assoc]
  have hdecode : Utf8.decode? ((ofChars s.toList).reverse ++ []).reverse = some s := by
    rw [List.append_nil, List.reverse_reverse]
    exact Utf8.decode?_encode s
  have hquote : (0x22 : UInt8) = byte '\x22' := rfl
  rw [string, hchars, stringFrom, if_pos hquote, hdecode]

/-! ## Integers -/

/-- What stands here does not go on with a number. -/
def EndsNumber (rest : Bytes) : Prop :=
  ∀ b more, rest = b :: more → isDigit b = false ∧ b ≠ byte '.' ∧ b ≠ byte 'e' ∧ b ≠ byte 'E'

theorem EndsNumber.nil : EndsNumber [] := fun _ _ h => nomatch h

/-- The bytes of the decimal digits of a number. -/
def digits (n : Nat) : Bytes := ofChars (Ascii.decimal n)

theorem digits_of_lt {n : Nat} (h : n < 10) : digits n = [UInt8.ofNat (n + 48)] := by
  have hall : ∀ n < 10, ofChars [Nat.digitChar n] = [UInt8.ofNat (n + 48)] := by decide
  rw [digits, Ascii.decimal, Nat.toDigits_of_lt_base h, hall n h]

theorem digits_of_le {n : Nat} (h : 10 ≤ n) : digits n = digits (n / 10) ++ digits (n % 10) := by
  have hlast : Nat.toDigits 10 (n % 10) = [Nat.digitChar (n % 10)] :=
    Nat.toDigits_of_lt_base (Nat.mod_lt n (by decide))
  rw [digits, Ascii.decimal, Nat.toDigits_of_base_le (by decide) h, Utf8.ofChars_append, ← hlast]
  rfl

theorem digits_ne_nil (n : Nat) : digits n ≠ [] := by
  by_cases h : n < 10
  · rw [digits_of_lt h]
    exact List.cons_ne_nil _ _
  · rw [digits_of_le (Nat.le_of_not_lt h), digits_of_lt (Nat.mod_lt n (by decide))]
    exact List.concat_ne_nil _ _

theorem isDigit_of_mem_digits {n : Nat} : ∀ b ∈ digits n, isDigit b = true := by
  induction n using Nat.strongRecOn with
  | _ n ih =>
    have hone : ∀ m < 10, isDigit (UInt8.ofNat (m + 48)) = true := by decide
    by_cases h : n < 10
    · rw [digits_of_lt h]
      intro b hb
      rw [List.mem_singleton.mp hb]
      exact hone n h
    · rw [digits_of_le (Nat.le_of_not_lt h), digits_of_lt (Nat.mod_lt n (by decide))]
      intro b hb
      rcases List.mem_append.mp hb with hb | hb
      · exact ih (n / 10) (Nat.div_lt_self (by omega) (by decide)) b hb
      · rw [List.mem_singleton.mp hb]
        exact hone (n % 10) (Nat.mod_lt n (by decide))

/-- No number but zero begins with a zero. -/
theorem head?_digits {n : Nat} (h : 0 < n) : (digits n).head? ≠ some (byte '0') := by
  induction n using Nat.strongRecOn with
  | _ n ih =>
    have hone : ∀ m < 10, 0 < m → UInt8.ofNat (m + 48) ≠ byte '0' := by decide
    by_cases hn : n < 10
    · rw [digits_of_lt hn]
      exact fun heq => hone n hn h (Option.some.inj heq)
    · obtain ⟨d, more, hdigits⟩ := List.exists_cons_of_ne_nil (digits_ne_nil (n / 10))
      have hfirst := ih (n / 10) (Nat.div_lt_self h (by decide)) (by omega)
      rw [hdigits] at hfirst
      rwa [digits_of_le (Nat.le_of_not_lt hn), hdigits]

theorem digitsValue_digits (n : Nat) : digitsValue (digits n) = n := by
  induction n using Nat.strongRecOn with
  | _ n ih =>
    have hone : ∀ m < 10, (UInt8.ofNat (m + 48)).toNat - 48 = m := by decide
    by_cases h : n < 10
    · rw [digits_of_lt h]
      exact (Nat.zero_add _).trans (hone n h)
    · have hlast : n % 10 < 10 := Nat.mod_lt n (by decide)
      have hfront : digitsValue (digits (n / 10)) = n / 10 :=
        ih (n / 10) (Nat.div_lt_self (by omega) (by decide))
      rw [digits_of_le (Nat.le_of_not_lt h), digits_of_lt hlast, digitsValue, List.foldl_append]
      show digitsValue (digits (n / 10)) * 10 + ((UInt8.ofNat (n % 10 + 48)).toNat - 48) = n
      rw [hfront, hone _ hlast]
      omega

theorem le_foldl_digits (k : Nat) (ds : Bytes) :
    k ≤ ds.foldl (fun n d => n * 10 + (d.toNat - 48)) k := by
  induction ds generalizing k with
  | nil => exact Nat.le_refl k
  | cons d ds ih =>
    have hstep : k ≤ k * 10 + (d.toNat - 48) := by omega
    exact Nat.le_trans hstep (ih _)

/-- Digits whose number stays below 2^64 are all read. -/
theorem fitting_of_lt {k : Nat} {ds : Bytes}
    (h : ds.foldl (fun n d => n * 10 + (d.toNat - 48)) k < UInt64.size) :
    fitting k ds = (ds.foldl (fun n d => n * 10 + (d.toNat - 48)) k, []) := by
  induction ds generalizing k with
  | nil => rfl
  | cons d ds ih =>
    have hnext : k * 10 + (d.toNat - 48) < UInt64.size :=
      Nat.lt_of_le_of_lt (le_foldl_digits _ ds) h
    simp only [fitting, hnext, if_true, List.foldl_cons]
    exact ih h

/-- What stands here is no digit. -/
def EndsDigits (rest : Bytes) : Prop := ∀ b more, rest = b :: more → isDigit b = false

theorem EndsNumber.endsDigits {rest : Bytes} (h : EndsNumber rest) : EndsDigits rest :=
  fun b more heq => (h b more heq).1

/-- A run of digits in front of what is no digit. -/
theorem takeWhile_isDigit {ds rest : Bytes} (hds : ∀ d ∈ ds, isDigit d = true)
    (hrest : EndsDigits rest) :
    (ds ++ rest).takeWhile isDigit = ds ∧ (ds ++ rest).dropWhile isDigit = rest := by
  rw [List.takeWhile_append_of_pos hds, List.dropWhile_append_of_pos hds]
  cases rest with
  | nil => simp
  | cons b more => simp [hrest b more rfl]

/-- An integer of 64 bits is read from its decimal digits. -/
theorem number_digits {negative : Bool} {n : Nat} {rest : Bytes} (hn : n < UInt64.size)
    (hrest : EndsNumber rest) :
    number negative (digits n ++ rest) = (integer negative n).map (·, rest) := by
  obtain ⟨htake, hdrop⟩ := takeWhile_isDigit (isDigit_of_mem_digits (n := n)) hrest.endsDigits
  have hvalue : (digits n).foldl (fun n d => n * 10 + (d.toNat - 48)) 0 = n := digitsValue_digits n
  have hfitting : fitting 0 (digits n) = (n, []) := by
    rw [fitting_of_lt (hvalue.symm ▸ hn), hvalue]
  obtain ⟨d, more, hdigits⟩ := List.exists_cons_of_ne_nil (digits_ne_nil n)
  have hzero : (d = byte '0' && !more.isEmpty) = false := by
    cases hmore : more.isEmpty with
    | true => simp
    | false =>
      have hpos : 0 < n := by
        rcases Nat.eq_zero_or_pos n with rfl | hpos
        · rw [digits_of_lt (by decide)] at hdigits
          rw [← (List.cons.inj hdigits).2] at hmore
          exact absurd hmore (by decide)
        · exact hpos
      have hne : d ≠ byte '0' := fun heq => head?_digits hpos (by rw [hdigits, heq]; rfl)
      simp [hne]
  rw [number, htake, hdrop, hdigits]
  simp only [hzero, Bool.false_eq_true, if_false]
  rw [← hdigits, hfitting]
  cases rest with
  | nil => rfl
  | cons b after =>
    obtain ⟨-, hpoint, hlower, hupper⟩ := hrest b after rfl
    simp [hpoint, hlower, hupper]

end Courier.Json.Reader
