import Courier.Proofs.ReadingBack.Form
import Courier.Proofs.Trailing
import Courier.Response
import Mathlib.Data.List.Induction
/-
Dot paths. A path is its segments between the dots, empty ones left out, so
dots at the ends or next to each other mean nothing (`Json.dotted_dots`) and a
path that is put together from two is looked up one after the other
(`Json.at?_dot`).

What a path finds in a document is reached there step by step, through the keys
of its objects and the positions of its lists (`Json.Reaches`), each of them
spelled by a segment, and nothing else is found (`Json.at?_eq_some`). A position
may be spelled with a plus and zeros in front. Nothing is reached through a text,
a number, a boolean or null. In what is read from a body no key comes twice and
no list has more items than the body has bytes (`Json.Sound`), so all that can be
reached is found again (`Response.jsonAt?_finds`).
-/
namespace Courier

/-! ## Decimal digits -/

namespace Ascii

theorem isDigit_iff {c : Char} : isDigit c = true ↔ ∃ d < 10, c = Nat.digitChar d := by
  constructor
  · intro h
    have hdigits :
    ∀ n < 58, isDigit (Char.ofNat n) = true → ∃ d < 10, Char.ofNat n = Nat.digitChar d := by decide
    have hlt : c.toNat < 58 := by
      have hnine : c ≤ '9' := by
        rw [isDigit, Bool.and_eq_true, decide_eq_true_eq, decide_eq_true_eq] at h
        exact h.2
      exact Nat.lt_succ_of_le hnine
    have hchar := hdigits c.toNat hlt
    rw [Char.ofNat_toNat] at hchar
    exact hchar h
  · rintro ⟨d, hd, rfl⟩
    have hdigits : ∀ d < 10, isDigit (Nat.digitChar d) = true := by decide
    exact hdigits d hd

theorem ofDecimal_concat (digits : List Char) {d : Nat} (hd : d < 10) :
    ofDecimal (digits ++ [Nat.digitChar d]) = ofDecimal digits * 10 + d := by
  have hvalue : ∀ d < 10, (Nat.digitChar d).toNat - 48 = d := by decide
  rw [ofDecimal, List.foldl_append, List.foldl_cons, List.foldl_nil, hvalue d hd]
  rfl

theorem decimal_of_lt {d : Nat} (hd : d < 10) : decimal d = [Nat.digitChar d] :=
  Nat.toDigits_of_lt_base hd

/-- The last digit of a number of several is what a division by ten leaves over. -/
theorem decimal_concat {n d : Nat} (hn : 0 < n) (hd : d < 10) :
    decimal (n * 10 + d) = decimal n ++ [Nat.digitChar d] := by
  have hle : 10 ≤ n * 10 + d := by omega
  have hfront : (n * 10 + d) / 10 = n := by omega
  have hlast : (n * 10 + d) % 10 = d := by omega
  rw [decimal, Nat.toDigits_of_base_le (by decide) hle, hfront, hlast]
  rfl

/-- Digits are the decimal digits of the number they write, with zeros in front. -/
theorem digits_eq_decimal {digits : List Char} (hne : digits ≠ [])
    (hdigits : ∀ c ∈ digits, isDigit c = true) :
    ∃ zeros, digits = List.replicate zeros '0' ++ decimal (ofDecimal digits) := by
  induction digits using List.reverseRecOn with
  | nil => exact absurd rfl hne
  | append_singleton front c ih =>
    obtain ⟨d, hd, rfl⟩ := isDigit_iff.mp (hdigits c (by simp))
    rw [ofDecimal_concat front hd]
    by_cases hfront : front = []
    · subst hfront
      refine ⟨0, ?_⟩
      rw [show ofDecimal [] = 0 from rfl, Nat.zero_mul, Nat.zero_add, decimal_of_lt hd]
      rfl
    · obtain ⟨zeros, hzeros⟩ := ih hfront fun c hc => hdigits c (List.mem_append_left _ hc)
      rcases Nat.eq_zero_or_pos (ofDecimal front) with hzero | hpos
      · refine ⟨zeros + 1, ?_⟩
        rw [hzero] at hzeros ⊢
        rw [Nat.zero_mul, Nat.zero_add, decimal_of_lt hd, List.replicate_succ']
        exact congrArg (· ++ [Nat.digitChar d]) hzeros
      · refine ⟨zeros, ?_⟩
        rw [decimal_concat hpos hd, ← List.append_assoc, ← hzeros]

theorem isDigit_of_mem_decimal {n : Nat} : ∀ c ∈ decimal n, isDigit c = true := by
  induction n using Nat.strongRecOn with
  | _ n ih =>
    by_cases h : n < 10
    · rw [decimal_of_lt h]
      exact fun c hc => isDigit_iff.mpr ⟨n, h, List.mem_singleton.mp hc⟩
    · have hn : n = n / 10 * 10 + n % 10 := by omega
      rw [hn, decimal_concat (by omega) (Nat.mod_lt n (by decide))]
      intro c hc
      rcases List.mem_append.mp hc with hc | hc
      · exact ih (n / 10) (by omega) c hc
      · exact isDigit_iff.mpr ⟨n % 10, Nat.mod_lt n (by decide), List.mem_singleton.mp hc⟩

theorem ofDecimal_decimal (n : Nat) : ofDecimal (decimal n) = n := by
  induction n using Nat.strongRecOn with
  | _ n ih =>
    by_cases h : n < 10
    · rw [decimal_of_lt h]
      exact (ofDecimal_concat [] h).trans (Nat.zero_add n)
    · have hn : n = n / 10 * 10 + n % 10 := by omega
      have hlast : n % 10 < 10 := Nat.mod_lt n (by decide)
      rw [hn, decimal_concat (by omega) hlast, ofDecimal_concat _ hlast, ih (n / 10) (by omega)]

theorem ofDecimal_zeros (zeros : Nat) (digits : List Char) :
    ofDecimal (List.replicate zeros '0' ++ digits) = ofDecimal digits := by
  induction zeros with
  | zero => rfl
  | succ zeros ih => exact ih

theorem decimal_ne_nil (n : Nat) : decimal n ≠ [] := Nat.toDigits_ne_nil

end Ascii

namespace Json

open Ascii (decimal isDigit ofDecimal)

/-! ## Positions -/

/-- A segment spells a position with its decimal digits, which may have zeros and a plus in
front. -/
def SpellsIndex (i : Nat) (segment : List Char) : Prop :=
  i < UInt64.size ∧ ∃ plus zeros, (plus = [] ∨ plus = ['+']) ∧
    segment = plus ++ (List.replicate zeros '0' ++ decimal i)

theorem isDigit_of_mem_zeros {zeros i : Nat} :
    ∀ c ∈ List.replicate zeros '0' ++ decimal i, isDigit c = true := by
  intro c hc
  rcases List.mem_append.mp hc with hc | hc
  · rw [List.eq_of_mem_replicate hc]
    rfl
  · exact Ascii.isDigit_of_mem_decimal c hc

/-- Digits without a sign. -/
theorem digits_eq_some {digits : List Char} {i : Nat} :
    (if digits.isEmpty || !digits.all isDigit then none
      else if ofDecimal digits < UInt64.size then some (ofDecimal digits) else none) = some i ↔
    i < UInt64.size ∧ ∃ zeros, digits = List.replicate zeros '0' ++ decimal i := by
  simp only [Option.ite_none_left_eq_some, Option.ite_none_right_eq_some, Option.some.injEq,
    Bool.or_eq_true, not_or, List.isEmpty_iff, Bool.not_eq_true', Bool.not_eq_false,
    List.all_eq_true]
  constructor
  · rintro ⟨⟨hne, hdigits⟩, hlt, rfl⟩
    exact ⟨hlt, Ascii.digits_eq_decimal hne hdigits⟩
  · rintro ⟨hlt, zeros, rfl⟩
    have hvalue : ofDecimal (List.replicate zeros '0' ++ decimal i) = i := by
      rw [Ascii.ofDecimal_zeros, Ascii.ofDecimal_decimal]
    rw [hvalue]
    refine ⟨⟨?_, isDigit_of_mem_zeros⟩, hlt, rfl⟩
    simp [Ascii.decimal_ne_nil]

theorem position?_eq_some {segment : List Char} {i : Nat} :
    position? segment = some i ↔ SpellsIndex i segment := by
  have hplus : isDigit '+' = false := by decide
  unfold position? SpellsIndex
  split
  · next rest =>
    rw [digits_eq_some]
    refine and_congr_right fun _ => ⟨fun ⟨zeros, h⟩ => ⟨['+'], zeros, .inr rfl, congrArg _ h⟩, ?_⟩
    rintro ⟨plus, zeros, rfl | rfl, h⟩
    · have hdigit := isDigit_of_mem_zeros '+' (h ▸ List.mem_cons_self)
      rw [hplus] at hdigit
      cases hdigit
    · exact ⟨zeros, List.cons.inj h |>.2⟩
  · next hother =>
    rw [digits_eq_some]
    refine and_congr_right fun _ => ⟨fun ⟨zeros, h⟩ => ⟨[], zeros, .inl rfl, h⟩, ?_⟩
    rintro ⟨plus, zeros, rfl | rfl, h⟩
    · exact ⟨zeros, h⟩
    · exact absurd h (hother _)

/-! ## Segments -/

/-- The segments of a path that mean something. -/
def pieces (path : String) : List (List Char) :=
  (Split.segments '.' path.toList).filter (!·.isEmpty)

/-- So many dots. -/
def dots (n : Nat) : String := String.ofList (List.replicate n '.')

theorem pieces_dot (p q : String) : pieces (p ++ "." ++ q) = pieces p ++ pieces q := by
  have hlist : (p ++ "." ++ q).toList = p.toList ++ '.' :: q.toList := by simp
  rw [pieces, hlist, Split.segments_append, List.filter_append]
  rfl

theorem dots_succ (n : Nat) : dots (n + 1) = "." ++ dots n := by
  rw [dots, List.replicate_succ, ← List.singleton_append, String.ofList_append]
  rfl

theorem pieces_dots_append (n : Nat) (p : String) : pieces (dots n ++ p) = pieces p := by
  induction n with
  | zero => simp [dots]
  | succ n ih =>
    have hfront : dots (n + 1) ++ p = "" ++ "." ++ (dots n ++ p) := by
      simp [dots_succ, String.append_assoc]
    rw [hfront, pieces_dot, ih]
    rfl

/-- Dots next to each other part a path as one does. -/
theorem pieces_dots_between (p : String) (n : Nat) (q : String) :
    pieces (p ++ dots (n + 1) ++ q) = pieces p ++ pieces q := by
  have hbetween : p ++ dots (n + 1) ++ q = p ++ "." ++ (dots n ++ q) := by
    simp [dots_succ, String.append_assoc]
  rw [hbetween, pieces_dot, pieces_dots_append]

theorem pieces_append_dots (p : String) (n : Nat) : pieces (p ++ dots n) = pieces p := by
  cases n with
  | zero => simp [dots]
  | succ n =>
    have hback := pieces_dots_between p n ""
    rwa [String.append_empty, show pieces "" = [] from rfl, List.append_nil] at hback

/-- Only a path of nothing but dots means nothing. -/
theorem pieces_eq_nil {path : String} (h : pieces path = []) : ∀ c ∈ path.toList, c = '.' := by
  have hempty : ∀ piece ∈ Split.segments '.' path.toList, piece = [] := by simpa [pieces] using h
  rw [← Split.join_segments '.' path.toList]
  generalize Split.segments '.' path.toList = segments at hempty
  induction segments with
  | nil => simp [Split.join]
  | cons segment segments ih =>
    obtain ⟨rfl, hrest⟩ := List.forall_mem_cons.mp hempty
    cases segments with
    | nil => simp [Split.join]
    | cons next more => simpa [Split.join] using ih hrest

/-! ## Lookups -/

variable {v w u : Json} {n : Nat}

theorem at?_eq_foldlM (path : String) (v : Json) :
    at? path v = (pieces path).foldlM (fun v s => step? s v) v := rfl

theorem at?_congr {p q : String} (h : pieces p = pieces q) (v : Json) : at? p v = at? q v := by
  rw [at?_eq_foldlM, at?_eq_foldlM, h]

/-- Two paths with a dot between them are looked up one after the other. -/
theorem at?_dot (p q : String) (v : Json) : at? (p ++ "." ++ q) v = (at? p v).bind (at? q) := by
  rw [at?_eq_foldlM, pieces_dot, List.foldlM_append]
  rfl

/-- A value is a member of an object under this key, or an item of a list at this position. -/
inductive Holds : Json → Step → Json → Prop
  | key {entries : List (String × Json)} {name : String} {v : Json} (h : (name, v) ∈ entries) :
    Holds (.object entries) (.key name) v
  | index {items : List Json} {i : Nat} {v : Json} (h : items[i]? = some v) :
      Holds (.array items) (.index i) v

/-- A value is reached from another by these steps. -/
inductive Reaches : Json → List Step → Json → Prop
  | here (v : Json) : Reaches v [] v
  | step {v w u : Json} {step : Step} {steps : List Step} (hfirst : Holds v step w)
      (hrest : Reaches w steps u) :
    Reaches v (step :: steps) u

/-- A segment is a key as it is, or a position in one of its spellings. -/
def Spells : Step → List Char → Prop
  | .key name, segment => segment = name.toList
  | .index i, segment => SpellsIndex i segment
  | .unreadKey, _ => False

/-- Keys are in order, and there are not so many items. -/
def Neat (n : Nat) : Json → Prop
  | .array items => items.length ≤ n
  | .object entries => Entries.Sorted entries
  | _ => True

/-- All that is reached is neat. -/
def Sound (n : Nat) (v : Json) : Prop := ∀ steps w, Reaches v steps w → Neat n w

theorem Sound.holds (hv : Sound n v) {step : Step} (h : Holds v step w) : Sound n w :=
  fun steps u hu => hv (step :: steps) u (.step h hu)

theorem Sound.neat (hv : Sound n v) : Neat n v := hv [] v (.here v)

/-- A lookup goes one step on where the segment spells a step of the document. -/
theorem step?_eq_some (hv : Neat n v) {segment : List Char} :
    step? segment v = some w ↔ ∃ step, Spells step segment ∧ Holds v step w := by
  constructor
  · intro h
    cases v with
    | object entries =>
      refine ⟨.key (String.ofList segment), String.toList_ofList.symm, .key (Entries.mem_of_get? h)⟩
    | array items =>
      obtain ⟨i, hi, hitem⟩ := Option.bind_eq_some_iff.mp h
      exact ⟨.index i, position?_eq_some.mp hi, .index hitem⟩
    | _ => cases h
  · rintro ⟨step, hspells, hholds⟩
    cases hholds with
    | key hmem =>
      rw [step?, show segment = _ from hspells, String.ofList_toList]
      exact Entries.get?_of_mem hv hmem
    | index hitem =>
      rw [step?, position?_eq_some.mpr hspells]
      exact hitem

/-- What a path finds is what is reached by steps that its segments spell. -/
theorem at?_eq_some (hv : Sound n v) {path : String} :
    at? path v = some w ↔ ∃ steps, Reaches v steps w ∧ List.Forall₂ Spells steps (pieces path) := by
  rw [at?_eq_foldlM]
  generalize pieces path = segments
  induction segments generalizing v with
  | nil =>
    constructor
    · rintro h
      cases h
      exact ⟨[], .here _, .nil⟩
    · rintro ⟨steps, hreaches, hspells⟩
      cases hspells
      cases hreaches
      rfl
  | cons segment segments ih =>
    rw [List.foldlM_cons, Option.bind_eq_bind, Option.bind_eq_some_iff]
    constructor
    · rintro ⟨u, hstep, hrest⟩
      obtain ⟨step, hspells, hholds⟩ := (step?_eq_some hv.neat).mp hstep
      obtain ⟨steps, hreaches, hsteps⟩ := (ih (hv.holds hholds)).mp hrest
      exact ⟨step :: steps, .step hholds hreaches, .cons hspells hsteps⟩
    · rintro ⟨steps, hreaches, hspells⟩
      cases hspells with
      | cons hspell hspells =>
        cases hreaches with
        | step hholds hreaches =>
          exact ⟨_, (step?_eq_some hv.neat).mpr ⟨_, hspell, hholds⟩,
            (ih (hv.holds hholds)).mpr ⟨_, hreaches, hspells⟩⟩

/-- A value with nothing in it: a text, a number, a boolean or null. -/
def Scalar : Json → Prop
  | .array _ => False
  | .object _ => False
  | _ => True

/-- A lookup does not go through a value with nothing in it. -/
theorem at?_scalar (hv : v.Scalar) {path : String} (hpath : ∃ c ∈ path.toList, c ≠ '.') :
    at? path v = none := by
  rw [at?_eq_foldlM]
  cases hpieces : pieces path with
  | nil =>
    obtain ⟨c, hc, hne⟩ := hpath
    exact absurd (pieces_eq_nil hpieces c hc) hne
  | cons segment segments =>
    cases v with
    | object entries => cases hv
    | array items => cases hv
    | _ => rfl

/-! ## What is read -/

theorem Sound.mono {m : Nat} (hv : Sound n v) (hle : n ≤ m) : Sound m v := by
  intro steps w hw
  have hneat := hv steps w hw
  cases w with
  | array items => exact Nat.le_trans hneat hle
  | object entries => exact hneat
  | _ => exact hneat

theorem sound_scalar (hv : v.Scalar) : Sound n v := by
  intro steps w hw
  cases hw with
  | here =>
    cases v with
    | array items => cases hv
    | object entries => cases hv
    | _ => trivial
  | step hfirst hrest =>
    cases hfirst <;> cases hv

theorem sound_array {items : List Json} (hlength : items.length ≤ n)
    (hitems : ∀ item ∈ items, Sound n item) :
    Sound n (.array items) := by
  intro steps w hw
  cases hw with
  | here => exact hlength
  | step hfirst hrest =>
    cases hfirst with
    | index hitem => exact hitems _ (List.mem_of_getElem? hitem) _ _ hrest

theorem sound_object {entries : List (String × Json)} (hsorted : Entries.Sorted entries)
    (hentries : ∀ entry ∈ entries, Sound n entry.2) : Sound n (.object entries) := by
  intro steps w hw
  cases hw with
  | here => exact hsorted
  | step hfirst hrest =>
    cases hfirst with
    | key hentry => exact hentries _ hentry _ _ hrest

namespace Shape

open Reader

variable {read : Read Json} {inner? : Option (Shape → Read Json)} {bytes rest : Bytes}

/-- What is read from so many bytes is sound for them. -/
def ReadsSound (read : Read Json) : Prop :=
  Local read ∧ ∀ bytes v rest, read bytes = .ok (v, rest) → Sound bytes.length v

/-- An item takes at least a byte. -/
theorem ReadsSound.items (hread : ReadsSound read) {fuel i : Nat} {items : List Json}
    (h : readItems read fuel i bytes = .ok (items, rest)) :
    items.length ≤ bytes.length ∧ ∀ item ∈ items, Sound bytes.length item := by
  induction fuel generalizing i bytes items with
  | zero => cases h
  | succ fuel ih =>
    obtain ⟨-, rfl, -⟩ | ⟨at_, item, after, items, hnext, hitem, hitems, rfl⟩ := readItems_succ.mp h
    · simp
    · obtain ⟨front, b, tail, rfl, -⟩ := nextItem_front hnext
      have hsound := hread.2 _ _ _ hitem
      obtain ⟨used, rfl, hne, -⟩ := hread.1 _ _ _ hitem
      obtain ⟨hlength, hrest⟩ := ih hitems
      have hpos := List.length_pos_of_ne_nil hne
      rw [List.length_append] at hsound
      simp only [List.length_cons, List.length_append, List.forall_mem_cons]
      exact ⟨by omega, hsound.mono (by omega), fun item hmem => (hrest item hmem).mono (by omega)⟩

/-- A value that is put in keeps the keys in order. -/
theorem ReadsSound.members (hread : ReadsSound read) {fuel : Nat} {first : Bool}
    {before entries : List (String × Json)} (hsorted : Entries.Sorted before)
    (hbefore : ∀ entry ∈ before, Sound n entry.2) (hn : bytes.length ≤ n)
    (h : readMembers read fuel first before bytes = .ok (entries, rest)) :
    Entries.Sorted entries ∧ ∀ entry ∈ entries, Sound n entry.2 := by
  induction fuel generalizing first before bytes with
  | zero => cases h
  | succ fuel ih =>
    obtain ⟨-, rfl, -⟩ |
        ⟨at_, key, tail, own, value, after, hnext, hkey, hcolon, hvalue, hmembers⟩ :=
      readMembers_succ.mp h
    · exact ⟨hsorted, hbefore⟩
    · obtain ⟨front, rfl, -⟩ := nextKey_front hnext
      obtain ⟨name, rfl, -⟩ := stringFrom_front hkey
      obtain ⟨between, rfl, -⟩ := colon_front hcolon
      have hsound := hread.2 _ _ _ hvalue
      obtain ⟨text, rfl, -⟩ := hread.1 _ _ _ hvalue
      simp only [List.length_append] at hn hsound
      refine ih (Entries.sorted_insert key value hsorted) (fun entry hmem => ?_) (by omega) hmembers
      rcases Entries.mem_insert hmem with rfl | hmem
      · exact hsound.mono (by omega)
      · exact hbefore entry hmem

theorem sound_valueAfter (hinner : ∀ inner ∈ inner?, ReadsSound (inner .any)) {b : UInt8}
    (h : valueAfter inner? b bytes = .ok (v, rest)) : Sound bytes.length v := by
  unfold valueAfter at h
  split_ifs at h with hn ht hf hminus hdigit hquote hlist hobject
  iterate 6
    · obtain ⟨_, -, h⟩ := bind_eq_ok.mp h
      obtain ⟨rfl, -⟩ := Prod.mk.inj (Except.ok.inj h)
      exact sound_scalar trivial
  · cases inner? with
    | none => cases h
    | some inner =>
      obtain ⟨⟨items, after⟩, hitems, h⟩ := bind_eq_ok.mp h
      obtain ⟨_, -, h⟩ := bind_eq_ok.mp h
      obtain ⟨rfl, -⟩ := Prod.mk.inj (Except.ok.inj h)
      obtain ⟨hlength, hsound⟩ := (hinner inner rfl).items hitems
      exact sound_array hlength hsound
  · cases inner? with
    | none => cases h
    | some inner =>
      obtain ⟨⟨entries, after⟩, hentries, h⟩ := bind_eq_ok.mp h
      obtain ⟨rfl, -⟩ := Prod.mk.inj (Except.ok.inj h)
      obtain ⟨hsorted, hsound⟩ := (hinner inner rfl).members .nil (by simp) (Nat.le_refl _) hentries
      exact sound_object hsorted hsound

theorem readsSound_readWith (hinner : ∀ inner ∈ inner?, ReadsSound (inner .any)) :
    ReadsSound (readWith inner? .any) := by
  refine ⟨readWith_local fun inner h => (hinner inner h).1, fun bytes v rest h => ?_⟩
  cases hskip : skipBlanks bytes with
  | nil =>
    rw [readWith, hskip] at h
    cases h
  | cons b tail =>
    rw [readWith_any hskip] at h
    obtain ⟨blanks, rfl, -⟩ := skipBlanks_eq_cons hskip
    exact (sound_valueAfter hinner h).mono (by simp; omega)

theorem readsSound_readNested (depth : Nat) : ReadsSound (readNested depth .any) := by
  induction depth with
  | zero => exact readsSound_readWith fun _ h => nomatch h
  | succ depth ih =>
    refine readsSound_readWith fun inner h => ?_
    obtain rfl := Option.some.inj h
    exact ih

end Shape

theorem sound_of_parse? {bytes : Bytes} (h : parse? bytes = some v) : Sound bytes.length v := by
  obtain ⟨rest, hread, -⟩ := parse?_eq_some.mp h
  exact (Shape.readsSound_readNested Shape.maxDepth).2 _ _ _ hread

/-! ## Paths of steps -/

namespace Step

/-- A step that has a segment of its own: a key that is not empty and has no dots, or a position. -/
def Plain : Step → Prop
  | key name => name ≠ "" ∧ '.' ∉ name.toList
  | index _ => True
  | unreadKey => False

/-- The segment for a step. -/
def segment : Step → List Char
  | key name => name.toList
  | index i => decimal i
  | unreadKey => []

end Step

/-- The path with these steps. -/
def pathOf (steps : List Step) : String := String.ofList (Split.join ['.'] (steps.map Step.segment))

theorem Step.Plain.segment {step : Step} (h : step.Plain) :
    '.' ∉ step.segment ∧ step.segment ≠ [] := by
  cases step with
  | key name =>
    obtain ⟨hne, hdot⟩ := h
    exact ⟨hdot, by simpa [Step.segment] using hne⟩
  | index i =>
    refine ⟨fun hmem => ?_, Ascii.decimal_ne_nil i⟩
    have hdigit := Ascii.isDigit_of_mem_decimal '.' hmem
    cases hdigit
  | unreadKey => cases h

theorem pieces_pathOf {steps : List Step} (h : ∀ step ∈ steps, step.Plain) :
    pieces (pathOf steps) = steps.map Step.segment := by
  cases steps with
  | nil => rfl
  | cons first steps =>
    rw [pieces, pathOf, String.toList_ofList, Split.segments_join (by simp),
      List.filter_eq_self.mpr]
    · intro segment hmem
      obtain ⟨step, hstep, rfl⟩ := List.mem_map.mp hmem
      simpa using (h step hstep).segment.2
    · intro segment hmem
      obtain ⟨step, hstep, rfl⟩ := List.mem_map.mp hmem
      exact (h step hstep).segment.1

/-- The steps to a value in a sound document are spelled by their segments. -/
theorem Reaches.spells {steps : List Step} (hreaches : Reaches v steps w) (hv : Sound n v)
    (hn : n ≤ UInt64.size) (hplain : ∀ step ∈ steps, step.Plain) :
    List.Forall₂ Spells steps (steps.map Step.segment) := by
  induction hreaches with
  | here v => exact .nil
  | step hholds hreaches ih =>
    rename_i step steps
    obtain ⟨hfirst, hrest⟩ := List.forall_mem_cons.mp hplain
    refine .cons ?_ (ih (hv.holds hholds) hrest)
    cases hholds with
    | key hmem => rfl
    | index hitem =>
      obtain ⟨hlt, -⟩ := List.getElem?_eq_some_iff.mp hitem
      have hlength : _ ≤ n := hv.neat
      exact ⟨by omega, [], 0, .inl rfl, rfl⟩

end Json

namespace Response

open Json

/-- For every value that a body holds: two paths with a dot between them are looked up one after the
other, dots at the ends of a path or next to each other mean nothing, all that is reached by steps
with segments of their own is found by the path of these, nothing is found but what is reached by
steps that the segments spell, and no lookup goes on from a text, a number, a boolean or null. -/
theorem jsonAt?_finds {r : Response} {v : Json} (hv : r.jsonValue? = some v)
    (hsize : r.body.length ≤ UInt64.size) :
    (∀ p q, r.jsonAt? (p ++ "." ++ q) = (r.jsonAt? p).bind (at? q)) ∧
    (∀ p m n, r.jsonAt? (dots m ++ p ++ dots n) = r.jsonAt? p) ∧
    (∀ p q n, r.jsonAt? (p ++ dots (n + 1) ++ q) = r.jsonAt? (p ++ "." ++ q)) ∧
    (∀ steps w, Reaches v steps w → (∀ step ∈ steps, step.Plain) →
      r.jsonAt? (pathOf steps) = some w) ∧
    (∀ p w, r.jsonAt? p = some w ↔
      ∃ steps, Reaches v steps w ∧ List.Forall₂ Spells steps (pieces p)) ∧
    ∀ p s q, r.jsonAt? p = some s → s.Scalar → (∃ c ∈ q.toList, c ≠ '.') →
      r.jsonAt? (p ++ "." ++ q) = none := by
  have hat (path : String) : r.jsonAt? path = at? path v := by rw [jsonAt?, hv]; rfl
  have hsound : Sound r.body.length v := sound_of_parse? hv
  simp only [hat]
  refine ⟨fun p q => at?_dot p q v, fun p m n => ?_, fun p q n => ?_, fun steps w hw hplain => ?_,
    fun p w => at?_eq_some hsound, fun p s q hs hscalar hq => ?_⟩
  · exact at?_congr ((pieces_append_dots _ n).trans (pieces_dots_append m p)) v
  · exact at?_congr ((pieces_dots_between p n q).trans (pieces_dot p q).symm) v
  · rw [at?_eq_some hsound, pieces_pathOf hplain]
    exact ⟨steps, hw, hw.spells hsound hsize hplain⟩
  · rw [at?_dot, hs]
    exact at?_scalar hscalar hq

/-- In `{"0":[7,{"a b":null}]}` the key `0` looks like a position, the position 1 may be written
`+01`, and nothing is in the number at position 0. -/
theorem jsonAt?_finds_nested :
    let r := make 200 .empty (Utf8.encode "\x7b\"0\":[7,\x7b\"a b\":null\x7d]\x7d")
    let inner := Json.object [("a b", .null)]
    let v := Json.object [("0", .array [.nat 7, inner])]
    let steps := [Step.key "0", .index 1, .key "a b"]
    r.jsonValue? = some v ∧ r.body.length ≤ UInt64.size ∧
      (Reaches v steps .null ∧ (∀ step ∈ steps, step.Plain) ∧
        r.jsonAt? (pathOf steps) = some .null) ∧
      r.jsonAt? ("0" ++ dots 3 ++ "+01") = some inner ∧
      (r.jsonAt? "0.0" = some (.nat 7) ∧ r.jsonAt? ("0.0" ++ "." ++ "0") = none) := by
  intro r inner v steps
  have hv : r.jsonValue? = some v := by rfl
  have hsize : r.body.length ≤ UInt64.size := by decide +kernel
  obtain ⟨-, -, hbetween, hfound, -, hscalar⟩ := jsonAt?_finds hv hsize
  have hinner : Reaches v steps .null :=
    .step (.key List.mem_cons_self)
      (.step (.index rfl) (.step (.key List.mem_cons_self) (.here .null)))
  have hplain : ∀ step ∈ steps, step.Plain := by simp [steps, Step.Plain]
  have hseven : r.jsonAt? "0.0" = some (.nat 7) := by rfl
  refine ⟨hv, hsize, ⟨hinner, hplain, hfound _ _ hinner hplain⟩, ?_, hseven, ?_⟩
  · exact (hbetween "0" "+01" 2).trans (by rfl)
  · exact hscalar "0.0" (.nat 7) "0" hseven trivial ⟨'0', by decide, by decide⟩

end Response

end Courier
