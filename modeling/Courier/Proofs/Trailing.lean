import Courier.Failure
import Courier.Proofs.Locality
/-
The two ways to read the body of a response as JSON. `Response.jsonValue?`
wants one value and nothing else but blanks. `Response.json` reads a value and
does not look at what comes after it. So they are not the same
(`Response.json_accepts_trailing`), and `Response.json_reads_front` says how
they differ:

- a body that the first one accepts is accepted by the second with the same
  value;
- a body that the second one accepts is the text of that value, followed by
  something; the first one accepts it if and only if this is blank;
- the text of a value is accepted by the second one with whatever after it,
  as long as that does not go on with a number.

The reason is that readers of values are local (`Shape.Local`): they look at
nothing but what they take off. The reader for the values in a list or an
object is given, so this is shown for each depth from the one below.
-/
namespace Courier

namespace Json

open Reader

namespace Shape

variable {bytes rest : Bytes} {read : Read Json}

theorem lift_eq_ok {α : Type} {x : Except Flaw α} {a : α} : lift x = .ok a ↔ x = .ok a := by
  cases x <;> simp [lift]

theorem liftUnder_eq_ok {α : Type} {step : Step} {x : Except Flaw α} {a : α} :
    liftUnder step x = .ok a ↔ x = .ok a := by
  cases x <;> simp [liftUnder]

theorem within_eq_ok {α : Type} {step : Step} {x : Except Misread (α × Bytes)} {r : α × Bytes} :
    within step x = .ok r ↔ x = .ok r := by
  cases x <;> simp [within]

/-- The reader looks at nothing but what it takes off: it takes the same off in front of
whatever does not go on with a number. -/
def Local (read : Read Json) : Prop :=
  ∀ bytes v rest, read bytes = .ok (v, rest) → ∃ used, bytes = used ++ rest ∧ used ≠ [] ∧
    ∀ more, EndsNumber more → read (used ++ more) = .ok (v, more)

/-- What a round of reading items does. -/
theorem readItems_succ {fuel i : Nat} {items : List Json} :
    readItems read (fuel + 1) i bytes = .ok (items, rest) ↔
      nextItem (i = 0) bytes = .ok none ∧ items = [] ∧ rest = bytes ∨
      ∃ at_ item after more, nextItem (i = 0) bytes = .ok (some at_) ∧
        read at_ = .ok (item, after) ∧
        readItems read fuel (i + 1) after = .ok (more, rest) ∧ items = item :: more := by
  rw [readItems, bind_eq_ok]
  simp only [lift_eq_ok]
  constructor
  · rintro ⟨next, hnext, h⟩
    cases next with
    | none =>
      obtain ⟨rfl, rfl⟩ := Prod.mk.inj (Except.ok.inj h)
      exact .inl ⟨hnext, rfl, rfl⟩
    | some at_ =>
      obtain ⟨⟨item, after⟩, hitem, h⟩ := bind_eq_ok.mp h
      obtain ⟨⟨more, rest'⟩, hmore, h⟩ := bind_eq_ok.mp h
      obtain ⟨rfl, rfl⟩ := Prod.mk.inj (Except.ok.inj h)
      exact .inr ⟨at_, item, after, more, hnext, within_eq_ok.mp hitem, hmore, rfl⟩
  · rintro (⟨hnext, rfl, rfl⟩ | ⟨at_, item, after, more, hnext, hitem, hmore, rfl⟩)
    · exact ⟨none, hnext, rfl⟩
    · exact ⟨some at_, hnext, bind_eq_ok.mpr ⟨(item, after), within_eq_ok.mpr hitem,
        bind_eq_ok.mpr ⟨(more, rest), hmore, rfl⟩⟩⟩

theorem endsNumber_of_readItems {fuel i : Nat} {r : List Json × Bytes}
    (h : readItems read fuel (i + 1) bytes = .ok r) :
    EndsNumber bytes := by
  cases fuel with
  | zero => cases h
  | succ fuel =>
    obtain ⟨hnext, -, -⟩ | ⟨_, _, _, _, hnext, -⟩ := readItems_succ.mp h
    all_goals exact endsNumber_of_nextItem hnext

/-- Items are read up to the closing bracket; how it goes on after that does not matter. -/
theorem readItems_front (hlocal : Local read) {fuel i : Nat} {items : List Json}
    (h : readItems read fuel i bytes = .ok (items, rest)) :
    ∃ used, bytes = used ++ rest ∧ Closes ']' rest ∧
      ∀ more fuel', Closes ']' more → used.length < fuel' →
        readItems read fuel' i (used ++ more) = .ok (items, more) := by
  induction fuel generalizing i bytes items with
  | zero => cases h
  | succ fuel ih =>
    obtain ⟨hnext, rfl, rfl⟩ | ⟨at_, item, after, items, hnext, hitem, hitems, rfl⟩ :=
      readItems_succ.mp h
    · refine ⟨[], rfl, nextItem_none.mp hnext, fun more fuel' hmore hfuel => ?_⟩
      obtain ⟨fuel', rfl⟩ := Nat.exists_eq_succ_of_ne_zero (Nat.ne_of_gt hfuel)
      exact readItems_succ.mpr (.inl ⟨nextItem_none.mpr hmore, rfl, rfl⟩)
    · obtain ⟨front, b, tail, rfl, hat, hfront⟩ := nextItem_front hnext
      obtain ⟨own, rfl, hown, hread⟩ := hlocal _ _ _ hitem
      obtain ⟨used, rfl, hcloses, hused⟩ := ih hitems
      obtain ⟨b', own, rfl⟩ := List.exists_cons_of_ne_nil hown
      obtain ⟨rfl, rfl⟩ := List.cons.inj hat
      refine ⟨front ++ b' :: own ++ used, by simp, hcloses, fun more fuel' hmore hfuel => ?_⟩
      obtain ⟨fuel', rfl⟩ :=
        Nat.exists_eq_succ_of_ne_zero (Nat.ne_of_gt (Nat.lt_of_le_of_lt (Nat.zero_le _) hfuel))
      have hitems := hused more fuel' hmore (by simp at hfuel; omega)
      refine readItems_succ.mpr (.inr ⟨_, item, used ++ more, items, ?_,
        hread _ (endsNumber_of_readItems hitems), hitems, rfl⟩)
      rw [List.append_assoc, List.append_assoc]
      exact hfront _

theorem readList_local (hlocal : Local read) : Local (readList read) := by
  intro bytes v rest h
  obtain ⟨⟨items, after⟩, hitems, h⟩ := bind_eq_ok.mp h
  obtain ⟨rest', hclose, h⟩ := bind_eq_ok.mp h
  obtain ⟨rfl, rfl⟩ := Prod.mk.inj (Except.ok.inj h)
  obtain ⟨used, rfl, -, hused⟩ := readItems_front hlocal hitems
  obtain ⟨blanks, rfl, hskip⟩ := skipBlanks_eq_cons (closeList_front (lift_eq_ok.mp hclose))
  refine ⟨used ++ (blanks ++ [byte ']']), by simp, by simp, fun more _ => ?_⟩
  have hbytes :
      used ++ (blanks ++ [byte ']']) ++ more = used ++ (blanks ++ byte ']' :: more) := by simp
  rw [hbytes]
  refine bind_eq_ok.mpr ⟨_, hused _ _ ⟨more, hskip more⟩ (by rw [List.length_append]; omega),
    bind_eq_ok.mpr ⟨more, ?_, rfl⟩⟩
  exact lift_eq_ok.mpr (closeList_of_skipBlanks (hskip more))

/-- What a round of reading members does. -/
theorem readMembers_succ {fuel : Nat} {first : Bool} {before entries : List (String × Json)} :
    readMembers read (fuel + 1) first before bytes = .ok (entries, rest) ↔
      nextKey first bytes = .ok none ∧ entries = before ∧ rest = bytes ∨
      ∃ at_ key tail own value after, nextKey first bytes = .ok (some at_) ∧
        Reader.string at_ = .ok (key, tail) ∧
        colon tail = .ok own ∧ read own = .ok (value, after) ∧
        readMembers read fuel false (Entries.insert key value before) after =
          .ok (entries, rest) := by
  rw [readMembers, bind_eq_ok]
  simp only [liftUnder_eq_ok]
  constructor
  · rintro ⟨next, hnext, h⟩
    cases next with
    | none =>
      obtain ⟨rfl, rfl⟩ := Prod.mk.inj (Except.ok.inj h)
      exact .inl ⟨hnext, rfl, rfl⟩
    | some at_ =>
      obtain ⟨⟨key, tail⟩, hkey, h⟩ := bind_eq_ok.mp h
      obtain ⟨own, hcolon, h⟩ := bind_eq_ok.mp h
      obtain ⟨⟨value, after⟩, hvalue, hmore⟩ := bind_eq_ok.mp h
      exact .inr ⟨at_, key, tail, own, value, after, hnext, liftUnder_eq_ok.mp hkey,
        lift_eq_ok.mp hcolon, within_eq_ok.mp hvalue, hmore⟩
  · rintro (⟨hnext, rfl, rfl⟩ | ⟨at_, key, tail, own, value, after, hnext, hkey, hcolon,
      hvalue, hmore⟩)
    · exact ⟨none, hnext, rfl⟩
    · exact ⟨some at_, hnext, bind_eq_ok.mpr ⟨(key, tail), liftUnder_eq_ok.mpr hkey,
        bind_eq_ok.mpr ⟨own, lift_eq_ok.mpr hcolon,
          bind_eq_ok.mpr ⟨(value, after), within_eq_ok.mpr hvalue, hmore⟩⟩⟩⟩

theorem endsNumber_of_readMembers {fuel : Nat} {before : List (String × Json)}
    {r : List (String × Json) × Bytes} (h : readMembers read fuel false before bytes = .ok r) :
    EndsNumber bytes := by
  cases fuel with
  | zero => cases h
  | succ fuel =>
    obtain ⟨hnext, -, -⟩ | ⟨_, _, _, _, _, _, hnext, -⟩ := readMembers_succ.mp h
    all_goals exact endsNumber_of_nextKey hnext

/-- Members are read up to the closing brace; how it goes on after that does not matter. -/
theorem readMembers_front (hlocal : Local read) {fuel : Nat} {first : Bool}
    {before entries : List (String × Json)}
    (h : readMembers read fuel first before bytes = .ok (entries, rest)) :
    ∃ used, bytes = used ++ rest ∧ Closes '\x7d' rest ∧ ∀ more fuel', Closes '\x7d' more →
      used.length < fuel' →
      readMembers read fuel' first before (used ++ more) = .ok (entries, more) := by
  induction fuel generalizing first before bytes with
  | zero => cases h
  | succ fuel ih =>
    obtain ⟨hnext, rfl, rfl⟩ |
        ⟨at_, key, tail, own, value, after, hnext, hkey, hcolon, hvalue, hmembers⟩ :=
      readMembers_succ.mp h
    · refine ⟨[], rfl, nextKey_none.mp hnext, fun more fuel' hmore hfuel => ?_⟩
      obtain ⟨fuel', rfl⟩ := Nat.exists_eq_succ_of_ne_zero (Nat.ne_of_gt hfuel)
      exact readMembers_succ.mpr (.inl ⟨nextKey_none.mpr hmore, rfl, rfl⟩)
    · obtain ⟨front, rfl, hfront⟩ := nextKey_front hnext
      obtain ⟨name, rfl, hname⟩ := stringFrom_front hkey
      obtain ⟨between, rfl, hbetween⟩ := colon_front hcolon
      obtain ⟨text, rfl, htext, hread⟩ := hlocal _ _ _ hvalue
      obtain ⟨used, rfl, hcloses, hused⟩ := ih hmembers
      refine ⟨front ++ (name ++ (between ++ (text ++ used))), by simp, hcloses,
        fun more fuel' hmore hfuel => ?_⟩
      have hlength := List.length_pos_of_ne_nil htext
      obtain ⟨fuel', rfl⟩ :=
        Nat.exists_eq_succ_of_ne_zero (Nat.ne_of_gt (Nat.lt_of_le_of_lt (Nat.zero_le _) hfuel))
      have hmembers := hused more fuel' hmore (by simp at hfuel; omega)
      simp only [List.append_assoc]
      exact readMembers_succ.mpr (.inr ⟨_, key, _, _, value, _, hfront _, hname _, hbetween _,
        hread _ (endsNumber_of_readMembers hmembers), hmembers⟩)

theorem readObject_local (hlocal : Local read) : Local (readObject read) := by
  intro bytes v rest h
  obtain ⟨⟨entries, after⟩, hmembers, h⟩ := bind_eq_ok.mp h
  obtain ⟨rfl, rfl⟩ := Prod.mk.inj (Except.ok.inj h)
  obtain ⟨used, rfl, ⟨tail, hbrace⟩, hused⟩ := readMembers_front hlocal hmembers
  obtain ⟨blanks, rfl, hskip⟩ := skipBlanks_eq_cons hbrace
  have hclose (more : Bytes) : closeObject (blanks ++ byte '\x7d' :: more) = more := by
    rw [closeObject, hskip]
    rfl
  refine ⟨used ++ (blanks ++ [byte '\x7d']), by simp [hclose], by simp, fun more _ => ?_⟩
  have hbytes : used ++ (blanks ++ [byte '\x7d']) ++ more =
      used ++ (blanks ++ byte '\x7d' :: more) := by simp
  rw [hbytes]
  refine bind_eq_ok.mpr ⟨_, hused _ _ ⟨more, hskip more⟩ (by rw [List.length_append]; omega), ?_⟩
  show Except.ok (object entries, closeObject (blanks ++ byte '\x7d' :: more)) = _
  rw [hclose]

/-! ## Values -/

variable {inner? : Option (Shape → Read Json)}

/-- A value, after its first byte. -/
def valueAfter (inner? : Option (Shape → Read Json)) (b : UInt8) (rest : Bytes) :
    Except Misread (Json × Bytes) :=
  let nested := fun go : (Shape → Read Json) → Except Misread (Json × Bytes) =>
    match inner? with
    | some inner => go inner
    | none => .error (.here (.flaw .tooDeep))
  if b = byte 'n' then do .ok (.null, ← lift (Reader.literal ['u', 'l', 'l'] rest))
  else if b = byte 't' then do .ok (.bool true, ← lift (Reader.literal ['r', 'u', 'e'] rest))
  else if b = byte 'f' then do .ok (.bool false, ← lift (Reader.literal ['a', 'l', 's', 'e'] rest))
  else if b = byte '-' then do
    let (n, rest) ← lift (Reader.number true rest)
    .ok (.number n, rest)
  else if Reader.isDigit b then do
    let (n, rest) ← lift (Reader.number false (b :: rest))
    .ok (.number n, rest)
  else if b = byte '\x22' then do
    let (s, rest) ← lift (Reader.string rest)
    .ok (.string s, rest)
  else if b = byte '[' then nested fun inner => readList (inner .any) rest
  else if b = byte '\x7b' then nested fun inner => readObject (inner .any) rest
  else .error (.here (.flaw .expectedValue))

theorem readWith_any {b : UInt8} (h : skipBlanks bytes = b :: rest) :
    readWith inner? .any bytes = valueAfter inner? b rest := by
  rw [readWith, h]
  rfl

theorem valueAfter_front (hinner : ∀ inner ∈ inner?, Local (inner .any)) {b : UInt8} {v : Json}
    (h : valueAfter inner? b bytes = .ok (v, rest)) : ∃ used, bytes = used ++ rest ∧
      ∀ more, EndsNumber more → valueAfter inner? b (used ++ more) = .ok (v, more) := by
  have hliteral {cs : List Char} {w : Json}
      (h : (do .ok (w, ← lift (literal cs bytes)) : Except Misread (Json × Bytes)) =
        .ok (v, rest)) :
      ∃ used, bytes = used ++ rest ∧
        ∀ more, (do .ok (w, ← lift (literal cs (used ++ more))) : Except Misread (Json × Bytes)) =
            .ok (v, more) := by
    obtain ⟨rest', hrest, h⟩ := bind_eq_ok.mp h
    obtain ⟨rfl, rfl⟩ := Prod.mk.inj (Except.ok.inj h)
    obtain ⟨used, rfl, hused⟩ := literal_front (lift_eq_ok.mp hrest)
    exact ⟨used, rfl, fun more => bind_eq_ok.mpr ⟨more, lift_eq_ok.mpr (hused more), rfl⟩⟩
  unfold valueAfter at h ⊢
  split_ifs at h ⊢ with hn ht hf hminus hdigit hquote hlist hobject
  · obtain ⟨used, rfl, hused⟩ := hliteral h
    exact ⟨used, rfl, fun more _ => hused more⟩
  · obtain ⟨used, rfl, hused⟩ := hliteral h
    exact ⟨used, rfl, fun more _ => hused more⟩
  · obtain ⟨used, rfl, hused⟩ := hliteral h
    exact ⟨used, rfl, fun more _ => hused more⟩
  · obtain ⟨⟨n, rest'⟩, hnumber, h⟩ := bind_eq_ok.mp h
    obtain ⟨rfl, rfl⟩ := Prod.mk.inj (Except.ok.inj h)
    obtain ⟨used, rfl, -, hused⟩ := number_front (lift_eq_ok.mp hnumber)
    exact ⟨used, rfl, fun more hmore => bind_eq_ok.mpr ⟨(n, more),
      lift_eq_ok.mpr (hused more hmore), rfl⟩⟩
  · obtain ⟨⟨n, rest'⟩, hnumber, h⟩ := bind_eq_ok.mp h
    obtain ⟨rfl, rfl⟩ := Prod.mk.inj (Except.ok.inj h)
    obtain ⟨used, heq, hne, hused⟩ := number_front (lift_eq_ok.mp hnumber)
    obtain ⟨b', used, rfl⟩ := List.exists_cons_of_ne_nil hne
    obtain ⟨rfl, rfl⟩ := List.cons.inj heq
    exact ⟨used, rfl, fun more hmore => bind_eq_ok.mpr ⟨(n, more),
      lift_eq_ok.mpr (hused more hmore), rfl⟩⟩
  · obtain ⟨⟨s, rest'⟩, hstring, h⟩ := bind_eq_ok.mp h
    obtain ⟨rfl, rfl⟩ := Prod.mk.inj (Except.ok.inj h)
    obtain ⟨used, rfl, hused⟩ := stringFrom_front (lift_eq_ok.mp hstring)
    exact ⟨used, rfl, fun more _ => bind_eq_ok.mpr ⟨(s, more), lift_eq_ok.mpr (hused more), rfl⟩⟩
  · cases inner? with
    | none => cases h
    | some inner =>
      obtain ⟨used, rfl, -, hused⟩ := readList_local (hinner inner rfl) _ _ _ h
      exact ⟨used, rfl, hused⟩
  · cases inner? with
    | none => cases h
    | some inner =>
      obtain ⟨used, rfl, -, hused⟩ := readObject_local (hinner inner rfl) _ _ _ h
      exact ⟨used, rfl, hused⟩

theorem readWith_local (hinner : ∀ inner ∈ inner?, Local (inner .any)) :
    Local (readWith inner? .any) := by
  intro bytes v rest h
  cases hskip : skipBlanks bytes with
  | nil =>
    rw [readWith, hskip] at h
    cases h
  | cons b tail =>
    rw [readWith_any hskip] at h
    obtain ⟨blanks, rfl, hfront⟩ := skipBlanks_eq_cons hskip
    obtain ⟨used, rfl, hused⟩ := valueAfter_front hinner h
    refine ⟨blanks ++ b :: used, by simp, by simp, fun more hmore => ?_⟩
    rw [List.append_assoc, List.cons_append, readWith_any (hfront _), hused more hmore]

/-- What is read as a value does not depend on what comes after it. -/
theorem readNested_local (n : Nat) : Local (readNested n .any) := by
  induction n with
  | zero => exact readWith_local fun _ h => nomatch h
  | succ n ih =>
    refine readWith_local fun inner h => ?_
    obtain rfl := Option.some.inj h
    exact ih

end Shape

/-! ## Whole texts -/

variable {text rest : Bytes} {v : Json}

theorem skipBlanks_eq_nil {bytes : Bytes} : skipBlanks bytes = [] ↔ ∀ b ∈ bytes, isBlank b = true :=
  List.dropWhile_eq_nil_iff

theorem parse?_eq_some : parse? text = some v ↔
    ∃ rest, Shape.readNested Shape.maxDepth .any text = .ok (v, rest) ∧
      ∀ b ∈ rest, isBlank b = true := by
  rw [parse?]
  cases hread : Shape.readNested Shape.maxDepth .any text with
  | error m => simp
  | ok r =>
    obtain ⟨w, rest⟩ := r
    simp only [List.isEmpty_iff, skipBlanks_eq_nil, Option.ite_none_right_eq_some,
      Option.some.injEq, Except.ok.injEq, Prod.mk.injEq]
    constructor
    · rintro ⟨hblank, rfl⟩
      exact ⟨rest, ⟨rfl, rfl⟩, hblank⟩
    · rintro ⟨_, ⟨rfl, rfl⟩, hblank⟩
      exact ⟨hblank, rfl⟩

theorem read_any_eq_ok : Shape.any.read text = .ok v ↔
    ∃ rest, Shape.readNested Shape.maxDepth .any text = .ok (v, rest) := by
  rw [Shape.read, map_eq_ok]
  constructor
  · rintro ⟨⟨_, rest⟩, hread, rfl⟩
    exact ⟨rest, hread⟩
  · rintro ⟨rest, hread⟩
    exact ⟨(v, rest), hread, rfl⟩

theorem endsNumber_of_blanks {blanks : Bytes} (h : ∀ b ∈ blanks, isBlank b = true)
    (hrest : EndsNumber rest) :
    EndsNumber (blanks ++ rest) := by
  cases blanks with
  | nil => exact hrest
  | cons b blanks =>
    have hb : isBlank b = true := h b List.mem_cons_self
    simp only [isBlank, Bool.or_eq_true, decide_eq_true_eq] at hb
    rcases hb with ((rfl | rfl) | rfl) | rfl <;> exact .cons (by decide) _

/-- A text whose value is read with something after it. -/
theorem readNested_append (h : parse? text = some v) (hrest : EndsNumber rest) : ∃ blanks,
    (∀ b ∈ blanks, isBlank b = true) ∧
      Shape.readNested Shape.maxDepth .any (text ++ rest) = .ok (v, blanks ++ rest) := by
  obtain ⟨blanks, hread, hblanks⟩ := parse?_eq_some.mp h
  obtain ⟨used, rfl, -, hused⟩ := Shape.readNested_local Shape.maxDepth _ _ _ hread
  refine ⟨blanks, hblanks, ?_⟩
  rw [List.append_assoc]
  exact hused _ (endsNumber_of_blanks hblanks hrest)

/-- What is read of a text is the value of a text that it begins with. -/
theorem exists_parse? {bytes : Bytes}
    (h : Shape.readNested Shape.maxDepth .any bytes = .ok (v, rest)) :
    ∃ text, bytes = text ++ rest ∧ parse? text = some v := by
  obtain ⟨text, rfl, -, htext⟩ := Shape.readNested_local Shape.maxDepth _ _ _ h
  have hread := htext [] .nil
  rw [List.append_nil] at hread
  exact ⟨text, rfl, parse?_eq_some.mpr ⟨[], hread, fun _ h => nomatch h⟩⟩

end Json

namespace Response

open Json Json.Reader

theorem json_eq_ok {r : Response} {shape : Shape} {v : Json} :
    r.json shape = .ok v ↔ shape.read r.body = .ok v := by
  rw [json]
  cases shape.read r.body <;> simp [Except.mapError]

theorem jsonValue?_of_readNested {r : Response} {v : Json} {rest : Bytes}
    (h : Shape.readNested Shape.maxDepth .any r.body = .ok (v, rest)) :
    r.jsonValue? = if rest.all isBlank then some v else none := by
  have hempty : (skipBlanks rest).isEmpty = rest.all isBlank := by
    rw [Bool.eq_iff_iff, List.isEmpty_iff, skipBlanks_eq_nil, List.all_eq_true]
  simp only [jsonValue?, parse?, h, hempty]

/-- The two readings of a body: the one that wants nothing after the value accepts no more, and
what it rejects beyond the other has something after the text of a value. -/
theorem json_reads_front (r : Response) :
    (∀ v, r.jsonValue? = some v → r.json .any = .ok v) ∧
    (∀ v, r.json .any = .ok v → ∃ text rest, r.body = text ++ rest ∧ Json.parse? text = some v ∧
      r.jsonValue? = if rest.all isBlank then some v else none) ∧
    (∀ text rest v, r.body = text ++ rest → Json.parse? text = some v → EndsNumber rest →
      r.json .any = .ok v ∧ r.jsonValue? = if rest.all isBlank then some v else none) := by
  refine ⟨fun v hv => ?_, fun v hv => ?_, fun text rest v hbody htext hrest => ?_⟩
  · obtain ⟨rest, hread, -⟩ := parse?_eq_some.mp hv
    exact json_eq_ok.mpr (read_any_eq_ok.mpr ⟨rest, hread⟩)
  · obtain ⟨rest, hread⟩ := read_any_eq_ok.mp (json_eq_ok.mp hv)
    obtain ⟨text, hbody, htext⟩ := exists_parse? hread
    exact ⟨text, rest, hbody, htext, jsonValue?_of_readNested hread⟩
  · obtain ⟨blanks, hblanks, hread⟩ := readNested_append htext hrest
    rw [← hbody] at hread
    refine ⟨json_eq_ok.mpr (read_any_eq_ok.mpr ⟨_, hread⟩), ?_⟩
    rw [jsonValue?_of_readNested hread, List.all_append, List.all_eq_true.mpr hblanks,
      Bool.true_and]

/-- Two empty objects with a blank between them. The first one is read; with what comes after it,
the body is no value. -/
theorem json_two_objects :
    (make 200 .empty [0x7B, 0x7D, 0x20, 0x7B, 0x7D]).json .any = .ok (.object []) ∧
    (make 200 .empty [0x7B, 0x7D, 0x20, 0x7B, 0x7D]).jsonValue? = none :=
  (json_reads_front _).2.2 [0x7B, 0x7D] [0x20, 0x7B, 0x7D] (.object []) rfl rfl
    (.cons (by decide) _)

/-- The two readings of a body differ. -/
theorem json_accepts_trailing :
    ¬ ∀ (r : Response) (v : Json), r.json .any = .ok v ↔ r.jsonValue? = some v := by
  intro h
  have hsome := (h (make 200 .empty [0x7B, 0x7D, 0x20, 0x7B, 0x7D]) (.object [])).mp rfl
  have hnone : (make 200 .empty [0x7B, 0x7D, 0x20, 0x7B, 0x7D]).jsonValue? = none := rfl
  rw [hnone] at hsome
  cases hsome

end Response

end Courier
