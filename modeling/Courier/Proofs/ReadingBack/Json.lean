import Courier.Json.Shape
import Courier.Proofs.Maps
import Courier.Proofs.ReadingBack.Token
/-
A JSON value is read back as it was written (`Json.parse?_bytes`), if its
numbers are integers, its objects are in key order and it is nested no deeper
than a reader goes. Doubles are another matter: whether they come back depends
on how their digits are rounded.

A reader of values reads back a value (`Shape.Reads`) if it does so in front of
whatever does not go on with a number. A reader for the values in a list or an
object is given; if it reads back each of them, then the list or the object is
read back as well. So the depth to which values are read back is the depth to
which they are read.
-/
namespace Courier.Json

open Utf8 (ofChars)

/-! ## Values that are read back -/

mutual
/-- How deep lists and objects are nested in each other. -/
def depth : Json → Nat
  | .array items => depthItems items + 1
  | .object entries => depthEntries entries + 1
  | _ => 0

/-- How deep the deepest item is. -/
def depthItems : List Json → Nat
  | [] => 0
  | item :: rest => max (depth item) (depthItems rest)

/-- How deep the deepest value of the entries is. -/
def depthEntries : List (String × Json) → Nat
  | [] => 0
  | (_, value) :: rest => max (depth value) (depthEntries rest)
end

mutual
/-- Every number in the document is an integer of 64 bits, with a sign or without. -/
def Whole : Json → Prop
  | .number (.int i) => -Int.pow 2 63 ≤ i ∧ i < Int.pow 2 64
  | .number (.double _) => False
  | .array items => WholeItems items
  | .object entries => WholeEntries entries
  | _ => True

/-- Every number in the items is an integer. -/
def WholeItems : List Json → Prop
  | [] => True
  | item :: rest => Whole item ∧ WholeItems rest

/-- Every number in the values of the entries is an integer. -/
def WholeEntries : List (String × Json) → Prop
  | [] => True
  | (_, value) :: rest => Whole value ∧ WholeEntries rest
end

/-- A value that is read back where so many lists and objects may be nested. -/
structure Plain (n : Nat) (v : Json) : Prop where
  whole : v.Whole
  ordered : v.Ordered
  depth_le : v.depth ≤ n

theorem Plain.item {n : Nat} {items : List Json} (h : Plain (n + 1) (.array items)) {item : Json}
    (hmem : item ∈ items) : Plain n item := by
  obtain ⟨hwhole, hordered, hdepth⟩ := h
  simp only [Whole, Ordered, depth, Nat.add_le_add_iff_right] at hwhole hordered hdepth
  induction items with
  | nil => cases hmem
  | cons first rest ih =>
    simp only [WholeItems, OrderedItems, depthItems, Nat.max_le] at hwhole hordered hdepth
    cases hmem with
    | head => exact ⟨hwhole.1, hordered.1, hdepth.1⟩
    | tail _ hmem => exact ih hmem hwhole.2 hordered.2 hdepth.2

theorem Plain.value {n : Nat} {entries : List (String × Json)} (h : Plain (n + 1) (.object entries))
    {entry : String × Json} (hmem : entry ∈ entries) : Plain n entry.2 := by
  obtain ⟨hwhole, ⟨-, hordered⟩, hdepth⟩ := h
  simp only [Whole, depth, Nat.add_le_add_iff_right] at hwhole hdepth
  induction entries with
  | nil => cases hmem
  | cons first rest ih =>
    simp only [WholeEntries, OrderedEntries, depthEntries, Nat.max_le] at hwhole hordered hdepth
    cases hmem with
    | head => exact ⟨hwhole.1, hordered.1, hdepth.1⟩
    | tail _ hmem => exact ih hmem hwhole.2 hordered.2 hdepth.2

/-! ## Where tokens begin and end -/

namespace Reader

theorem skipBlanks_cons {b : UInt8} (h : isBlank b = false) (rest : Bytes) :
    skipBlanks (b :: rest) = b :: rest := by
  simp [skipBlanks, h]

theorem EndsNumber.cons {b : UInt8}
    (h : isDigit b = false ∧ b ≠ byte '.' ∧ b ≠ byte 'e' ∧ b ≠ byte 'E') (rest : Bytes) :
    EndsNumber (b :: rest) := by
  intro b' more heq
  cases heq
  exact h

theorem ne_of_isDigit {d b : UInt8} (hd : isDigit d = true) (hb : isDigit b = false) : d ≠ b := by
  rintro rfl
  rw [hd] at hb
  cases hb

theorem isBlank_of_isDigit {d : UInt8} (hd : isDigit d = true) : isBlank d = false := by
  simp [isBlank, ne_of_isDigit hd (b := 0x20) (by decide), ne_of_isDigit (b := 0x0A) hd (by decide),
    ne_of_isDigit (b := 0x0D) hd (by decide), ne_of_isDigit (b := 0x09) hd (by decide)]

end Reader

open Reader

/-- No value begins like a blank or like the end of a list. -/
theorem exists_write {v : Json} (h : v.Whole) :
    ∃ b more, ofChars v.write = b :: more ∧ isBlank b = false ∧ b ≠ byte ']' := by
  cases v with
  | null => exact ⟨0x6E, _, rfl, by decide, by decide⟩
  | bool b => cases b <;> exact ⟨_, _, rfl, by decide, by decide⟩
  | string s => exact ⟨0x22, _, rfl, by decide, by decide⟩
  | array items => exact ⟨0x5B, _, rfl, by decide, by decide⟩
  | object entries => exact ⟨0x7B, _, rfl, by decide, by decide⟩
  | number n =>
    cases n with
    | double x => exact absurd h (by simp [Whole])
    | int i =>
      obtain ⟨d, more, hdigits⟩ := List.exists_cons_of_ne_nil (digits_ne_nil i.natAbs)
      simp only [write, Number.write, Ascii.showInt]
      split
      · exact ⟨0x2D, _, by rw [String.toList_append]; rfl, by decide, by decide⟩
      · have hd : isDigit d = true :=
          isDigit_of_mem_digits d (by rw [hdigits]; exact List.mem_cons_self)
        refine ⟨d, more, ?_, isBlank_of_isDigit hd, ne_of_isDigit hd (by decide)⟩
        rw [Ascii.showNat, String.toList_ofList]
        exact hdigits

/-! ## Readers of values -/

namespace Shape

variable {inner? : Option (Shape → Read Json)} {read : Read Json}

/-- The reader reads a value back as it was written, in front of what does not go on with a
number. -/
def Reads (read : Read Json) (v : Json) : Prop :=
  ∀ rest, EndsNumber rest → read (ofChars v.write ++ rest) = .ok (v, rest)

theorem reads_null : Reads (readWith inner? .any) .null := fun _ _ => rfl

theorem reads_bool (b : Bool) : Reads (readWith inner? .any) (.bool b) := by
  intro rest _
  cases b <;> rfl

theorem reads_string (s : String) : Reads (readWith inner? .any) (.string s) := by
  intro rest _
  have hread (bytes : Bytes) : readWith inner? .any (0x22 :: bytes) =
      lift (Reader.string bytes) >>= fun r => .ok (.string r.1, r.2) := rfl
  have hwrite :
      ofChars (write (.string s)) ++ rest =
      0x22 :: (ofChars (s.toList.flatMap escape) ++ 0x22 :: rest) := by
    simp only [write, writeString, List.cons_append, Utf8.ofChars_cons, Utf8.ofChars_append,
      List.append_assoc]
    rfl
  rw [hwrite, hread, string_ofChars]
  rfl

/-- What begins with a digit is read as a number. -/
theorem readWith_digits {d : UInt8} (hd : isDigit d = true) (bytes : Bytes) :
    readWith inner? .any (d :: bytes) =
    lift (Reader.number false (d :: bytes)) >>= fun r => .ok (.number r.1, r.2) := by
  have hne (b : UInt8) (hb : isDigit b = false) : d ≠ b := ne_of_isDigit hd hb
  rw [readWith, skipBlanks_cons (isBlank_of_isDigit hd)]
  simp only [isOptional, present, hne (byte 'n') (by decide), hne (byte 't') (by decide),
    hne (byte 'f') (by decide), hne (byte '-') (by decide), hd, if_true, if_false, Bool.false_and,
    Bool.false_eq_true]

theorem reads_int {i : Int} (hlow : -Int.pow 2 63 ≤ i) (hhigh : i < Int.pow 2 64) :
    Reads (readWith inner? .any) (.number (.int i)) := by
  intro rest hrest
  have hlow : -9223372036854775808 ≤ i := hlow
  have hhigh : i < 18446744073709551616 := hhigh
  have hsize : i.natAbs < UInt64.size := by
    have : UInt64.size = 18446744073709551616 := rfl
    omega
  by_cases hi : i < 0
  · have hread (bytes : Bytes) : readWith inner? .any (0x2D :: bytes) =
        lift (Reader.number true bytes) >>= fun r => .ok (.number r.1, r.2) := rfl
    have hinteger : integer true i.natAbs = .ok (.int i) := by
      have hpos : 0 < i.natAbs := by omega
      have hle : i.natAbs ≤ Nat.pow 2 63 := by
        have : Nat.pow 2 63 = 9223372036854775808 := rfl
        omega
      have hneg : -(i.natAbs : Int) = i := by omega
      simp only [integer, Bool.not_true, Bool.false_eq_true, if_false, hpos, hle, decide_true,
        Bool.and_self, if_true, hneg]
    have hwrite : ofChars (write (.number (.int i))) ++ rest =
        0x2D :: (digits i.natAbs ++ rest) := by
      simp only [write, Number.write, Ascii.showInt, hi, if_true, String.toList_append,
        Ascii.showNat, String.toList_ofList]
      rfl
    rw [hwrite, hread, number_digits hsize hrest, hinteger]
    rfl
  · have hinteger : integer false i.natAbs = .ok (.int i) := by
      have hnat : (i.natAbs : Int) = i := by omega
      simp only [integer, Bool.not_false, if_true, hnat]
    have hwrite : ofChars (write (.number (.int i))) ++ rest = digits i.natAbs ++ rest := by
      simp only [write, Number.write, Ascii.showInt, hi, if_false, Ascii.showNat,
        String.toList_ofList]
      rfl
    obtain ⟨d, more, hdigits⟩ := List.exists_cons_of_ne_nil (digits_ne_nil i.natAbs)
    have hd : isDigit d = true :=
      isDigit_of_mem_digits d (by rw [hdigits]; exact List.mem_cons_self)
    have hnumber : Reader.number false (digits i.natAbs ++ rest) =
        (integer false i.natAbs).map (·, rest) :=
      number_digits hsize hrest
    rw [hdigits] at hnumber
    rw [hwrite, hdigits, List.cons_append, readWith_digits hd, ← List.cons_append,
      hnumber, hinteger]
    rfl

theorem reads_number {x : Number} (h : Whole (.number x)) :
    Reads (readWith inner? .any) (.number x) := by
  cases x with
  | int i => exact reads_int h.1 h.2
  | double x => exact h.elim

/-! ## Lists and objects -/

theorem length_le_ofChars (cs : List Char) : cs.length ≤ (ofChars cs).length := by
  induction cs with
  | nil => exact Nat.le_refl 0
  | cons c cs ih =>
    have hsize : 0 < (String.utf8EncodeChar c).length := by
      rw [String.length_utf8EncodeChar]
      exact Char.utf8Size_pos c
    rw [Utf8.ofChars_cons, List.length_append, List.length_cons]
    omega

theorem length_le_writeItems (first : Bool) (items : List Json) :
    items.length ≤ (writeItems first items).length := by
  have hrest (items : List Json) : items.length < (writeItems false items).length := by
    induction items with
    | nil => simp [writeItems]
    | cons item items ih =>
      simp only [writeItems, List.length_append, List.length_cons, List.length_nil,
        Bool.false_eq_true, if_false]
      omega
  cases items with
  | nil => exact Nat.zero_le _
  | cons item items =>
    have hlt := hrest items
    simp only [writeItems, List.length_append, List.length_cons]
    omega

theorem length_le_writeEntries (first : Bool) (entries : List (String × Json)) :
    entries.length ≤ (writeEntries first entries).length := by
  induction entries generalizing first with
  | nil => exact Nat.zero_le _
  | cons entry entries ih =>
    have hle := ih false
    simp only [writeEntries, List.length_append, List.length_cons]
    omega

/-- The next item begins after the comma, if it is not the first. -/
theorem nextItem_writeItems {item : Json} (h : item.Whole) (first : Bool) (items : List Json)
    (rest : Bytes) :
    nextItem first (ofChars (writeItems first (item :: items)) ++ rest) =
      .ok (some (ofChars item.write ++ (ofChars (writeItems false items) ++ rest))) := by
  obtain ⟨b, more, hwrite, hblank, hbracket⟩ := exists_write h
  cases first with
  | true =>
    simp only [writeItems, if_true, List.nil_append, Utf8.ofChars_append, hwrite, List.cons_append,
      List.append_assoc, nextItem, skipBlanks_cons hblank, hbracket, if_false]
  | false =>
    have hcomma : skipBlanks (0x2C :: b :: (more ++ (ofChars (writeItems false items) ++ rest))) =
        0x2C :: b :: (more ++ (ofChars (writeItems false items) ++ rest)) := rfl
    have hclose : (0x2C : UInt8) ≠ byte ']' := by decide
    have hbytes : ofChars (writeItems false (item :: items)) ++ rest =
        0x2C :: b :: (more ++ (ofChars (writeItems false items) ++ rest)) := by
      simp only [writeItems, Bool.false_eq_true, if_false, Utf8.ofChars_append, hwrite,
        List.append_assoc]
      rfl
    have hthis : (0x2C : UInt8) = byte ',' := rfl
    rw [hbytes, nextItem, hcomma, hwrite]
    simp only [hclose, if_false, Bool.false_eq_true, ← hthis, if_true,
      skipBlanks_cons hblank, hbracket, List.cons_append]

theorem endsNumber_writeItems (items : List Json) (rest : Bytes) :
    EndsNumber (ofChars (writeItems false items) ++ rest) := by
  cases items with
  | nil => exact .cons (by decide) rest
  | cons item items => exact .cons (by decide) _

/-- Items are read back up to the closing bracket, if each one is. -/
theorem readItems_write {items : List Json} (hread : ∀ item ∈ items, Reads read item ∧ item.Whole)
    (rest : Bytes) {fuel : Nat} (hfuel : items.length < fuel) (i : Nat) :
    readItems read fuel i (ofChars (writeItems (i = 0) items) ++ rest) =
      .ok (items, 0x5D :: rest) := by
  induction items generalizing fuel i with
  | nil =>
    obtain ⟨fuel, rfl⟩ := Nat.exists_eq_succ_of_ne_zero (Nat.ne_of_gt hfuel)
    simp only [readItems, writeItems]
    rfl
  | cons item items ih =>
    obtain ⟨fuel, rfl⟩ :=
      Nat.exists_eq_succ_of_ne_zero (Nat.ne_of_gt (Nat.lt_of_le_of_lt (Nat.zero_le _) hfuel))
    obtain ⟨hitem, hwhole⟩ := hread item List.mem_cons_self
    have hrest :=
      ih (fun item' hmem => hread item' (List.mem_cons_of_mem item hmem))
        (Nat.lt_of_succ_lt_succ hfuel)
      (i + 1)
    have hvalue := hitem _ (endsNumber_writeItems items rest)
    rw [readItems, nextItem_writeItems hwhole]
    simp only [Nat.add_eq_zero_iff, Nat.one_ne_zero, and_false, decide_false] at hrest
    simp only [lift, bind, Except.bind, hvalue, within, hrest]

/-- A list is read back, if each of its items is. -/
theorem reads_array {inner : Shape → Read Json} {items : List Json}
    (hread : ∀ item ∈ items, Reads (inner .any) item ∧ item.Whole) :
    Reads (readWith (some inner) .any) (.array items) := by
  intro rest _
  have hopen (bytes : Bytes) : readWith (some inner) .any (0x5B :: bytes) =
      readList (inner .any) bytes := rfl
  have hwrite : ofChars (write (.array items)) ++ rest =
      0x5B :: (ofChars (writeItems true items) ++ rest) := by
    simp only [write, Utf8.ofChars_cons]
    rfl
  have hfuel : items.length < (ofChars (writeItems true items) ++ rest).length + 1 := by
    have hle := length_le_ofChars (writeItems true items)
    have hitems := length_le_writeItems true items
    simp only [List.length_append]
    omega
  have hitems := readItems_write hread rest hfuel 0
  have hclose : closeList (0x5D :: rest) = .ok rest := rfl
  rw [hwrite, hopen, readList]
  simp only [decide_true] at hitems
  simp only [hitems, hclose, lift, bind, Except.bind]

/-- The next key begins after the comma, if it is not the first. -/
theorem nextKey_writeEntries (key : String) (value : Json) (first : Bool)
    (entries : List (String × Json)) (rest : Bytes) :
    nextKey first (ofChars (writeEntries first ((key, value) :: entries)) ++ rest) =
      .ok (some (ofChars (key.toList.flatMap escape) ++ 0x22 ::
        (0x3A :: (ofChars value.write ++ (ofChars (writeEntries false entries) ++ rest))))) := by
  cases first <;> simp only [writeEntries, writeString, Utf8.ofChars_append, Utf8.ofChars_cons,
    List.append_assoc] <;> rfl

theorem endsNumber_writeEntries (entries : List (String × Json)) (rest : Bytes) :
    EndsNumber (ofChars (writeEntries false entries) ++ rest) := by
  cases entries with
  | nil => exact .cons (by decide) rest
  | cons entry entries => exact .cons (by decide) _

/-- Members are read back up to the closing brace, if the value of each one is. -/
theorem readMembers_write {entries : List (String × Json)}
    (hread : ∀ entry ∈ entries, Reads read entry.2) (rest : Bytes) {fuel : Nat}
    (hfuel : entries.length < fuel) (first : Bool) (before : List (String × Json)) :
    readMembers read fuel first before (ofChars (writeEntries first entries) ++ rest) =
      .ok (entries.foldl (fun es e => Entries.insert e.1 e.2 es) before, 0x7D :: rest) := by
  induction entries generalizing fuel first before with
  | nil =>
    obtain ⟨fuel, rfl⟩ := Nat.exists_eq_succ_of_ne_zero (Nat.ne_of_gt hfuel)
    cases first <;> rfl
  | cons entry entries ih =>
    obtain ⟨key, value⟩ := entry
    obtain ⟨fuel, rfl⟩ :=
      Nat.exists_eq_succ_of_ne_zero (Nat.ne_of_gt (Nat.lt_of_le_of_lt (Nat.zero_le _) hfuel))
    have hrest :=
      ih (fun entry hmem => hread entry (List.mem_cons_of_mem _ hmem))
        (Nat.lt_of_succ_lt_succ hfuel)
      false (Entries.insert key value before)
    have hvalue := hread (key, value) List.mem_cons_self _ (endsNumber_writeEntries entries rest)
    have hcolon (bytes : Bytes) : colon (0x3A :: bytes) = .ok bytes := rfl
    rw [readMembers, nextKey_writeEntries]
    simp only [liftUnder, lift, bind, Except.bind, string_ofChars, hcolon, hvalue, within, hrest,
      List.foldl_cons]

/-- An object in key order is read back, if each of its values is. -/
theorem reads_object {inner : Shape → Read Json} {entries : List (String × Json)}
    (hsorted : Entries.Sorted entries) (hread : ∀ entry ∈ entries, Reads (inner .any) entry.2) :
    Reads (readWith (some inner) .any) (.object entries) := by
  intro rest _
  have hopen (bytes : Bytes) : readWith (some inner) .any (0x7B :: bytes) =
      readObject (inner .any) bytes := rfl
  have hwrite : ofChars (write (.object entries)) ++ rest =
      0x7B :: (ofChars (writeEntries true entries) ++ rest) := by
    simp only [write, Utf8.ofChars_cons]
    rfl
  have hfuel : entries.length < (ofChars (writeEntries true entries) ++ rest).length + 1 := by
    have hle := length_le_ofChars (writeEntries true entries)
    have hentries := length_le_writeEntries true entries
    simp only [List.length_append]
    omega
  have hmembers := readMembers_write hread rest hfuel true []
  have hclose : closeObject (0x7D :: rest) = rest := rfl
  have hkept := Entries.ofList_of_sorted hsorted
  rw [Entries.ofList] at hkept
  rw [hwrite, hopen, readObject]
  simp only [hmembers, hclose, hkept, bind, Except.bind]

/-! ## Whole values -/

/-- A value is read back where it may be nested as deep as it is. -/
theorem reads_readNested {n : Nat} {v : Json} (h : Plain n v) : Reads (readNested n .any) v := by
  induction n generalizing v with
  | zero =>
    show Reads (readWith none .any) v
    cases v with
    | null => exact reads_null
    | bool b => exact reads_bool b
    | string s => exact reads_string s
    | array items => exact absurd h.depth_le (Nat.not_succ_le_zero _)
    | object entries => exact absurd h.depth_le (Nat.not_succ_le_zero _)
    | number x => exact reads_number h.whole
  | succ n ih =>
    show Reads (readWith (some (readNested n)) .any) v
    cases v with
    | null => exact reads_null
    | bool b => exact reads_bool b
    | string s => exact reads_string s
    | array items => exact reads_array fun item hmem => ⟨ih (h.item hmem), (h.item hmem).whole⟩
    | object entries => exact reads_object h.ordered.1 fun entry hmem => ih (h.value hmem)
    | number x => exact reads_number h.whole

end Shape

/-- A value that is nested at most 127 deep is read back from its text. -/
theorem parse?_bytes {v : Json} (h : Plain Shape.maxDepth v) : parse? v.bytes = some v := by
  have hread := Shape.reads_readNested h [] .nil
  rw [List.append_nil] at hread
  rw [parse?, bytes, text, Utf8.encode_ofList, hread]
  rfl

end Courier.Json
