import Courier.Options
import Courier.Proofs.Maps
/-
The values of headers by name, whatever the spelling. Of several spellings of
one name the last counts (`Options.spelt?`); a header that is put in place of
them stands there under the name in lower case, and every other name keeps its
headers as they were (`get?_putHeader`). With whole lists of headers the last
of each name is found, else what was there (`spelt?_putHeaders`).
-/
namespace Courier

/-! ## Cases of letters -/

namespace Ascii

/-- A character beyond ASCII is left as it is. -/
theorem lowerChar_of_le {c : Char} (h : 0x80 ≤ c.toNat) : lowerChar c = c := by
  have hz : ¬ c ≤ 'Z' := by
    rw [Char.le_def, UInt32.le_iff_toNat_le]
    show ¬ c.toNat ≤ 90
    omega
  simp [lowerChar, hz]

theorem lowerChar_lowerChar (c : Char) : lowerChar (lowerChar c) = lowerChar c := by
  have hascii :
      ∀ n < 128, lowerChar (lowerChar (Char.ofNat n)) = lowerChar (Char.ofNat n) := by decide
  by_cases h : c.toNat < 128
  · rw [← Char.ofNat_toNat c]
    exact hascii c.toNat h
  · have hself : lowerChar c = c := lowerChar_of_le (Nat.le_of_not_lt h)
    rw [hself, hself]

@[simp] theorem lower_lower (s : String) : lower (lower s) = lower s := by
  rw [lower, lower, String.toList_ofList, List.map_map]
  exact congrArg String.ofList (List.map_congr_left fun c _ => lowerChar_lowerChar c)

end Ascii

namespace Options

variable {name key : String} {headers : List (String × String)}

/-! ## Looking up a name -/

/-- The last of the values that headers have under the spellings of a name in lower case. -/
def spelt? (name : String) (headers : List (String × String)) : Option String :=
  Entries.last? name (headers.map fun header => (Ascii.lower header.1, header.2))

theorem spelt?_cons (name : String) (header : String × String) (headers : List (String × String)) :
    spelt? name (header :: headers) =
      (spelt? name headers).or (if name = Ascii.lower header.1 then some header.2 else none) := by
  rw [spelt?, List.map_cons, Entries.last?_cons]
  rfl

theorem spelt?_eq_none :
    spelt? name headers = none ↔ ∀ header ∈ headers, Ascii.lower header.1 ≠ name := by
  induction headers with
  | nil => simp [spelt?, Entries.last?]
  | cons header headers ih =>
    rw [spelt?_cons, Option.or_eq_none_iff, ih, List.forall_mem_cons, and_comm]
    simp [eq_comm]

theorem spelt?_insert_self (h : spelt? (Ascii.lower key) headers = none) (value : String) :
    spelt? (Ascii.lower key) (Entries.insert key value headers) = some value := by
  induction headers with
  | nil => rw [Entries.insert, spelt?_cons, if_pos rfl]; rfl
  | cons header headers ih =>
    have hrest : spelt? (Ascii.lower key) headers = none := by
      rw [spelt?_cons, Option.or_eq_none_iff] at h
      exact h.1
    have hne : Ascii.lower header.1 ≠ Ascii.lower key :=
      spelt?_eq_none.mp h header List.mem_cons_self
    have hkey : key ≠ header.1 := fun heq => hne (congrArg Ascii.lower heq.symm)
    rw [Entries.insert, if_neg hkey]
    split
    · rw [spelt?_cons, h, if_pos rfl]
      rfl
    · rw [spelt?_cons, ih hrest]
      rfl

theorem spelt?_insert_other (hname : Ascii.lower key ≠ name) (value : String)
    (headers : List (String × String)) :
    spelt? name (Entries.insert key value headers) = spelt? name headers := by
  induction headers with
  | nil => rw [Entries.insert, spelt?_cons, if_neg (Ne.symm hname)]; rfl
  | cons header headers ih =>
    rw [Entries.insert]
    split
    · rw [spelt?_cons, if_neg (Ne.symm hname), Option.or_none]
    split
    · next heq => rw [spelt?_cons, spelt?_cons, ← heq, if_neg (Ne.symm hname),
        if_neg (Ne.symm hname)]
    · rw [spelt?_cons, spelt?_cons, ih]

/-! ## Putting headers in -/

/-- Puts headers in, one after another. -/
def putHeaders (headers : SortedMap String) (later : List (String × String)) : SortedMap String :=
  later.foldl (fun headers header => putHeader headers header.1 header.2) headers

theorem mem_dropHeader {m : SortedMap String} {header : String × String} :
    header ∈ (dropHeader m name).entries ↔
      header ∈ m.entries ∧ Ascii.lower header.1 ≠ Ascii.lower name := by
  simp [dropHeader, SortedMap.filter, Ascii.sameIgnoringCase]

theorem spelt?_dropHeader_self (m : SortedMap String) (name : String) :
    spelt? (Ascii.lower name) (dropHeader m name).entries = none :=
  spelt?_eq_none.mpr fun _ hmem => (mem_dropHeader.mp hmem).2

theorem spelt?_dropHeader_other (hname : Ascii.lower key ≠ name) (m : SortedMap String) :
    spelt? name (dropHeader m key).entries = spelt? name m.entries := by
  show spelt? name (m.entries.filter fun header => !Ascii.sameIgnoringCase header.1 key) = _
  induction m.entries with
  | nil => rfl
  | cons header headers ih =>
    by_cases hsame : Ascii.lower header.1 = Ascii.lower key
    · rw [List.filter_cons_of_neg (by simp [Ascii.sameIgnoringCase, hsame]), ih, spelt?_cons, hsame,
        if_neg (Ne.symm hname), Option.or_none]
    · rw [List.filter_cons_of_pos (by simp [Ascii.sameIgnoringCase, hsame]), spelt?_cons,
        spelt?_cons, ih]

/-- A header that was put in is the only one of its name, and no other name is touched. -/
theorem spelt?_putHeader (m : SortedMap String) (key value name : String) :
    spelt? name (putHeader m key value).entries =
      if name = Ascii.lower key then some value else spelt? name m.entries := by
  show spelt? name (Entries.insert (Ascii.lower key) value (dropHeader m key).entries) = _
  by_cases hname : name = Ascii.lower key
  · have hdropped : spelt? (Ascii.lower (Ascii.lower key)) (dropHeader m key).entries = none := by
      rw [Ascii.lower_lower]
      exact spelt?_dropHeader_self m key
    have hself := spelt?_insert_self hdropped value
    rw [if_pos hname, hname]
    rwa [Ascii.lower_lower] at hself
  · have hother : Ascii.lower (Ascii.lower key) ≠ name := by
      rw [Ascii.lower_lower]
      exact Ne.symm hname
    rw [spelt?_insert_other hother, spelt?_dropHeader_other (Ne.symm hname), if_neg hname]

/-- After headers were put in, the last of a name is what is found there, else what there was. -/
theorem spelt?_putHeaders (m : SortedMap String) (headers : List (String × String))
    (name : String) :
    spelt? name (putHeaders m headers).entries =
      (spelt? name headers).or (spelt? name m.entries) := by
  induction headers generalizing m with
  | nil => rfl
  | cons header headers ih =>
    show spelt? name (putHeaders (putHeader m header.1 header.2) headers).entries = _
    rw [ih, spelt?_putHeader, spelt?_cons, Option.or_assoc]
    by_cases hname : name = Ascii.lower header.1
    · rw [if_pos hname, if_pos hname]
      rfl
    · rw [if_neg hname, if_neg hname]
      rfl

/-! ## The headers that result -/

theorem get?_dropHeader (m : SortedMap String) (name key : String) :
    (dropHeader m name).get? key =
      if Ascii.lower key = Ascii.lower name then none else m.get? key := by
  have hmem (value : String) : (dropHeader m name).get? key = some value ↔
      m.get? key = some value ∧ Ascii.lower key ≠ Ascii.lower name := by
    rw [← SortedMap.mem_entries, mem_dropHeader, SortedMap.mem_entries]
  refine Option.ext fun value => ?_
  rw [hmem]
  split
  · next heq => simp [heq]
  · next hne => simp [hne]

/-- Under the spellings of its name a header that was put in leaves nothing but itself, in lower
case. -/
theorem get?_putHeader (m : SortedMap String) (name value key : String) :
    (putHeader m name value).get? key =
    if Ascii.lower key = Ascii.lower name then (if key = Ascii.lower key then some value else none)
    else m.get? key := by
  by_cases hkey : key = Ascii.lower name
  · have hlower : Ascii.lower key = Ascii.lower name := by rw [hkey, Ascii.lower_lower]
    rw [if_pos hlower, if_pos (hkey.trans hlower.symm), hkey]
    exact SortedMap.get?_insert_self _ _ _
  · have hput : (putHeader m name value).get? key = (dropHeader m name).get? key :=
      SortedMap.get?_insert_other _ hkey value
    rw [hput, get?_dropHeader]
    by_cases hlower : Ascii.lower key = Ascii.lower name
    · have hcase : key ≠ Ascii.lower key := fun h => hkey (h.trans hlower)
      rw [if_pos hlower, if_pos hlower, if_neg hcase]
    · rw [if_neg hlower, if_neg hlower]

theorem get?_putHeaders (m : SortedMap String) (headers : List (String × String)) (key : String) :
    (putHeaders m headers).get? key =
      match spelt? (Ascii.lower key) headers with
      | some value => if key = Ascii.lower key then some value else none
      | none => m.get? key := by
  induction headers generalizing m with
  | nil => rfl
  | cons header headers ih =>
    show (putHeaders (putHeader m header.1 header.2) headers).get? key = _
    rw [ih, spelt?_cons, get?_putHeader]
    cases spelt? (Ascii.lower key) headers with
    | some value => rfl
    | none => by_cases hname : Ascii.lower key = Ascii.lower header.1 <;> simp [hname]

/-- Headers that are put in one list after another can be put together first. -/
theorem putHeaders_putHeaders (a b c : SortedMap String) :
    putHeaders (putHeaders a b.entries) c.entries =
      putHeaders a (putHeaders b c.entries).entries := by
  refine SortedMap.ext_get? fun key => ?_
  rw [get?_putHeaders, get?_putHeaders, get?_putHeaders, spelt?_putHeaders]
  cases spelt? (Ascii.lower key) c.entries <;> rfl

end Options

end Courier
