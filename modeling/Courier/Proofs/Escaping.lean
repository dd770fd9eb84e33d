import Courier.Proofs.Expanding
/-
What the values of a template can do to it. A value that is inserted encoded is
written in characters that mean nothing in a URL and in escapes
(`Percent.escaped_encode`), and can be read back (`Percent.decode_encode`). So no
two values make the same of a template, and none brings in a character that
separates the parts of a URL (`Url.expand_escapes`).
-/
namespace Courier

/-! ## Escaped text -/

namespace Percent

/-- A letter, a digit or one of the signs that mean nothing anywhere in a URL. -/
def Unreserved (c : Char) : Prop := Ascii.isAlphanumeric c = true ∨ c ∈ ['-', '.', '_', '~']

/-- `Escaped text`: the text is of such characters and of escapes, a percent sign and two
hexadecimal digits. -/
inductive Escaped : List Char → Prop
  | nil : Escaped []
  | kept {c text} : Unreserved c → Escaped text → Escaped (c :: text)
  | escape {high low text} :
      (Ascii.hexValue? high).isSome → (Ascii.hexValue? low).isSome → Escaped text →
      Escaped ('%' :: high :: low :: text)

theorem unreserved_of_isUnreserved {b : UInt8} (h : isUnreserved b = true) :
    Unreserved (Char.ofNat b.toNat) := by
  simpa [isUnreserved, isAlphanumeric, isOneOf, Unreserved] using h

/-- Hexadecimal digits are digits and letters. -/
theorem unreserved_of_hexValue? {c : Char} (h : (Ascii.hexValue? c).isSome) : Unreserved c := by
  have hletter : 'f' ≤ 'z' ∧ 'F' ≤ 'Z' := by decide
  simp only [Ascii.hexValue?, Bool.and_eq_true, decide_eq_true_eq] at h
  simp only [Unreserved, Ascii.isAlphanumeric, Ascii.isLetter, Ascii.isDigit, Bool.or_eq_true,
    Bool.and_eq_true, decide_eq_true_eq]
  split at h
  · next hdigit => exact .inl (.inr hdigit)
  split at h
  · next hlower => exact .inl (.inl (.inl ⟨hlower.1, Char.le_trans hlower.2 hletter.1⟩))
  split at h
  · next hupper => exact .inl (.inl (.inr ⟨hupper.1, Char.le_trans hupper.2 hletter.2⟩))
  · cases h

theorem Escaped.mem {text : List Char} (h : Escaped text) {c : Char} (hc : c ∈ text) :
    Unreserved c ∨ c = '%' := by
  induction h with
  | nil => cases hc
  | kept hkept _ ih =>
    rcases List.mem_cons.mp hc with rfl | hc
    · exact .inl hkept
    · exact ih hc
  | escape hhigh hlow _ ih =>
    simp only [List.mem_cons] at hc
    rcases hc with rfl | rfl | rfl | hc
    · exact .inr rfl
    · exact .inl (unreserved_of_hexValue? hhigh)
    · exact .inl (unreserved_of_hexValue? hlow)
    · exact ih hc

theorem escaped_encode (bytes : Bytes) : Escaped (encode isUnreserved bytes) := by
  have hdigit : ∀ n < 16, (Ascii.hexValue? (Ascii.hexUpper n)).isSome := by decide
  unfold encode
  induction bytes with
  | nil => exact .nil
  | cons b bytes ih =>
    have hb := b.toNat_lt
    rw [List.flatMap_cons]
    split
    · next hkept => exact .kept (unreserved_of_isUnreserved hkept) ih
    · exact .escape (hdigit _ (by omega)) (hdigit _ (by omega)) ih

/-- A byte that is kept is a character of ASCII, and no percent sign. -/
theorem isUnreserved_plain {b : UInt8} (h : isUnreserved b = true) : b.toNat < 0x80 ∧ b ≠ 0x25 := by
  have hall : ∀ n < 256, isUnreserved (UInt8.ofNat n) = true → n < 0x80 ∧ UInt8.ofNat n ≠ 0x25 := by
    decide +kernel
  have hb := hall b.toNat b.toNat_lt
  rw [UInt8.ofNat_toNat] at hb
  exact hb h

/-- What is encoded is read back byte by byte. -/
theorem decode_encode (bytes : Bytes) :
    decode (Utf8.ofChars (encode isUnreserved bytes)) = bytes := by
  unfold encode
  induction bytes with
  | nil => rfl
  | cons b bytes ih =>
    rw [List.flatMap_cons, Utf8.ofChars_append]
    split
    · next hkept =>
      obtain ⟨hascii, hpercent⟩ := isUnreserved_plain hkept
      rw [Utf8.ofChars_byte hascii, List.singleton_append, decode_cons_of_ne hpercent, ih]
    · have hascii : ∀ c ∈ escape b, c.toNat < 0x80 := by
        intro c hc
        exact (escape_plain b.toNat_lt (by rwa [UInt8.ofNat_toNat])).1
      rw [Utf8.ofChars_of_ascii hascii, decode_escape, ih]

theorem decode_encodeText (s : String) :
    Utf8.decode? (decode (Utf8.encode (encodeText isUnreserved s))) = some s := by
  rw [encodeText, Utf8.encode_ofList, decode_encode, Utf8.decode?_encode]

theorem encodeText_injective {s s' : String}
    (h : encode isUnreserved (Utf8.encode s) = encode isUnreserved (Utf8.encode s')) : s = s' := by
  have heq := decode_encodeText s
  rw [encodeText, h, ← encodeText, decode_encodeText] at heq
  exact (Option.some.inj heq).symm

end Percent

namespace Url

variable {parameters : SortedMap String} {name : List Char} {value value' : String}

/-! ## One value for another -/

/-- Lists that are put together alike from pieces none of which is longer are put together from the
same pieces. -/
theorem eq_of_flatMap_eq {α β : Type} {f g : α → List β} {l : List α}
    (hle : ∀ a ∈ l, (f a).length ≤ (g a).length) (h : l.flatMap f = l.flatMap g) :
    ∀ a ∈ l, f a = g a := by
  have hlength (l : List α) (hle : ∀ a ∈ l, (f a).length ≤ (g a).length) :
      (l.flatMap f).length ≤ (l.flatMap g).length := by
    induction l with
    | nil => exact Nat.le_refl 0
    | cons a l ih =>
      obtain ⟨hhead, hrest⟩ := List.forall_mem_cons.mp hle
      simp only [List.flatMap_cons, List.length_append]
      exact Nat.add_le_add hhead (ih hrest)
  induction l with
  | nil => exact fun a hmem => nomatch hmem
  | cons a l ih =>
    obtain ⟨hhead, hrest⟩ := List.forall_mem_cons.mp hle
    rw [List.flatMap_cons, List.flatMap_cons] at h
    have hsame : (f a).length = (g a).length := by
      have htotal := congrArg List.length h
      have hlater := hlength l hrest
      simp only [List.length_append] at htotal
      omega
    obtain ⟨hfirst, h⟩ := List.append_inj h hsame
    exact List.forall_mem_cons.mpr ⟨hfirst, ih hrest h⟩

theorem Segment.value_encoded (h : parameters.get? (String.ofList name) = some value) :
    (encoded name).value parameters = Percent.encode Percent.isUnreserved (Utf8.encode value) := by
  rw [Segment.value, h]

/-- The value of a name shows in its own placeholder only. -/
theorem Segment.value_insert_other {s : Segment} (hs : s.name? ≠ some name) :
    s.value (parameters.insert (String.ofList name) value) = s.value parameters := by
  have hget {key : List Char} (hkey : key ≠ name) :
      (parameters.insert (String.ofList name) value).get? (String.ofList key) =
          parameters.get? (String.ofList key) := by
    refine SortedMap.get?_insert_other _ (fun heq => hkey ?_) _
    rw [← String.toList_ofList (l := key), heq, String.toList_ofList]
  cases s with
  | literal literal => rfl
  | encoded key => rw [Segment.value, Segment.value, hget fun heq => hs (congrArg some heq)]
  | raw key => rw [Segment.value, Segment.value, hget fun heq => hs (congrArg some heq)]

/-- Two values that make the same of a template are the same. -/
theorem expand_insert_injective {template : String} {r : Reading} (hr : r.Of template)
    (hencoded : .encoded name ∈ r.segments) (hraw : .raw name ∉ r.segments)
    (h : expand (parameters.insert (String.ofList name) value) template =
      expand (parameters.insert (String.ofList name) value') template) : value = value' := by
  have hvalue (value : String) :
      (Segment.encoded name).value (parameters.insert (String.ofList name) value) =
      Percent.encode Percent.isUnreserved (Utf8.encode value) :=
    Segment.value_encoded (SortedMap.get?_insert_self _ _ _)
  have hshorter {value value' : String}
      (hle : (Percent.encode Percent.isUnreserved (Utf8.encode value)).length ≤
        (Percent.encode Percent.isUnreserved (Utf8.encode value')).length)
      (h : expand (parameters.insert (String.ofList name) value) template =
        expand (parameters.insert (String.ofList name) value') template) : value = value' := by
    rw [expand_reading hr, expand_reading hr, String.ofList_inj, Reading.value, Reading.value] at h
    refine Percent.encodeText_injective ?_
    rw [← hvalue, ← hvalue]
    refine eq_of_flatMap_eq (fun s hs => ?_) (List.append_cancel_right h) _ hencoded
    by_cases hname : s.name? = some name
    · cases s with
      | literal literal => cases hname
      | encoded key =>
        cases hname
        rw [hvalue, hvalue]
        exact hle
      | raw key =>
        cases hname
        exact absurd hs hraw
    · rw [Segment.value_insert_other hname, Segment.value_insert_other hname]
  rcases Nat.le_total (Percent.encode Percent.isUnreserved (Utf8.encode value)).length
    (Percent.encode Percent.isUnreserved (Utf8.encode value')).length with hle | hle
  · exact hshorter hle h
  · exact (hshorter hle h.symm).symm

/-! ## Separators -/

/-- Literal text, or a placeholder whose value is known and is inserted encoded. -/
def Segment.Fills (parameters : SortedMap String) : Segment → Prop
  | literal _ => True
  | encoded name => (parameters.get? (String.ofList name)).isSome
  | raw _ => False

/-- What stands outside placeholders. -/
def Segment.outside : Segment → List Char
  | literal text => text
  | encoded _ => []
  | raw _ => []

/-- The text outside placeholders, with what is never closed. -/
def Reading.outside (r : Reading) : List Char := r.segments.flatMap Segment.outside ++ r.tail

theorem Segment.count_value {s : Segment} (hs : s.Fills parameters) {c : Char}
    (hc : ¬ Percent.Unreserved c) (hpercent : c ≠ '%') :
    (s.value parameters).count c = s.outside.count c := by
  cases s with
  | literal literal => rfl
  | encoded name =>
    obtain ⟨value, hvalue⟩ := Option.isSome_iff_exists.mp hs
    rw [value_encoded hvalue, outside, List.count_nil, List.count_eq_zero]
    intro hmem
    exact ((Percent.escaped_encode _).mem hmem).elim hc hpercent
  | raw name => exact hs.elim

/-- Neither letters, digits nor signs that a value may bring in come from anywhere but the
template. -/
theorem Reading.count_value {r : Reading} (hr : ∀ s ∈ r.segments, s.Fills parameters) {c : Char}
    (hc : ¬ Percent.Unreserved c) (hpercent : c ≠ '%') :
    (r.value parameters).count c = r.outside.count c := by
  rw [value, outside, List.count_append, List.count_append, List.count_flatMap, List.count_flatMap]
  congr 2
  exact List.map_congr_left fun s hs => Segment.count_value (hr s hs) hc hpercent

/-- A value is inserted as text of unreserved characters and escapes, which can be read back,
wherever its placeholder stands; so different values make different text of a template. Where all
placeholders have values that are inserted in this way, whatever they are, the characters that give
a URL its shape are those of the template. -/
theorem expand_escapes :
    (∀ value : String, Percent.Escaped (Percent.encodeText Percent.isUnreserved value).toList ∧
      Utf8.decode? (Percent.decode (Utf8.encode (Percent.encodeText Percent.isUnreserved value))) =
        some value) ∧
    (∀ (parameters : SortedMap String) (name : List Char) (value : String),
      (Segment.encoded name).Proper →
      parameters.get? (String.ofList name) = some value →
        ∀ (before : List Segment) (after : String), (∀ s ∈ before, s.Proper) →
          expand parameters (Segment.written (before ++ [.encoded name]) ++ after) =
            expand parameters (Segment.written before) ++
              Percent.encodeText Percent.isUnreserved value ++ expand parameters after) ∧
    (∀ (parameters : SortedMap String) (template : String) (r : Reading) (name : List Char)
        (value value' : String), r.Of template → .encoded name ∈ r.segments →
      .raw name ∉ r.segments → value ≠ value' →
        expand (parameters.insert (String.ofList name) value) template ≠
          expand (parameters.insert (String.ofList name) value') template) ∧
    ∀ (parameters : SortedMap String) (template : String) (r : Reading), r.Of template →
      (∀ s ∈ r.segments, s.Fills parameters) →
        ∀ c ∈ ['/', '?', '#', '&', '=', '@', ':', '\x7b', '\x7d'],
          (expand parameters template).toList.count c = r.outside.count c := by
  refine ⟨fun value => ⟨?_, Percent.decode_encodeText value⟩, ?_, ?_, ?_⟩
  · rw [Percent.encodeText, String.toList_ofList]
    exact Percent.escaped_encode _
  · intro parameters name value hname hvalue before after hbefore
    have hsegments : ∀ s ∈ before ++ [.encoded name], s.Proper :=
      List.forall_mem_append.mpr ⟨hbefore, List.forall_mem_singleton.mpr hname⟩
    rw [expand, String.toList_append, Segment.written, String.toList_ofList,
      expandFrom_segments hsegments, List.flatMap_append, List.flatMap_singleton,
      Segment.value_encoded hvalue, expand_written hbefore, expand,
      Percent.encodeText, ← String.ofList_append, ← String.ofList_append]
  · intro parameters template r name value value' hr hencoded hraw hne heq
    exact hne (expand_insert_injective hr hencoded hraw heq)
  · intro parameters template r hr hfills c hc
    have hreserved : ∀ c ∈ ['/', '?', '#', '&', '=', '@', ':', '\x7b', '\x7d'],
        ¬ Percent.Unreserved c ∧ c ≠ '%' := by
      refine List.forall_iff_forall_mem.mp ?_
      simp only [List.Forall, Percent.Unreserved]
      decide
    obtain ⟨hunreserved, hpercent⟩ := hreserved c hc
    rw [expand_reading hr, String.toList_ofList, Reading.count_value hfills hunreserved hpercent]

/-- A value that would change the path, the query and the placeholders if it were inserted as it
is. -/
theorem expand_escapes_separators :
    let value := "a/b?c&é\x7bq\x7d%2F"
    let parameters : SortedMap String := .ofList [("q", value)]
    let before : List Segment := [.literal "/find?q=".toList]
    let r : Reading := ⟨before ++ [.encoded "q".toList, .literal "#".toList], some "/q\x7b".toList⟩
    let template := "/find?q=\x7bq\x7d#\x7b/q\x7b"
    ((Segment.encoded "q".toList).Proper ∧ parameters.get? (String.ofList "q".toList) = some value ∧
      (∀ s ∈ before, s.Proper) ∧
      expand parameters (Segment.written (before ++ [.encoded "q".toList]) ++ "#\x7b/q\x7b") =
        "/find?q=" ++ "a%2Fb%3Fc%26%C3%A9%7Bq%7D%252F" ++ "#\x7b/q\x7b") ∧
    (r.Of template ∧ .encoded "q".toList ∈ r.segments ∧ .raw "q".toList ∉ r.segments ∧
      value ≠ "a/b" ∧
      expand (parameters.insert (String.ofList "q".toList) value) template ≠
        expand (parameters.insert (String.ofList "q".toList) "a/b") template) ∧
    ((∀ s ∈ r.segments, s.Fills parameters) ∧ (expand parameters template).toList.count '/' = 2 ∧
      (expand parameters template).toList.count '\x7b' = 2) := by
  intro value parameters before r template
  have hname : (Segment.encoded "q".toList).Proper := by decide
  have hvalue : parameters.get? (String.ofList "q".toList) = some value := by decide
  have hbefore : ∀ s ∈ before, s.Proper := by decide
  have hr : r.Of template := by
    refine ⟨⟨by decide, fun text htext => ?_, by decide, by decide⟩, by decide⟩
    cases htext
    decide
  have hencoded : .encoded "q".toList ∈ r.segments := by decide
  have hraw : .raw "q".toList ∉ r.segments := by decide
  have hne : value ≠ "a/b" := by decide
  have hfills : ∀ s ∈ r.segments, s.Fills parameters := by
    have hall : (.encoded "q".toList : Segment).Fills parameters := Option.isSome_of_eq_some hvalue
    simp only [r, before, List.cons_append, List.nil_append, List.forall_mem_cons]
    exact ⟨trivial, hall, trivial, fun _ hmem => nomatch hmem⟩
  have hcount := expand_escapes.2.2.2 parameters template r hr hfills
  refine ⟨⟨hname, hvalue, hbefore, ?_⟩, ⟨hr, hencoded, hraw, hne, ?_⟩, hfills, ?_, ?_⟩
  · have hplaced :=
      expand_escapes.2.1 parameters "q".toList value hname hvalue before "#\x7b/q\x7b" hbefore
    have hencodes : Percent.encodeText Percent.isUnreserved value =
        "a%2Fb%3Fc%26%C3%A9%7Bq%7D%252F" := by decide +kernel
    have hkept : expand parameters (Segment.written before) = "/find?q=" := by decide
    have hafter : expand parameters "#\x7b/q\x7b" = "#\x7b/q\x7b" := by decide
    rw [hplaced, hencodes, hkept, hafter]
  · exact expand_escapes.2.2.1 parameters template r "q".toList value "a/b" hr hencoded hraw hne
  · exact (hcount '/' (by decide)).trans (by decide)
  · exact (hcount '\x7b' (by decide)).trans (by decide)

end Url

end Courier
