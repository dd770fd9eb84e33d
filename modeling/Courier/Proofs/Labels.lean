import Courier.Proofs.Boundary
import Courier.Proofs.ReadingBack.Utf8
import Courier.Proofs.Spellings
/-
The label of a request: the media type in its `content-type` field. It is what
the options say (`Options.label?`), whatever the spelling of the name, else
what the body calls for; parts of a form are labelled in any case
(`Request.build_parts`, `Request.build_form`, `Request.build_json`,
`Request.build_raw`).

By the label a request is taken apart again: `Request.data_of_form`,
`Request.data_of_json`, `Request.data_of_parts`, `Request.data_of_other`.
-/
namespace Courier

/-! ## Header fields -/

namespace Headers

variable {h : Headers} {name other : String}

/-- The values of a field, if it is there at all. -/
def values? (h : Headers) (name : String) : Option (List Bytes) :=
  (h.fields.find? (·.1 == name)).map (·.2)

theorem contains_eq (h : Headers) (name : String) : h.contains name = (h.values? name).isSome := by
  unfold contains values?
  induction h.fields with
  | nil => rfl
  | cons field fields ih =>
    rw [List.any_cons, List.find?_cons, ih]
    cases field.1 == name <;> rfl

theorem valuesOf_eq (h : Headers) (name : String) : h.valuesOf name = (h.values? name).getD [] := by
  unfold valuesOf values?
  cases h.fields.find? (·.1 == name) <;> rfl

theorem values?_insert_self (h : Headers) (name : String) (value : Bytes) :
    (h.insert name value).values? name = some [value] := by
  have hmap (fields : List (String × List Bytes)) (hany : fields.any (·.1 == name) = true) :
      (fields.map fun field => if field.1 == name then (name, [value]) else field).find?
        (·.1 == name) = some (name, [value]) := by
    induction fields with
    | nil => simp at hany
    | cons field fields ih =>
      rw [List.map_cons, List.find?_cons]
      by_cases hname : field.1 = name
      · simp [hname]
      · have hrest : fields.any (·.1 == name) = true := by simpa [hname] using hany
        have hne : (field.1 == name) = false := by simpa using hname
        simp only [hne, Bool.false_eq_true, if_false]
        exact ih hrest
  unfold insert values?
  split
  · next hc => rw [hmap h.fields hc]; rfl
  · next hc =>
    have hnone : h.fields.find? (·.1 == name) = none := by
      rw [List.find?_eq_none]
      exact fun field hmem hname => hc (List.any_eq_true.mpr ⟨field, hmem, hname⟩)
    simp [List.find?_append, hnone]

theorem values?_insert_other (hne : other ≠ name) (h : Headers) (value : Bytes) :
    (h.insert name value).values? other = h.values? other := by
  have hother : (name == other) = false := by simpa using Ne.symm hne
  have hmap (fields : List (String × List Bytes)) :
      (fields.map fun field => if field.1 == name then (name, [value]) else field).find?
        (·.1 == other) = fields.find? (·.1 == other) := by
    induction fields with
    | nil => rfl
    | cons field fields ih =>
      rw [List.map_cons, List.find?_cons, List.find?_cons]
      by_cases hname : field.1 = name
      · simp only [hname, beq_self_eq_true, if_true, hother]
        exact ih
      · have hfield : (field.1 == name) = false := by simpa using hname
        simp only [hfield, Bool.false_eq_true, if_false, ih]
  unfold insert values?
  split
  · rw [hmap]
  · rw [List.find?_append, List.find?_singleton, hother]
    simp

theorem values?_insertDefault (h : Headers) (name : String) (value : Bytes) :
    (h.insertDefault name value).values? name = some ((h.values? name).getD [value]) := by
  rw [insertDefault, contains_eq]
  cases hv : h.values? name with
  | none => exact values?_insert_self h name value
  | some values => exact hv

theorem values?_insertDefault_other (hne : other ≠ name) (h : Headers) (value : Bytes) :
    (h.insertDefault name value).values? other = h.values? other := by
  unfold insertDefault
  split
  · rfl
  · exact values?_insert_other hne h value

end Headers

/-! ## Values that can be read -/

/-- A character that a readable header value may hold. -/
def Ascii.isVisible (c : Char) : Bool := isPrintable c || c = '\t'

namespace Header

theorem isVisible_of_mem_visible? {value : Bytes} {text : String} (h : visible? value = some text) :
    ∀ c ∈ text.toList, Ascii.isVisible c = true := by
  intro c hc
  rw [visible?, Option.ite_none_right_eq_some, Option.some.injEq] at h
  obtain ⟨hall, rfl⟩ := h
  rw [String.toList_ofList] at hc
  obtain ⟨b, hb, rfl⟩ := List.mem_map.mp hc
  have hbyte := List.all_eq_true.mp hall b hb
  have hbytes : ∀ n < 256, isVisible (UInt8.ofNat n) = true →
      Ascii.isVisible (Char.ofNat n) = true := by decide +kernel
  refine hbytes b.toNat b.toNat_lt ?_
  rwa [UInt8.ofNat_toNat]

/-- A text of such characters is read from the header that holds its bytes, and may stand in one. -/
theorem visible?_encode_of_forall {s : String} (h : ∀ c ∈ s.toList, Ascii.isVisible c = true) :
    visible? (Utf8.encode s) = some s ∧ value? s = some (Utf8.encode s) := by
  have hascii : ∀ c ∈ s.toList, c.toNat < 0x80 := by
    intro c hc
    have hvisible := h c hc
    rw [Ascii.isVisible, Bool.or_eq_true, Ascii.isPrintable_iff, decide_eq_true_eq] at hvisible
    rcases hvisible with hvisible | rfl
    · exact Nat.lt_trans hvisible.2 (by decide)
    · decide
  have hchars : ∀ n < 0x80, Ascii.isVisible (Char.ofNat n) = true →
      isVisible (UInt8.ofNat n) = true ∧ isValueByte (UInt8.ofNat n) = true ∧
        Char.ofNat (UInt8.ofNat n).toNat = Char.ofNat n := by decide +kernel
  have hbytes : Utf8.encode s = s.toList.map fun c => UInt8.ofNat c.toNat :=
    Utf8.ofChars_of_ascii hascii
  have heach {c : Char} (hc : c ∈ s.toList) :=
    hchars c.toNat (hascii c hc) (by rw [Char.ofNat_toNat]; exact h c hc)
  have hvisible : (Utf8.encode s).all isVisible = true := by
    rw [hbytes, List.all_map]
    exact List.all_eq_true.mpr fun c hc => (heach hc).1
  have hvalue : (Utf8.encode s).all isValueByte = true := by
    rw [hbytes, List.all_map]
    exact List.all_eq_true.mpr fun c hc => (heach hc).2.1
  have hback : (Utf8.encode s).map (fun b => Char.ofNat b.toNat) = s.toList := by
    rw [hbytes, List.map_map]
    exact (List.map_congr_left fun c hc => (heach hc).2.2.trans (Char.ofNat_toNat c)).trans
      (List.map_id _)
  exact ⟨by rw [visible?, if_pos hvisible, hback, String.ofList_toList], if_pos hvalue⟩

end Header

/-! ## The label that the options set -/

namespace Options

variable {name : String}

/-- The label among some headers; of several spellings of its name the last counts. -/
def labelOf? (headers : List (String × String)) : Option String :=
  Entries.last? "content-type" (headers.map fun header => (Ascii.lower header.1, header.2))

/-- The label that the options set. -/
def label? (o : Options) : Option String := labelOf? o.headers.entries

theorem label?_setHeader (o : Options) (hname : Ascii.lower name = "content-type") (type : String) :
    (o.setHeader name type).label? = some type :=
  (spelt?_putHeader o.headers name type "content-type").trans (if_pos hname.symm)

/-- The label of merged options is that of the later ones, if they set one. -/
theorem label?_merge (o overlay : Options) :
    (o.merge overlay).label? = overlay.label?.or o.label? :=
  spelt?_putHeaders o.headers overlay.headers.entries "content-type"

end Options

namespace Request

variable {boundary url : String} {method : Method} {o : Options}
  {headers headers' : Headers} {q : Request}

/-! ## Building -/

theorem exists_of_bind {α β : Type} {x : Except Failure α} {f : α → Except Failure β} {b : β}
    (h : x >>= f = .ok b) : ∃ a, x = .ok a ∧ f a = .ok b := by
  cases x with
  | error _ => cases h
  | ok a => exact ⟨a, rfl, h⟩

theorem putHeader_ok {name value : String} (h : putHeader headers name value = .ok headers') :
    headers' = headers.insert (Ascii.lower name) (Utf8.encode value) := by
  unfold putHeader Header.check at h
  cases hname : Header.name? name with
  | none => simp [hname] at h
  | some n =>
    cases hvalue : Header.value? value with
    | none => simp [hname, hvalue] at h
    | some v =>
      simp only [hname, hvalue, Except.ok.injEq] at h
      simp only [Header.name?] at hname
      simp only [Header.value?] at hvalue
      split at hname
      · cases hname
      split at hvalue
      · cases hname
        cases hvalue
        exact h.symm
      · cases hvalue

/-- Under each name the last of the values that are put there is found, else what there was. -/
theorem values?_foldlM {fields : List (String × String)}
    (h : fields.foldlM (fun headers field => putHeader headers field.1 field.2) headers =
      .ok headers') (name : String) :
    headers'.values? name =
      ((Options.spelt? name fields).map fun value => [Utf8.encode value]).or
        (headers.values? name) := by
  induction fields generalizing headers with
  | nil =>
    cases h
    rfl
  | cons field fields ih =>
    rw [List.foldlM_cons] at h
    obtain ⟨headers₁, hput, h⟩ := exists_of_bind h
    obtain rfl := putHeader_ok hput
    rw [ih h, Options.spelt?_cons]
    cases Options.spelt? name fields with
    | some value => rfl
    | none =>
      by_cases hname : name = Ascii.lower field.1
      · rw [hname, Headers.values?_insert_self, if_pos rfl]
        rfl
      · rw [Headers.values?_insert_other hname, if_neg hname]
        rfl

/-- The fields that options ask for: those of their headers, then the cookies if there are any, then
what authorizes. -/
theorem headersOf_ok (h : headersOf o = .ok headers) : ∃ fields cookied,
    o.headers.entries.foldlM (fun headers field => putHeader headers field.1 field.2) .empty =
      .ok fields ∧
    cookied = (if o.cookies.isEmpty then fields else fields.insert "cookie"
      (Utf8.encode (Cookie.header o.cookies))) ∧
    (headers = cookied ∨ ∃ value, headers = cookied.insert "authorization" value) := by
  have hcookieLower : Ascii.lower "cookie" = "cookie" := by decide
  have hauthorizationLower : Ascii.lower "authorization" = "authorization" := by decide
  unfold headersOf at h
  obtain ⟨fields, hfields, h⟩ := exists_of_bind h
  extract_lets authorize at h
  have hauth {cookied : Headers} (h : authorize cookied = .ok headers) :
      headers = cookied ∨ ∃ value, headers = cookied.insert "authorization" value := by
    simp only [authorize] at h
    split at h
    · exact .inr ⟨_, hauthorizationLower ▸ putHeader_ok h⟩
    · cases h
      exact .inl rfl
  split at h
  · next hempty => exact ⟨fields, fields, hfields, (if_pos hempty).symm, hauth h⟩
  · next hsome =>
    obtain ⟨cookied, hput, h⟩ := exists_of_bind h
    refine ⟨fields, cookied, hfields, ?_, hauth h⟩
    rw [if_neg hsome, putHeader_ok hput, hcookieLower]

/-- Under names that are not set from elsewhere stands what the options say. -/
theorem values?_headersOf (h : headersOf o = .ok headers) {name : String}
    (hcookie : name ≠ "cookie") (hauthorization : name ≠ "authorization") :
    headers.values? name = (Options.spelt? name o.headers.entries).map fun value =>
      [Utf8.encode value] := by
  obtain ⟨fields, cookied, hfields, hcookied, hheaders⟩ := headersOf_ok h
  have hset : headers.values? name = cookied.values? name := by
    rcases hheaders with rfl | ⟨value, rfl⟩
    · rfl
    · exact Headers.values?_insert_other hauthorization cookied value
  have hcookies : cookied.values? name = fields.values? name := by
    rw [hcookied]
    split
    · rfl
    · exact Headers.values?_insert_other hcookie fields _
  rw [hset, hcookies, values?_foldlM hfields]
  exact Option.or_none

/-- The label that the options set. -/
theorem label_headersOf (h : headersOf o = .ok headers) :
    headers.values? "content-type" = o.label?.map fun type => [Utf8.encode type] :=
  values?_headersOf h (by decide) (by decide)

/-- What a request is built from. -/
theorem build_ok {parse : String → Except UrlFlaw Url}
    (h : buildWith parse boundary method url o = .ok q) :
    ∃ parsed headers, parse url = .ok parsed ∧ headersOf o = .ok headers ∧
      encodeBody boundary o headers = .ok (q.headers, q.body) ∧
      q.url = (if o.query.isEmpty then parsed else parsed.appendQuery o.query.entries) ∧
      q.method = method ∧ q.options = o := by
  unfold buildWith at h
  obtain ⟨parsed, hurl, h⟩ := exists_of_bind h
  obtain ⟨headers, hheaders, h⟩ := exists_of_bind h
  obtain ⟨encoded, hbody, h⟩ := exists_of_bind h
  have hparsed : parse url = .ok parsed := by
    cases hparse : parse url with
    | error flaw => rw [hparse] at hurl; cases hurl
    | ok parsed => rw [hparse] at hurl; cases hurl; rfl
  cases h
  exact ⟨parsed, headers, hparsed, hheaders, hbody, rfl, rfl, rfl⟩

/-- Parts make a multipart body, whatever the label was. -/
theorem build_parts {n : Multipart.Stamp} (h : build (Multipart.boundary n) method url o = .ok q)
    (hparts : o.multipart ≠ []) :
    q.body = Multipart.body (Multipart.boundary n) o.multipart ∧
    q.headers.values? "content-type" =
      some [Utf8.encode (Multipart.mediaType (Multipart.boundary n))] := by
  obtain ⟨parsed, headers, -, -, hbody, -⟩ := build_ok h
  rw [encodeBody_of_parts (by simpa using hparts)] at hbody
  obtain ⟨hq, hbytes⟩ := Prod.mk.inj (Except.ok.inj hbody)
  exact ⟨hbytes.symm, hq ▸ Headers.values?_insert_self headers _ _⟩

theorem values?_label (h : headersOf o = .ok headers) (type : MediaType) :
    (label headers type).values? "content-type" = some [Utf8.encode (o.label?.getD type.name)] := by
  rw [label, Headers.values?_insertDefault, label_headersOf h]
  cases o.label? <;> rfl

/-- Form fields make a form. -/
theorem build_form (h : build boundary method url o = .ok q) (hparts : o.multipart = [])
    {form : SortedMap Json} (hform : o.formParams = some form) :
    q.body = Utf8.encode (String.ofList (Form.write (Form.fields form))) ∧
    q.headers.values? "content-type" = some [Utf8.encode (o.label?.getD MediaType.form.name)] := by
  obtain ⟨parsed, headers, -, hheaders, hbody, -⟩ := build_ok h
  simp only [encodeBody, hparts, hform, List.isEmpty_nil, Bool.not_true, Bool.false_eq_true,
    if_false, Except.ok.injEq, Prod.mk.injEq] at hbody
  exact ⟨hbody.2.symm, hbody.1 ▸ values?_label hheaders .form⟩

/-- A JSON value makes its text. -/
theorem build_json (h : build boundary method url o = .ok q) (hparts : o.multipart = [])
    (hform : o.formParams = none) {value : Json} (hjson : o.json = some value) :
    q.body = value.bytes ∧
    q.headers.values? "content-type" = some [Utf8.encode (o.label?.getD MediaType.json.name)] := by
  obtain ⟨parsed, headers, -, hheaders, hbody, -⟩ := build_ok h
  simp only [encodeBody, hparts, hform, hjson, List.isEmpty_nil, Bool.not_true,
    Bool.false_eq_true, if_false, Except.ok.injEq, Prod.mk.injEq] at hbody
  exact ⟨hbody.2.symm, hbody.1 ▸ values?_label hheaders .json⟩

/-- Without any of these the body is sent as it is, with the label that the options set. -/
theorem build_raw (h : build boundary method url o = .ok q) (hparts : o.multipart = [])
    (hform : o.formParams = none) (hjson : o.json = none) :
    q.body = o.body.getD [] ∧
    q.headers.values? "content-type" = o.label?.map fun type => [Utf8.encode type] := by
  obtain ⟨parsed, headers, -, hheaders, hbody, -⟩ := build_ok h
  simp only [encodeBody, hparts, hform, hjson, List.isEmpty_nil, Bool.not_true,
    Bool.false_eq_true, if_false, Except.ok.injEq, Prod.mk.injEq] at hbody
  exact ⟨hbody.2.symm, hbody.1 ▸ label_headersOf hheaders⟩

/-! ## Reading a label -/

/-- A text of printable ASCII is read from the header that holds its bytes. -/
theorem visible?_encode {s : String} (h : s.toList.all Ascii.isPrintable = true) :
    Header.visible? (Utf8.encode s) = some s := by
  have hvisible : ∀ c ∈ s.toList, Ascii.isVisible c = true := by
    intro c hc
    rw [Ascii.isVisible, List.all_eq_true.mp h c hc, Bool.true_or]
  exact (Header.visible?_encode_of_forall hvisible).1

theorem header?_label {type : String}
    (hq : q.headers.values? "content-type" = some [Utf8.encode type])
    (h : type.toList.all Ascii.isPrintable = true) : q.header? "content-type" = some type := by
  have hname : Header.name? "content-type" = some "content-type" := by decide
  simp only [header?, Headers.text?, Headers.first?, Headers.getAll, hname, Headers.valuesOf_eq, hq,
    Option.getD_some, List.head?_cons, Option.bind_some, visible?_encode h]

theorem get?_textMap (pairs : List (String × String)) (key : String) :
    (textMap pairs).get? key = (Entries.last? key pairs).map .string := by
  rw [textMap, SortedMap.get?_ofList, Entries.last?_map]

theorem isForm_of_label {type : String} (h : q.header? "content-type" = some type) :
    q.isForm = (type == MediaType.form.name) := by
  unfold isForm hasHeader
  rw [h]

theorem data_of_form (h : q.headers.values? "content-type" =
    some [Utf8.encode MediaType.form.name]) :
    q.data = textMap (Form.read q.body) := by
  have hform : q.isForm = true := by
    rw [isForm_of_label (header?_label h (by decide)), beq_self_eq_true]
  rw [data, hform]
  rfl

theorem data_of_json (h : q.headers.values? "content-type" =
    some [Utf8.encode MediaType.json.name]) :
    q.data = match Json.parse? q.body with
      | some (.object entries) => .ofList entries
      | _ => .empty := by
  have htype := header?_label h (by decide)
  have hform : q.isForm = false := by
    rw [isForm_of_label htype]
    decide
  have hjson : q.isJson = true := by
    rw [isJson, htype]
    decide
  rw [data, hform, hjson]
  rfl

theorem mem_of_occursIn {part text : List Char} (h : occursIn part text = true) :
    ∀ c ∈ part, c ∈ text := by
  induction text with
  | nil => simp_all [occursIn]
  | cons c text ih =>
    rw [occursIn, Bool.or_eq_true] at h
    obtain h | h := h
    · exact (List.isPrefixOf_iff_prefix.mp h).subset
    · exact fun c' hc' => List.mem_cons_of_mem c (ih h c' hc')

theorem data_of_parts {n : Multipart.Stamp}
    (h : q.headers.values? "content-type" =
      some [Utf8.encode (Multipart.mediaType (Multipart.boundary n))]) :
    q.data = textMap (q.options.multipart.map fun p => (p.name, Utf8.decodeLossy p.contents)) := by
  have htype := header?_label h (Multipart.isPrintable_mediaType n)
  have hparts : (Multipart.mediaType (Multipart.boundary n)).toList =
      "multipart/form-data".toList ++ ("; boundary=" ++ Multipart.boundary n).toList := by
    have hstart : "multipart/form-data; boundary=" = "multipart/form-data" ++ "; boundary=" := by
      decide
    have hassoc := (congrArg (· ++ Multipart.boundary n) hstart).trans String.append_assoc
    exact (congrArg String.toList hassoc).trans String.toList_append
  have hform : q.isForm = false := by
    rw [isForm_of_label htype]
    refine beq_eq_false_iff_ne.mpr fun heq => ?_
    have hhead : ('m' : Char) = 'a' :=
      (List.cons.inj (hparts.symm.trans (congrArg String.toList heq))).1
    exact absurd hhead (by decide)
  have hjson : q.isJson = false := by
    rw [isJson, htype]
    refine Bool.eq_false_iff.mpr fun hoccurs => ?_
    -- There is no `j` in it.
    have hj := Multipart.mem_mediaType (mem_of_occursIn hoccurs 'j' (by decide))
    exact absurd hj (by decide)
  have hmultipart : q.isMultipart = true := by
    rw [isMultipart, htype]
    exact List.isPrefixOf_iff_prefix.mpr ⟨_, hparts.symm⟩
  rw [data, hform, hjson, hmultipart]
  rfl

end Request

end Courier
