import Courier.Proofs.Labels
/-
Headers after a history of changes. About each name, whatever its spelling, the
last change counts that says anything about it (`HeaderChange.lastWord?`): it
sets a value, takes the name away, or merges in options that set one. What is
left stands there once and in lower case (`Options.Tidy`), and is sent once
(`Headers.Distinct`), unless a request sets the name of itself.
-/
namespace Courier

/-! ## Fields by name -/

namespace Headers

variable {h : Headers}

/-- No two fields have the same name. -/
def Distinct (h : Headers) : Prop := (h.fields.map (·.1)).Nodup

theorem Distinct.insert (hd : h.Distinct) (name : String) (value : Bytes) :
    (h.insert name value).Distinct := by
  unfold Headers.insert
  split
  · have hnames :
        (h.fields.map fun field => if field.1 == name then (name, [value]) else field).map (·.1) =
        h.fields.map (·.1) := by
      rw [List.map_map]
      refine List.map_congr_left fun field _ => ?_
      by_cases hname : field.1 = name <;> simp [hname]
    rw [Distinct, hnames]
    exact hd
  · next hc =>
    have hnew : name ∉ h.fields.map (·.1) := by simpa [contains] using hc
    have hnames : (h.fields ++ [(name, [value])]).map (·.1) = (h.fields.map (·.1)).concat name := by
      simp
    rw [Distinct, hnames]
    exact List.Nodup.concat hnew hd

/-- Of all that is sent, what has a name are the values of its field. -/
theorem Distinct.filter_pairs (hd : h.Distinct) (name : String) :
    h.pairs.filter (·.1 == name) = ((h.values? name).getD []).map fun value => (name, value) := by
  obtain ⟨fields⟩ := h
  unfold pairs values?
  rw [List.filter_flatMap]
  induction fields with
  | nil => rfl
  | cons field fields ih =>
    obtain ⟨hnew, hrest⟩ := List.nodup_cons.mp hd
    rw [List.flatMap_cons, ih hrest, List.find?_cons]
    by_cases hname : field.1 = name
    · have hnone : fields.find? (·.1 == name) = none := by
        rw [List.find?_eq_none]
        intro other hmem heq
        have hsame : other.1 = field.1 := (beq_iff_eq.mp heq).trans hname.symm
        exact hnew (List.mem_map.mpr ⟨other, hmem, hsame⟩)
      simp [hname, hnone]
    · have hother : (field.1 == name) = false := by simpa using hname
      simp [hname, hother]

end Headers

/-! ## The fields of a request -/

namespace Request

variable {boundary url name : String} {m : Method} {o : Options} {headers : Headers} {q : Request}

/-- What holds whatever the label is goes on to hold when the body is encoded. -/
theorem encodeBody_keeps {P : Headers → Prop} {body : Bytes} {headers' : Headers} (hP : P headers)
    (hinsert : ∀ headers value, P headers → P (headers.insert "content-type" value))
    (h : encodeBody boundary o headers = .ok (headers', body)) : P headers' := by
  have hlabel (type : MediaType) : P (label headers type) := by
    unfold label Headers.insertDefault
    split
    · exact hP
    · exact hinsert _ _ hP
  have hlower : Ascii.lower "content-type" = "content-type" := by decide
  unfold encodeBody at h
  split at h
  · obtain ⟨headers₁, htype, h⟩ := exists_of_bind h
    cases h
    rw [putHeader_ok htype, hlower]
    exact hinsert _ _ hP
  · split at h <;> cases h
    · exact hlabel .form
    · exact hlabel .json
    · exact hP

/-- What holds of no fields and goes on to hold when one is set holds of the fields that options ask
for. -/
theorem headersOf_keeps {P : Headers → Prop} (hempty : P .empty)
    (hinsert : ∀ headers name value, P headers → P (headers.insert name value))
    (h : headersOf o = .ok headers) :
    P headers := by
  have hfields (fields : List (String × String)) {headers headers' : Headers} (hP : P headers)
      (h : fields.foldlM (fun headers field => putHeader headers field.1 field.2) headers =
        .ok headers') :
      P headers' := by
    induction fields generalizing headers with
    | nil =>
      cases h
      exact hP
    | cons field fields ih =>
      rw [List.foldlM_cons] at h
      obtain ⟨headers₁, hfirst, h⟩ := exists_of_bind h
      exact ih (putHeader_ok hfirst ▸ hinsert _ _ _ hP) h
  obtain ⟨fields, cookied, hset, hcookied, hheaders⟩ := headersOf_ok h
  have hP : P cookied := by
    rw [hcookied]
    split
    · exact hfields _ hempty hset
    · exact hinsert _ _ _ (hfields _ hempty hset)
  rcases hheaders with rfl | ⟨value, rfl⟩
  · exact hP
  · exact hinsert _ _ _ hP

theorem distinct_build (h : build boundary m url o = .ok q) : q.headers.Distinct := by
  have hinsert (headers : Headers) (name : String) (value : Bytes) (hd : headers.Distinct) :
      (headers.insert name value).Distinct := hd.insert name value
  obtain ⟨parsed, headers, -, hheaders, hbody, -⟩ := build_ok h
  exact encodeBody_keeps (headersOf_keeps List.nodup_nil hinsert hheaders)
    (fun headers => hinsert headers _) hbody

/-- The body changes nothing but the label. -/
theorem values?_encodeBody {body : Bytes} {headers' : Headers} (hname : name ≠ "content-type")
    (h : encodeBody boundary o headers = .ok (headers', body)) :
    headers'.values? name = headers.values? name :=
  encodeBody_keeps (P := fun headers' => headers'.values? name = headers.values? name) rfl
    (fun headers' value hkept => (Headers.values?_insert_other hname headers' value).trans hkept) h

/-- A name that requests do not set of themselves is sent once, with the value that the options have
for it. -/
theorem filter_pairs_build (h : build boundary m url o = .ok q)
    (hname : name ∉ ["content-type", "cookie", "authorization"]) :
    q.headers.pairs.filter (·.1 == name) =
      (Options.spelt? name o.headers.entries).toList.map fun value =>
        (name, Utf8.encode value) := by
  simp only [List.mem_cons, List.not_mem_nil, or_false, not_or] at hname
  obtain ⟨htype, hcookie, hauthorization⟩ := hname
  obtain ⟨parsed, headers, -, hheaders, hbody, -⟩ := build_ok h
  rw [(distinct_build h).filter_pairs, values?_encodeBody htype hbody,
    values?_headersOf hheaders hcookie hauthorization]
  cases Options.spelt? name o.headers.entries <;> rfl

end Request

/-! ## Changes -/

/-- What changes the headers of options; whole options may be merged in, with headers in any
spelling. -/
inductive HeaderChange
  | set (name value : String)
  | remove (name : String)
  | merge (overlay : Options)

namespace HeaderChange

/-- What a change says about a name in lower case: from now on it has this value, or none. It may
say nothing. Of several spellings in the options that are merged in the last counts. -/
def word? (name : String) : HeaderChange → Option (Option String)
  | set key value => if Ascii.lower key = name then some (some value) else none
  | remove key => if Ascii.lower key = name then some none else none
  | merge overlay => (Options.spelt? name overlay.headers.entries).map some

/-- The value of a name after the changes. -/
def lastWord? (name : String) (changes : List HeaderChange) : Option String :=
  (changes.filterMap (word? name)).getLast?.join

end HeaderChange

namespace Options

open HeaderChange

variable {o : Options} {m : SortedMap String}

/-- The options after a change to their headers. -/
def changed (o : Options) : HeaderChange → Options
  | .set name value => o.setHeader name value
  | .remove name => o.removeHeader name
  | .merge overlay => o.merge overlay

/-- The options after several changes. -/
def changedAll (o : Options) (changes : List HeaderChange) : Options := changes.foldl changed o

theorem spelt?_changed (o : Options) (change : HeaderChange) (name : String) :
    spelt? name (o.changed change).headers.entries =
      (change.word? name).getD (spelt? name o.headers.entries) := by
  cases change with
  | set key value =>
    refine (spelt?_putHeader o.headers key value name).trans ?_
    by_cases hname : Ascii.lower key = name
    · simp [word?, hname]
    · simp [word?, hname, Ne.symm hname]
  | remove key =>
    show spelt? name (dropHeader o.headers key).entries = _
    by_cases hname : Ascii.lower key = name
    · rw [word?, if_pos hname, ← hname]
      exact spelt?_dropHeader_self o.headers key
    · rw [word?, if_neg hname]
      exact spelt?_dropHeader_other hname o.headers
  | merge overlay =>
    refine (spelt?_putHeaders o.headers overlay.headers.entries name).trans ?_
    rw [word?]
    cases spelt? name overlay.headers.entries <;> rfl

theorem spelt?_changedAll (o : Options) (changes : List HeaderChange) (name : String) :
    spelt? name (o.changedAll changes).headers.entries =
      (changes.filterMap (word? name)).getLast?.getD (spelt? name o.headers.entries) := by
  unfold changedAll
  induction changes generalizing o with
  | nil => rfl
  | cons change changes ih =>
    rw [List.foldl_cons, ih, spelt?_changed]
    cases hword : change.word? name with
    | none => rw [List.filterMap_cons_none hword]; rfl
    | some word => rw [List.filterMap_cons_some hword, List.getLast?_cons]; rfl

theorem spelt?_empty_changedAll (changes : List HeaderChange) (name : String) :
    spelt? name (empty.changedAll changes).headers.entries = lastWord? name changes := by
  rw [spelt?_changedAll, lastWord?]
  cases (changes.filterMap (word? name)).getLast? <;> rfl

/-! ## Names in lower case -/

/-- Every name is in lower case. -/
def Tidy (m : SortedMap String) : Prop := ∀ header ∈ m.entries, Ascii.lower header.1 = header.1

theorem Tidy.dropHeader (hm : Tidy m) (name : String) : Tidy (dropHeader m name) :=
  fun header hmem => hm header (mem_dropHeader.mp hmem).1

theorem Tidy.putHeader (hm : Tidy m) (name value : String) : Tidy (putHeader m name value) := by
  intro header hmem
  rcases Entries.mem_insert hmem with rfl | hmem
  · exact Ascii.lower_lower name
  · exact hm.dropHeader name header hmem

theorem Tidy.putHeaders (hm : Tidy m) (headers : List (String × String)) :
    Tidy (putHeaders m headers) := by
  unfold Options.putHeaders
  induction headers generalizing m with
  | nil => exact hm
  | cons header headers ih => exact ih (hm.putHeader header.1 header.2)

theorem Tidy.changed (ho : Tidy o.headers) (change : HeaderChange) :
    Tidy (o.changed change).headers := by
  cases change with
  | set name value => exact ho.putHeader name value
  | remove name => exact ho.dropHeader name
  | merge overlay => exact ho.putHeaders overlay.headers.entries

theorem Tidy.changedAll (ho : Tidy o.headers) (changes : List HeaderChange) :
    Tidy (o.changedAll changes).headers := by
  unfold Options.changedAll
  induction changes generalizing o with
  | nil => exact ho
  | cons change changes ih => exact ih (ho.changed change)

theorem Tidy.keys (hm : Tidy m) : ∀ key ∈ m.keys, Ascii.lower key = key := by
  intro key hkey
  obtain ⟨header, hmem, rfl⟩ := List.mem_map.mp hkey
  exact hm header hmem

/-- No two names are spellings of the same one. -/
theorem Tidy.pairwise (hm : Tidy m) :
    m.keys.Pairwise fun key key' => ¬ Ascii.sameIgnoringCase key key' := by
  have hsorted : m.entries.Pairwise fun header header' => header.1 < header'.1 := m.sorted
  refine List.pairwise_map.mpr (hsorted.imp_of_mem fun {header header'} hmem hmem' hlt hsame => ?_)
  have heq : header.1 = header'.1 := by
    rw [← hm header hmem, ← hm header' hmem']
    simpa [Ascii.sameIgnoringCase] using hsame
  exact String.lt_irrefl header'.1 (heq ▸ hlt)

/-- With names in lower case the first spelling that is found is the only one. -/
theorem Tidy.headerValue? (ho : Tidy o.headers) (name : String) :
    o.headerValue? name = spelt? (Ascii.lower name) o.headers.entries := by
  have hlower : (o.headers.entries.map fun header => (Ascii.lower header.1, header.2)) =
      o.headers.entries :=
    (List.map_congr_left fun header hmem => by rw [ho header hmem]; rfl).trans (List.map_id _)
  rw [spelt?, hlower, SortedMap.last?_entries, SortedMap.get?, Options.headerValue?]
  have htidy : ∀ header ∈ o.headers.entries, Ascii.lower header.1 = header.1 := ho
  generalize o.headers.entries = headers at htidy
  induction headers with
  | nil => rfl
  | cons header headers ih =>
    have hhead : Ascii.lower header.1 = header.1 := htidy header List.mem_cons_self
    rw [List.find?_cons, Entries.get?, Ascii.sameIgnoringCase, hhead]
    by_cases hname : header.1 = Ascii.lower name
    · simp [hname]
    · have hne : (header.1 == Ascii.lower name) = false := by simpa using hname
      rw [hne, if_neg (Ne.symm hname)]
      exact ih fun header' hmem => htidy header' (List.mem_cons_of_mem header hmem)

/-- After any changes the names are in lower case and differ by more than case. Under each spelling
of a name is found what the last change said that said anything about it, and a request sends just
that, once, unless it sets the name of itself. -/
theorem changes_last (changes : List HeaderChange) :
    (∀ key ∈ (empty.changedAll changes).headers.keys, Ascii.lower key = key) ∧
    ((empty.changedAll changes).headers.keys.Pairwise fun key key' =>
      ¬ Ascii.sameIgnoringCase key key') ∧
    (∀ name, (empty.changedAll changes).headerValue? name = lastWord? (Ascii.lower name) changes) ∧
    ∀ boundary m url q, Request.build boundary m url (empty.changedAll changes) = .ok q →
      ∀ name, Ascii.lower name ∉ ["content-type", "cookie", "authorization"] →
        q.headers.pairs.filter (·.1 == Ascii.lower name) =
          (lastWord? (Ascii.lower name) changes).toList.map fun value =>
            (Ascii.lower name, Utf8.encode value) := by
  have hempty : Tidy empty.headers := fun _ hmem => nomatch hmem
  have htidy := hempty.changedAll changes
  refine ⟨htidy.keys, htidy.pairwise, fun name => ?_, fun boundary m url q hbuild name hname => ?_⟩
  · rw [htidy.headerValue?, spelt?_empty_changedAll]
  · rw [Request.filter_pairs_build hbuild hname, spelt?_empty_changedAll]

/-- The spellings `X-Mode`, `X-mode` and `x-MODE` are merged in at once, and `ACCEPT` takes `Accept`
away. -/
theorem changes_last_merged :
    let changes : List HeaderChange := [.set "X-MODE" "plain", .set "Accept" "text/html",
      .merge
        { empty with
          headers := .ofList [("x-MODE", "quick"), ("X-Mode", "slow"), ("X-mode", "none")] },
      .remove "ACCEPT", .merge { empty with cookies := .ofList [("sid", "1")] }]
    ∃ q, Request.build "b" .get "http://a.test/" (empty.changedAll changes) = .ok q ∧
      (Ascii.lower "X-mOdE" ∉ ["content-type", "cookie", "authorization"] ∧
        q.headers.pairs.filter (·.1 == "x-mode") = [("x-mode", Utf8.encode "quick")]) ∧
      (Ascii.lower "accept" ∉ ["content-type", "cookie", "authorization"] ∧
        q.headers.pairs.filter (·.1 == "accept") = []) := by
  intro changes
  have hok : (Request.build "b" .get "http://a.test/" (empty.changedAll changes)).isOk = true := by
    decide +kernel
  obtain ⟨q, hbuild⟩ : ∃ q, Request.build "b" .get "http://a.test/" (empty.changedAll changes) =
      .ok q := by
    cases hbuild : Request.build "b" .get "http://a.test/" (empty.changedAll changes) with
    | error f => rw [hbuild] at hok; cases hok
    | ok q => exact ⟨q, rfl⟩
  have hmode : Ascii.lower "X-mOdE" ∉ ["content-type", "cookie", "authorization"] := by decide
  have haccept : Ascii.lower "accept" ∉ ["content-type", "cookie", "authorization"] := by decide
  have hsent := (changes_last changes).2.2.2 "b" .get "http://a.test/" q hbuild
  exact ⟨q, hbuild, ⟨hmode, hsent "X-mOdE" hmode⟩, haccept, hsent "accept" haccept⟩

end Options

end Courier
