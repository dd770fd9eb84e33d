import Courier.Proofs.Overwriting
/-
Headers that are given to a request and asked for afterwards. A header stands
in two places, in the fields that are sent and in the options. Both have the
value that was last given under any spelling of the name (`Request.Carries`),
and every header that is set later keeps those of other names as they are
(`Request.Carries.withHeader`).

A value may be sent if it holds no controls, whether it is ASCII or not, but is
read from the fields only if it is ASCII (`Header.visible?_of_value?`). With any
other the options know the header and the fields seem not to have it
(`Request.given_iff_ascii`).
-/
namespace Courier

namespace Ascii

/-- Every character is one of ASCII. -/
def isAscii (s : String) : Bool := s.toList.all fun c => c.toNat < 0x80

end Ascii

/-! ## Names and values that may be sent -/

namespace Header

theorem isToken_lowerChar (c : Char) : isToken (Ascii.lowerChar c) = isToken c := by
  by_cases h : c.toNat < 0x80
  · have hascii : ∀ n < 0x80, isToken (Ascii.lowerChar (Char.ofNat n)) =
        isToken (Char.ofNat n) := by decide +kernel
    rw [← Char.ofNat_toNat c]
    exact hascii c.toNat h
  · rw [Ascii.lowerChar_of_le (Nat.le_of_not_lt h)]

/-- Every spelling of a name is one, or none is. -/
theorem name?_lower (name : String) : name? (Ascii.lower name) = name? name := by
  have hall : (name.toList.map Ascii.lowerChar).all isToken = name.toList.all isToken := by
    rw [List.all_map]
    exact congrArg (List.all name.toList) (funext isToken_lowerChar)
  simp only [name?, Ascii.lower_lower]
  simp only [Ascii.lower, String.toList_ofList, hall, List.isEmpty_map, List.length_map]

/-- Of the values that may be sent those of ASCII can be read. -/
theorem visible?_of_value? {value : String} {bytes : Bytes} (h : value? value = some bytes) :
    visible? bytes = if Ascii.isAscii value then some value else none := by
  simp only [value?, Option.ite_none_right_eq_some, Option.some.injEq] at h
  obtain ⟨hbytes, rfl⟩ := h
  by_cases hascii : Ascii.isAscii value = true
  · rw [if_pos hascii]
    have hlt : ∀ c ∈ value.toList, c.toNat < 0x80 := by simpa [Ascii.isAscii] using hascii
    have hall : ∀ n < 0x80, isValueByte (UInt8.ofNat n) = true →
        Ascii.isVisible (Char.ofNat n) = true := by decide +kernel
    refine (visible?_encode_of_forall fun c hc => ?_).1
    rw [show Utf8.encode value = _ from Utf8.ofChars_of_ascii hlt, List.all_map,
      List.all_eq_true] at hbytes
    rw [← Char.ofNat_toNat c]
    exact hall c.toNat (hlt c hc) (hbytes c hc)
  · rw [if_neg hascii]
    obtain ⟨c, hc, hbeyond⟩ : ∃ c ∈ value.toList, 0x80 ≤ c.toNat := by
      simpa [Ascii.isAscii] using hascii
    -- The first byte of this character is none that can be read.
    obtain ⟨b, hb⟩ := List.exists_mem_of_length_pos (l := String.utf8EncodeChar c) (by
      rw [String.length_utf8EncodeChar]
      exact c.utf8Size_pos)
    have hb80 := Utf8.le_of_mem_utf8EncodeChar hbeyond hb
    have hmem : b ∈ Utf8.encode value := List.mem_flatMap.mpr ⟨c, hc, hb⟩
    have hhidden : ∀ n < 256, 0x80 ≤ n → isVisible (UInt8.ofNat n) = false := by decide +kernel
    refine if_neg fun hall => ?_
    have hvisible := List.all_eq_true.mp hall b hmem
    rw [← UInt8.ofNat_toNat (x := b), hhidden b.toNat b.toNat_lt hb80] at hvisible
    cases hvisible

end Header

/-! ## What the options say -/

namespace Options

open HeaderChange

variable {m : SortedMap String} {name value : String}

/-- Of the spellings of a name only the one in lower case has a value, which is this one. -/
def Says (name value : String) (m : SortedMap String) : Prop :=
  ∀ key, Ascii.lower key = name → m.get? key = if key = name then some value else none

theorem says_putHeader (m : SortedMap String) (name value : String) :
    Says (Ascii.lower name) value (putHeader m name value) := by
  intro key hkey
  rw [get?_putHeader, if_pos hkey, hkey]

theorem Says.putHeader (hm : Says name value m) {key : String} (hkey : Ascii.lower key ≠ name)
    (other : String) :
    Says name value (putHeader m key other) := by
  intro spelling hspelling
  rw [get?_putHeader, if_neg (hspelling ▸ Ne.symm hkey)]
  exact hm spelling hspelling

theorem get?_changed (o : Options) (change : HeaderChange) (key : String) :
    (o.changed change).headers.get? key =
    match change.word? (Ascii.lower key) with
    | some word => if key = Ascii.lower key then word else none
    | none => o.headers.get? key := by
  cases change with
  | set name value =>
    refine (get?_putHeader o.headers name value key).trans ?_
    by_cases hname : Ascii.lower key = Ascii.lower name
    · simp [word?, hname]
    · simp [word?, hname, Ne.symm hname]
  | remove name =>
    refine (get?_dropHeader o.headers name key).trans ?_
    by_cases hname : Ascii.lower key = Ascii.lower name
    · simp [word?, hname]
    · simp [word?, hname, Ne.symm hname]
  | merge overlay =>
    refine (get?_putHeaders o.headers overlay.headers.entries key).trans ?_
    rw [word?]
    cases spelt? (Ascii.lower key) overlay.headers.entries <;> rfl

/-- Under each spelling of a name there is what the last change left there that said anything about
the name. -/
theorem get?_changedAll (o : Options) (changes : List HeaderChange) (key : String) :
    (o.changedAll changes).headers.get? key =
      match (changes.filterMap (word? (Ascii.lower key))).getLast? with
      | some word => if key = Ascii.lower key then word else none
      | none => o.headers.get? key := by
  unfold changedAll
  induction changes generalizing o with
  | nil => rfl
  | cons change changes ih =>
    rw [List.foldl_cons, ih, get?_changed]
    cases hword : change.word? (Ascii.lower key) with
    | none => rw [List.filterMap_cons_none hword]
    | some word =>
      rw [List.filterMap_cons_some hword, List.getLast?_cons]
      cases (changes.filterMap (word? (Ascii.lower key))).getLast? <;> rfl

theorem says_changedAll (o : Options) {changes : List HeaderChange}
    (h : lastWord? name changes = some value) :
    Says name value (o.changedAll changes).headers := by
  intro key hkey
  rw [get?_changedAll, hkey, Option.join_eq_some_iff.mp h]

theorem Says.mem (hm : Says (Ascii.lower name) value m) :
    (Ascii.lower name, value) ∈ m.entries := by
  rw [SortedMap.mem_entries, hm _ (Ascii.lower_lower name), if_pos rfl]

/-- What is said about a name is found under each of its spellings. -/
theorem Says.headerValue? {o : Options} {key : String}
    (ho : Says (Ascii.lower key) value o.headers) :
    o.headerValue? key = some value := by
  have hmem := ho.mem
  unfold Options.headerValue?
  cases hfind : o.headers.entries.find? fun header => Ascii.sameIgnoringCase header.1 key with
  | none =>
    have hsame := List.find?_eq_none.mp hfind _ hmem
    simp [Ascii.sameIgnoringCase] at hsame
  | some header =>
    have hsame : Ascii.lower header.1 = Ascii.lower key := by
      simpa [Ascii.sameIgnoringCase] using List.find?_some hfind
    have hget : o.headers.get? header.1 = some header.2 :=
      SortedMap.mem_entries.mp (List.mem_of_find?_eq_some hfind)
    rw [ho header.1 hsame, Option.ite_none_right_eq_some] at hget
    exact hget.2.symm

end Options

/-! ## What a request carries -/

namespace Request

open Options HeaderChange

variable {boundary url name value : String} {m : Method} {o : Options} {q q' : Request}
  {headers headers' : Headers} {changes : List HeaderChange} {calls : List (String × String)}

/-- A field that was put in may be sent. -/
theorem accepted_of_putHeader (h : putHeader headers name value = .ok headers') :
    Header.name? name = some (Ascii.lower name) ∧
      Header.value? value = some (Utf8.encode value) := by
  have hname {n : String} (hn : Header.name? name = some n) : n = Ascii.lower name := by
    simp only [Header.name?, Option.ite_none_left_eq_some, Option.some.injEq] at hn
    exact hn.2.symm
  have hvalue {v : Bytes} (hv : Header.value? value = some v) : v = Utf8.encode value := by
    simp only [Header.value?, Option.ite_none_right_eq_some, Option.some.injEq] at hv
    exact hv.2.symm
  unfold putHeader Header.check at h
  cases hn : Header.name? name with
  | none => simp [hn] at h
  | some n =>
    cases hv : Header.value? value with
    | none => simp [hn, hv] at h
    | some v => exact ⟨congrArg some (hname hn), congrArg some (hvalue hv)⟩

theorem accepted_of_foldlM {fields : List (String × String)}
    (h : fields.foldlM (fun headers field => putHeader headers field.1 field.2) headers =
      .ok headers')
    (hmem : (name, value) ∈ fields) :
    Header.name? name = some (Ascii.lower name) ∧
      Header.value? value = some (Utf8.encode value) := by
  induction fields generalizing headers with
  | nil => cases hmem
  | cons field fields ih =>
    rw [List.foldlM_cons] at h
    obtain ⟨headers₁, hput, h⟩ := exists_of_bind h
    rcases List.mem_cons.mp hmem with rfl | hmem
    · exact accepted_of_putHeader hput
    · exact ih h hmem

/-- The request has a header of this name in lower case, in its fields and in its options. -/
structure Carries (q : Request) (name value : String) : Prop where
  named : Header.name? name = some name
  valued : Header.value? value = some (Utf8.encode value)
  sent : q.headers.values? name = some [Utf8.encode value]
  known : Says name value q.options.headers

theorem carries_withHeader (h : q.withHeader name value = .ok q') :
    q'.Carries (Ascii.lower name) value := by
  obtain ⟨headers, hput, h⟩ := exists_of_bind h
  cases h
  obtain ⟨hname, hvalue⟩ := accepted_of_putHeader hput
  refine ⟨(Header.name?_lower name).trans hname, hvalue, ?_,
    says_putHeader q.options.headers name value⟩
  rw [putHeader_ok hput]
  exact Headers.values?_insert_self q.headers _ _

theorem Carries.withHeader (hq : q.Carries name value) {key other : String}
    (hkey : Ascii.lower key ≠ name) (h : q.withHeader key other = .ok q') :
    q'.Carries name value := by
  obtain ⟨headers, hput, h⟩ := exists_of_bind h
  cases h
  refine ⟨hq.named, hq.valued, ?_, hq.known.putHeader hkey other⟩
  rw [putHeader_ok hput]
  exact (Headers.values?_insert_other (Ne.symm hkey) q.headers _).trans hq.sent

theorem exists_of_isOk {α : Type} {x : Except Failure α} (h : x.isOk = true) : ∃ a, x = .ok a := by
  cases x with
  | error _ => cases h
  | ok a => exact ⟨a, rfl⟩

/-- The request after headers were set one after another. -/
def withHeaders (q : Request) (calls : List (String × String)) : Except Failure Request :=
  calls.foldlM (fun q call => q.withHeader call.1 call.2) q

/-- Of the headers that were set the last of a name is carried, else what was carried before. -/
theorem carries_withHeaders {before : Option String}
    (hbefore : ∀ value, before = some value → q.Carries name value)
    (h : q.withHeaders calls = .ok q') (hlast : (spelt? name calls).or before = some value) :
    q'.Carries name value := by
  unfold withHeaders at h
  induction calls generalizing q before with
  | nil =>
    cases h
    exact hbefore value hlast
  | cons call calls ih =>
    rw [List.foldlM_cons] at h
    obtain ⟨q₁, hcall, h⟩ := exists_of_bind h
    rw [spelt?_cons, Option.or_assoc] at hlast
    refine ih (fun value hvalue => ?_) h hlast
    by_cases hname : name = Ascii.lower call.1
    · rw [if_pos hname, Option.some_or, Option.some.injEq] at hvalue
      rw [hname, ← hvalue]
      exact carries_withHeader hcall
    · rw [if_neg hname, Option.none_or] at hvalue
      exact (hbefore value hvalue).withHeader (Ne.symm hname) hcall

/-- What the last change of the options says about a name is carried, unless the request sets the
name of itself. -/
theorem carries_build (h : build boundary m url (o.changedAll changes) = .ok q)
    (hname : Ascii.lower name ∉ ["content-type", "cookie", "authorization"])
    (hlast : lastWord? (Ascii.lower name) changes = some value) :
    q.Carries (Ascii.lower name) value := by
  simp only [List.mem_cons, List.not_mem_nil, or_false, not_or] at hname
  obtain ⟨htype, hcookie, hauthorization⟩ := hname
  obtain ⟨parsed, headers, -, hheaders, hbody, -, -, hoptions⟩ := build_ok h
  obtain ⟨fields, -, hfields, -⟩ := headersOf_ok hheaders
  have hsays := says_changedAll o hlast
  obtain ⟨hnamed, hvalued⟩ := accepted_of_foldlM hfields hsays.mem
  have hspelt : spelt? (Ascii.lower name) (o.changedAll changes).headers.entries = some value := by
    rw [spelt?_changedAll, Option.join_eq_some_iff.mp hlast]
    rfl
  refine ⟨by rwa [Ascii.lower_lower] at hnamed, hvalued, ?_, hoptions ▸ hsays⟩
  rw [values?_encodeBody htype hbody, values?_headersOf hheaders hcookie hauthorization, hspelt]
  rfl

/-- A header that is carried is known to the options under every spelling, and read from the fields
if it is ASCII. -/
theorem Carries.reads (hq : q.Carries (Ascii.lower name) value) :
    q.options.headerValue? name = some value ∧
    q.header? name = if Ascii.isAscii value then some value else none := by
  have hnamed : Header.name? name = some (Ascii.lower name) :=
    (Header.name?_lower name).symm.trans hq.named
  refine ⟨hq.known.headerValue?, ?_⟩
  simp only [header?, Headers.text?, Headers.first?, Headers.getAll, hnamed, Headers.valuesOf_eq,
    hq.sent, Option.getD_some, List.head?_cons, Option.bind_some]
  exact Header.visible?_of_value? hq.valued

/-- The last value that was given under a name in lower case: to the request itself, else to the
options it was built from, where these are asked for the name. -/
def lastGiven? (name : String) (changes : List HeaderChange) (calls : List (String × String)) :
    Option String :=
  (spelt? name calls).or
    (if name ∈ ["content-type", "cookie", "authorization"] then none else lastWord? name changes)

/-- Whatever the options and the headers that were set, the options of the request know each name
with the last value that was given under any spelling of it. The fields have it, and are found to
have it, if this value is ASCII, and only then. -/
theorem given_iff_ascii (hbuild : build boundary m url (o.changedAll changes) = .ok q)
    (hcalls : q.withHeaders calls = .ok q')
    (hlast : lastGiven? (Ascii.lower name) changes calls = some value) :
    q'.options.headerValue? name = some value ∧
    q'.header? name = (if Ascii.isAscii value then some value else none) ∧
    q'.hasHeader name (some value) = Ascii.isAscii value ∧
    q'.hasHeader name none = Ascii.isAscii value := by
  have hcarries : q'.Carries (Ascii.lower name) value := by
    refine carries_withHeaders (fun value hvalue => ?_) hcalls hlast
    rw [Option.ite_none_left_eq_some] at hvalue
    exact carries_build hbuild hvalue.1 hvalue.2
  obtain ⟨hoptions, hfields⟩ := hcarries.reads
  refine ⟨hoptions, hfields, ?_, ?_⟩ <;> unfold hasHeader <;> rw [hfields] <;>
    cases Ascii.isAscii value <;> simp

/-- The options take the mode as `X-MODE` and a name beyond ASCII, the request another mode and a
media type of its own. -/
theorem given_iff_ascii_mixed :
    let changes : List HeaderChange :=
      [.set "X-MODE" "plain", .set "Content-Type" "text/plain", .set "x-NAME" "é"]
    let calls := [("x-Mode", "quick"), ("CONTENT-type", "text/html")]
    ∃ q q', build "b" .get "http://a.test/" (Options.empty.changedAll changes) = .ok q ∧
      q.withHeaders calls = .ok q' ∧
      (lastGiven? (Ascii.lower "X-Mode") changes calls = some "quick" ∧
        q'.header? "X-Mode" = some "quick") ∧
      (lastGiven? (Ascii.lower "content-type") changes calls = some "text/html" ∧
        q'.hasHeader "content-type" (some "text/html") = true) ∧
      (lastGiven? (Ascii.lower "X-Name") changes calls = some "é" ∧
        q'.options.headerValue? "X-Name" = some "é" ∧
        q'.hasHeader "X-Name" none = false) := by
  intro changes calls
  have hok : (build "b" .get "http://a.test/" (Options.empty.changedAll changes) >>=
      (·.withHeaders calls)).isOk = true := by
    decide +kernel
  obtain ⟨q', hq'⟩ := exists_of_isOk hok
  obtain ⟨q, hbuild, hcalls⟩ := exists_of_bind hq'
  have hmode : lastGiven? (Ascii.lower "X-Mode") changes calls = some "quick" := by decide +kernel
  have htype : lastGiven? (Ascii.lower "content-type") changes calls = some "text/html" := by
    decide +kernel
  have hname : lastGiven? (Ascii.lower "X-Name") changes calls = some "é" := by decide +kernel
  refine ⟨q, q', hbuild, hcalls, ⟨hmode, ?_⟩, ⟨htype, ?_⟩, hname, ?_, ?_⟩
  · exact (given_iff_ascii hbuild hcalls hmode).2.1.trans (by decide)
  · exact (given_iff_ascii hbuild hcalls htype).2.2.1.trans (by decide)
  · exact (given_iff_ascii hbuild hcalls hname).1
  · exact (given_iff_ascii hbuild hcalls hname).2.2.2.trans (by decide)

/-- It is not so that every header that was given is found: one with an accent is known to the
options and sent, and the request seems not to have it. -/
theorem given_not_found :
    ¬ ∀ (o : Options) (changes : List HeaderChange) (calls : List (String × String))
    (boundary : String) (m : Method) (url : String) (q q' : Request) (name value : String),
    build boundary m url (o.changedAll changes) = .ok q → q.withHeaders calls = .ok q' →
    lastGiven? (Ascii.lower name) changes calls = some value →
    q'.hasHeader name (some value) = true ∧ q'.hasHeader name none = true ∧
      q'.header? name = some value ∧
      q'.options.headerValue? name = some value := by
  intro hall
  let o := Options.empty.changedAll [.set "X-Name" "é"]
  have hok : (build "b" .get "http://a.test/" o).isOk = true := by decide +kernel
  obtain ⟨q, hbuild⟩ := exists_of_isOk hok
  obtain ⟨-, -, hfound, -⟩ :=
    hall Options.empty _ [] "b" .get _ q q "x-name" "é" hbuild rfl (by decide +kernel)
  have hnone : (build "b" .get "http://a.test/" o).toOption.bind (·.header? "x-name") = none := by
    decide +kernel
  rw [hbuild] at hnone
  exact absurd (hnone.symm.trans hfound) (by decide)

end Request

end Courier
