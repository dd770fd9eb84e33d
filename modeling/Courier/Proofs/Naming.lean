import Courier.Proofs.ReadingBack.Multipart
/-
What a part tells of its name and its file name (`Part.bytes_tell`). Both stand in
quotes as they are. So the bytes of a part tell the text from the first quote to the
last one (`Part.bytes_eq_iff`), and nothing else about where the name ends: whatever
has a file name can pass for a part that has none (`Part.exists_twin_iff`).

A quote in a name or a file name ends the value there (`Multipart.readDisposition?_iff`),
and a line break ends the header line (`Part.readLines?_bytes_iff`); no other character does
anything of the kind.
-/
namespace Courier

/-! ## Texts -/

theorem Utf8.encode_injective : Function.Injective Utf8.encode := by
  intro s t h
  have hread := congrArg Utf8.decode? h
  simpa [Utf8.decode?_encode] using hread

/-- Two characters in a row stand on one side of any other character. -/
theorem pair_infix_append_cons {α : Type} {x y c : α} (hx : c ≠ x) (hy : c ≠ y) {l l' : List α} :
    [x, y] <:+: l ++ c :: l' ↔ [x, y] <:+: l ∨ [x, y] <:+: l' := by
  have hfirst : ∀ more, ¬ [x, y] <+: c :: more :=
    fun more h => hx (List.cons_prefix_cons.mp h).1.symm
  have hsecond : ∀ more, ¬ [y] <+: c :: more := fun more h => hy (List.cons_prefix_cons.mp h).1.symm
  induction l with
  | nil => simp [List.infix_cons_iff, hfirst]
  | cons a l ih =>
    have hstart : [x, y] <+: a :: (l ++ c :: l') ↔ [x, y] <+: a :: l := by
      cases l with
      | nil => simp [List.cons_prefix_cons, hsecond]
      | cons b l => simp [List.cons_prefix_cons]
    rw [List.cons_append, List.infix_cons_iff, List.infix_cons_iff, hstart, or_assoc]
    exact or_congr_right ih

namespace Split

variable {α : Type} [DecidableEq α] {separator : α}

theorem not_mem_of_once? {l before after : List α} (h : once? separator l = some (before, after)) :
    separator ∉ before := by
  induction l generalizing before with
  | nil => cases h
  | cons a l ih =>
    rw [once?] at h
    split at h
    · cases h
      exact List.not_mem_nil
    · next hne =>
      obtain ⟨⟨before', after'⟩, hrest, h⟩ := Option.map_eq_some_iff.mp h
      cases h
      exact List.not_mem_cons_of_ne_of_not_mem (Ne.symm hne) (ih hrest)

end Split

namespace Multipart

/-- The parameters in the first header line of a part. -/
def readDisposition? (line : Bytes) : Option (List (String × String)) := do
  let (_, value) ← readField? line
  let text ← value.toList.dropPrefix? "form-data".toList
  readParameters? text

theorem not_mem_of_readParameters? {text : List Char} {parameters : List (String × String)}
    (h : readParameters? text = some parameters) :
    ∀ parameter ∈ parameters, '\x22' ∉ parameter.2.toList := by
  induction hlength : text.length using Nat.strongRecOn generalizing text parameters with
  | _ n ih =>
    rw [readParameters?.eq_def] at h
    split at h
    · cases h
      simp
    · next text =>
      split at h
      · next name quoted hname =>
        split at h
        · next value rest hvalue =>
          obtain ⟨others, hothers, h⟩ := Option.map_eq_some_iff.mp h
          cases h
          have hquoted := length_of_once? hname
          have hrest := length_of_once? hvalue
          simp only [List.length_cons] at hlength hquoted
          refine List.forall_mem_cons.mpr ⟨?_, ih rest.length (by omega) hothers rfl⟩
          rw [String.toList_ofList]
          exact Split.not_mem_of_once? hvalue
        · cases h
      · cases h
    · cases h

/-- No line that was read goes on after a line break. -/
theorem not_infix_of_readLines? {bytes rest : Bytes} {lines : List Bytes}
    (h : readLines? bytes = some (lines, rest)) :
    ∀ line ∈ lines, ¬ lineBreak <:+: line := by
  induction hlength : bytes.length using Nat.strongRecOn generalizing bytes lines with
  | _ n ih =>
    rw [readLines?] at h
    split at h
    · cases h
      simp
    · split at h
      · next line later hline =>
        obtain ⟨⟨lines', rest'⟩, hread, h⟩ := Option.map_eq_some_iff.mp h
        cases h
        have hlater := length_of_dropInfix? hline
        simp only [lineBreak, List.length_cons] at hlater
        refine List.forall_mem_cons.mpr ⟨?_, ih later.length (by omega) hread rfl⟩
        intro hfound
        obtain ⟨before, after, hfound⟩ := hfound
        obtain ⟨⟨found, heq, hbreak⟩, hfirst⟩ := List.dropInfix?_eq_some_iff.mp hline
        -- The line break that was found is the first one, and this one stands before it.
        have hbefore :=
          hfirst before lineBreak (after ++ found ++ later) (by rw [heq, ← hfound]; simp) (by simp)
        have hlengths := congrArg List.length hfound
        simp only [lineBreak, List.length_append, List.length_cons] at hlengths hbefore
        omega
      · cases h

end Multipart

/-! ## Unbroken lines -/

instance (s : String) : Decidable (Unbroken s) := inferInstanceAs (Decidable (¬ _))

theorem unbroken_empty : Unbroken "" := by decide

section

variable {c : Char} (hc : c.toNat < 0x80 ∧ c ≠ '\r' ∧ c ≠ '\n')
include hc

/-- A character that is no half of a line break keeps apart what stands before it and what stands
after it. -/
theorem unbroken_append_cons {cs ds : List Char} : Unbroken (String.ofList (cs ++ c :: ds)) ↔
    Unbroken (String.ofList cs) ∧ Unbroken (String.ofList ds) := by
  obtain ⟨hascii, hr, hn⟩ := hc
  have hbyte : Utf8.ofChars (cs ++ c :: ds) =
      Utf8.ofChars cs ++ UInt8.ofNat c.toNat :: Utf8.ofChars ds := by
    rw [Utf8.ofChars_append, Utf8.ofChars_cons, Utf8.utf8EncodeChar_of_lt hascii,
      List.singleton_append]
  have hne : ∀ d : Char, d.toNat < 0x80 → c ≠ d → UInt8.ofNat c.toNat ≠ UInt8.ofNat d.toNat := by
    intro d hd hcd hsame
    have hnum := congrArg UInt8.toNat hsame
    rw [Utf8.toNat_ofNat_of_lt (by omega), Utf8.toNat_ofNat_of_lt (by omega)] at hnum
    exact hcd (by rw [← Char.ofNat_toNat c, hnum, Char.ofNat_toNat])
  simp only [Unbroken, Utf8.encode_ofList, hbyte, ← not_or]
  exact not_congr (pair_infix_append_cons (hne '\r' (by decide) hr) (hne '\n' (by decide) hn))

theorem unbroken_cons {ds : List Char} :
    Unbroken (String.ofList (c :: ds)) ↔ Unbroken (String.ofList ds) := by
  rw [← List.nil_append (c :: ds), unbroken_append_cons hc, and_iff_right unbroken_empty]

end

theorem unbroken_field {name value : String} :
    Unbroken (name ++ ": " ++ value) ↔ Unbroken name ∧ Unbroken value := by
  have htext :
      name ++ ": " ++ value = String.ofList (name.toList ++ ':' :: ' ' :: value.toList) := by
    apply String.toList_inj.mp
    simp
  rw [htext, unbroken_append_cons (by decide), unbroken_cons (by decide), String.ofList_toList,
    String.ofList_toList]

theorem Multipart.unbroken_parameters (start : List Char) (parameters : List (String × String)) :
    Unbroken (String.ofList (start ++ parameters.flatMap parameterText)) ↔
      Unbroken (String.ofList start) ∧ ∀ parameter ∈ parameters, Unbroken parameter.1 ∧
        Unbroken parameter.2 := by
  induction parameters generalizing start with
  | nil => simp
  | cons parameter parameters ih =>
    have htext : start ++ (parameter :: parameters).flatMap parameterText =
        start ++ ';' :: ' ' :: (parameter.1.toList ++
        '=' :: '\x22' :: (parameter.2.toList ++ '\x22' :: parameters.flatMap parameterText)) := by
      simp [parameterText]
    have hrest := ih []
    rw [List.nil_append, and_iff_right unbroken_empty] at hrest
    rw [htext, unbroken_append_cons (by decide), unbroken_cons (by decide),
      unbroken_append_cons (by decide), unbroken_cons (by decide), unbroken_append_cons (by decide),
      hrest, List.forall_mem_cons, String.ofList_toList, String.ofList_toList, and_assoc]

/-! ## Parts that differ in their names -/

namespace Part

variable {p p' : Part}

/-- The parts agree in all but the name and the file name. -/
structure SameButNames (p p' : Part) : Prop where
  contents : p'.contents = p.contents
  mediaType : p'.mediaType = p.mediaType
  headers : p'.headers = p.headers

/-- What stands between a name and a file name. -/
def nameEnd : List Char := "\"; filename=\"".toList

/-- The text from the first quote to the last one. -/
def label (p : Part) : List Char :=
  p.name.toList ++
    match p.fileName with
    | some fileName => nameEnd ++ fileName.toList
    | none => []

theorem toList_disposition (p : Part) :
    p.disposition.toList = "Content-Disposition: form-data; name=\"".toList ++ p.label ++
      ['\x22'] := by
  have hend : nameEnd = '\x22' :: "; filename=\"".toList := by decide
  have hquote : "\"".toList = ['\x22'] := by decide
  unfold disposition label
  cases p.fileName with
  | none => simp only [String.toList_append, hquote, String.toList_empty, List.append_nil]
  | some fileName =>
    simp only [String.toList_append, hquote, hend, List.append_assoc, List.cons_append,
      List.nil_append]

/-- The bytes tell the label and nothing else of the name and the file name. -/
theorem bytes_eq_iff (h : p.SameButNames p') : p'.bytes = p.bytes ↔ p'.label = p.label := by
  have hlines : p'.bytes = p.bytes ↔ p'.disposition = p.disposition := by
    simp only [bytes, headerLines, h.contents, h.mediaType, h.headers, List.append_assoc,
      List.flatMap_append, List.flatMap_singleton, line, List.append_cancel_right_eq]
    exact Utf8.encode_injective.eq_iff
  rw [hlines, ← String.toList_inj, toList_disposition, toList_disposition,
    List.append_cancel_right_eq, List.append_cancel_left_eq]

theorem eq_of_label_eq (h : p.SameButNames p') (hname : p'.name = p.name)
    (hfileName : p'.fileName = p.fileName) :
    p' = p := by
  cases p
  cases p'
  cases h
  simp_all

/-- A name without quotes ends where the first quote stands. -/
theorem eq_of_bytes_eq (h : p.SameButNames p') (hp : '\x22' ∉ p.name.toList)
    (hp' : '\x22' ∉ p'.name.toList) (hbytes : p'.bytes = p.bytes) : p' = p := by
  have hlabel := (bytes_eq_iff h).mp hbytes
  have hend : nameEnd = '\x22' :: "; filename=\"".toList := by decide
  have hquote : ∀ text : List Char, '\x22' ∈ nameEnd ++ text := fun text => by simp [hend]
  unfold label at hlabel
  cases hfile : p.fileName with
  | none =>
    cases hfile' : p'.fileName with
    | none =>
      simp only [hfile, hfile', List.append_nil, String.toList_inj] at hlabel
      exact eq_of_label_eq h hlabel (hfile'.trans hfile.symm)
    | some fileName' =>
      simp only [hfile, hfile', List.append_nil] at hlabel
      exact absurd (hlabel ▸ List.mem_append_right _ (hquote _)) hp
  | some fileName =>
    cases hfile' : p'.fileName with
    | none =>
      simp only [hfile, hfile', List.append_nil] at hlabel
      exact absurd (hlabel ▸ List.mem_append_right _ (hquote _)) hp'
    | some fileName' =>
      simp only [hfile, hfile', hend, List.cons_append] at hlabel
      have hsplit := congrArg (Split.once? '\x22') hlabel
      rw [Split.once?_append hp, Split.once?_append hp', Option.some_inj, Prod.mk.injEq] at hsplit
      obtain ⟨hname, hrest⟩ := hsplit
      have hsame := String.toList_inj.mp (List.append_cancel_left hrest)
      exact eq_of_label_eq h (String.toList_inj.mp hname) (by rw [hfile, hfile', hsame])

/-- The part has the bytes of another one exactly if it has a file name, which could be the end of a
name, or its name holds what stands between a name and a file name. -/
theorem exists_twin_iff : (∃ p', p.SameButNames p' ∧ p' ≠ p ∧ p'.bytes = p.bytes) ↔
    p.fileName.isSome ∨ nameEnd <:+: p.name.toList := by
  constructor
  · intro ⟨p', h, hne, hbytes⟩
    have hlabel := (bytes_eq_iff h).mp hbytes
    cases hfile : p.fileName with
    | some fileName => exact .inl rfl
    | none =>
      right
      cases hfile' : p'.fileName with
      | some fileName' =>
        simp only [label, hfile, hfile', List.append_nil] at hlabel
        exact ⟨p'.name.toList, fileName'.toList, by rw [← hlabel, List.append_assoc]⟩
      | none =>
        simp only [label, hfile, hfile', List.append_nil, String.toList_inj] at hlabel
        exact absurd (eq_of_label_eq h hlabel (hfile'.trans hfile.symm)) hne
  · intro h
    cases hfile : p.fileName with
    | some fileName =>
      have htwin : p.SameButNames { p with name := String.ofList p.label, fileName := none } :=
        ⟨rfl, rfl, rfl⟩
      refine ⟨_, htwin, fun hsame => ?_, (bytes_eq_iff htwin).mpr ?_⟩
      · have hnone := congrArg Part.fileName hsame
        rw [hfile] at hnone
        cases hnone
      · rw [label, String.toList_ofList, List.append_nil]
    | none =>
      obtain ⟨before, after, hfound⟩ := h.resolve_left (by simp [hfile])
      have htwin : p.SameButNames
          { p with name := String.ofList before, fileName := some (String.ofList after) } :=
        ⟨rfl, rfl, rfl⟩
      refine ⟨_, htwin, fun hsame => ?_, (bytes_eq_iff htwin).mpr ?_⟩
      · have hsome := congrArg Part.fileName hsame
        rw [hfile] at hsome
        cases hsome
      · simp only [label, hfile, String.toList_ofList, List.append_nil, ← hfound, List.append_assoc]

/-! ## Header lines and parameters -/

/-- The media type and the further headers hold no line break. -/
@[mk_iff]
structure Plain (p : Part) : Prop where
  mediaType : ∀ mediaType ∈ p.mediaType, Unbroken mediaType
  headers : ∀ header ∈ p.headers, Unbroken header.1 ∧ Unbroken header.2

instance (p : Part) : Decidable p.Plain := decidable_of_iff _ (plain_iff p).symm

theorem forall_parameters {P : String → Prop} : (∀ parameter ∈ p.parameters, P parameter.2) ↔
    P p.name ∧ ∀ fileName ∈ p.fileName, P fileName := by
  cases hfile : p.fileName <;> simp [parameters, hfile]

theorem length_headerLines :
    p.headerLines.length = 1 + p.mediaType.toList.length + p.headers.length := by
  cases hmediaType : p.mediaType <;> simp [headerLines, hmediaType] <;> omega

theorem unbroken_formData :
    Unbroken p.formData ↔ ∀ parameter ∈ p.parameters, Unbroken parameter.2 := by
  have hformData : Unbroken "form-data" := by decide
  have hname : Unbroken "name" := by decide
  have hfileName : Unbroken "filename" := by decide
  have hnames : ∀ parameter ∈ p.parameters, Unbroken parameter.1 := by
    cases hfile : p.fileName <;> simp [parameters, hfile, hname, hfileName]
  rw [← String.ofList_toList (s := p.formData), toList_formData, Multipart.unbroken_parameters,
    String.ofList_toList, and_iff_right hformData]
  exact forall₂_congr fun parameter hparameter => and_iff_right (hnames parameter hparameter)

theorem unbroken_headerLines (hp : p.Plain) : (∀ s ∈ p.headerLines, Unbroken s) ↔
    ∀ parameter ∈ p.parameters, Unbroken parameter.2 := by
  have hnames : Unbroken "Content-Disposition" ∧ Unbroken "Content-Type" := by decide
  obtain ⟨hdisposition, htype⟩ := hnames
  have hlines : (∀ s ∈ p.headerLines, Unbroken s) ↔
      ∀ field ∈ p.fields, Unbroken field.1 ∧ Unbroken field.2 := by
    simp only [headerLines_eq, List.forall_mem_map, unbroken_field]
  have hothers : ∀ field ∈ (p.mediaType.map ("Content-Type", ·)).toList ++ p.headers,
      Unbroken field.1 ∧ Unbroken field.2 := by
    intro field hfield
    rcases List.mem_append.mp hfield with hfield | hfield
    · obtain ⟨mediaType, hmediaType, rfl⟩ := Option.map_eq_some_iff.mp (Option.mem_toList.mp hfield)
      exact ⟨htype, hp.mediaType mediaType hmediaType⟩
    · exact hp.headers field hfield
  rw [hlines, fields, List.forall_mem_cons, and_iff_left hothers, and_iff_right hdisposition,
    unbroken_formData]

/-- The header lines are read as they were written exactly if no name holds a line break. -/
theorem readLines?_bytes_iff (hp : p.Plain) : Multipart.readLines? p.bytes =
      some (p.headerLines.map Utf8.encode,
        Multipart.lineBreak ++ (p.contents ++ Multipart.lineBreak)) ↔
    ∀ parameter ∈ p.parameters, Unbroken parameter.2 := by
  have hbytes : p.bytes = p.headerLines.flatMap line ++
      (Multipart.lineBreak ++ (p.contents ++ Multipart.lineBreak)) := by
    simp [bytes, Multipart.lineBreak]
  rw [← unbroken_headerLines hp]
  constructor
  · intro hread s hs
    exact Multipart.not_infix_of_readLines? hread _ (List.mem_map_of_mem hs)
  · intro hlines
    rw [hbytes]
    exact Multipart.readLines?_lines (fun s hs => ⟨hlines s hs, ne_empty_of_mem_headerLines hs⟩) _

theorem readDisposition?_disposition (p : Part) :
    Multipart.readDisposition? (Utf8.encode p.disposition) =
    Multipart.readParameters? (p.parameters.flatMap Multipart.parameterText) := by
  have htext : p.formData.toList.dropPrefix? "form-data".toList =
      some (p.parameters.flatMap Multipart.parameterText) := by
    rw [toList_formData]
    exact List.dropPrefix?_append_of_beq _ (beq_self_eq_true _)
  have hcolon : ':' ∉ "Content-Disposition".toList := by decide
  simp only [Multipart.readDisposition?, disposition_eq, Multipart.readField?_encode hcolon, htext,
    Option.bind_eq_bind, Option.bind_some]

/-- The parameters are read as they were written exactly if no name holds a quote. -/
theorem readDisposition?_iff :
    Multipart.readDisposition? (Utf8.encode p.disposition) = some p.parameters ↔
    ∀ parameter ∈ p.parameters, '\x22' ∉ parameter.2.toList := by
  rw [readDisposition?_disposition]
  constructor
  · exact Multipart.not_mem_of_readParameters?
  · intro hquotes
    have hnames : ∀ parameter ∈ p.parameters, '=' ∉ parameter.1.toList := by
      cases hfile : p.fileName <;> simp [parameters, hfile]
    exact Multipart.readParameters?_text fun parameter h =>
      ⟨hnames parameter h, hquotes parameter h⟩

/-- What the bytes of a part tell of its names: the text between the first quote and the last one.
Names without quotes are told apart; another part has the same bytes if there is a file name, or
what stands between a name and a file name stands in the name. The header lines are one for the
names, one for a media type and one for each further header, and they are read so exactly if no line
break is in the names; the parameters are read as they were given exactly if no quote is. -/
theorem bytes_tell (p : Part) (hp : p.Plain) :
    (∀ p', p.SameButNames p' → (p'.bytes = p.bytes ↔ p'.label = p.label)) ∧
      (∀ p', p.SameButNames p' → '\x22' ∉ p.name.toList → '\x22' ∉ p'.name.toList →
        p'.bytes = p.bytes → p' = p) ∧
      ((∃ p', p.SameButNames p' ∧ p' ≠ p ∧ p'.bytes = p.bytes) ↔
        p.fileName.isSome ∨ nameEnd <:+: p.name.toList) ∧
      p.headerLines.length = 1 + p.mediaType.toList.length + p.headers.length ∧
      (Multipart.readLines? p.bytes =
          some (p.headerLines.map Utf8.encode,
            Multipart.lineBreak ++ (p.contents ++ Multipart.lineBreak)) ↔
        Unbroken p.name ∧ ∀ fileName ∈ p.fileName, Unbroken fileName) ∧
      (Multipart.readDisposition? (Utf8.encode p.disposition) = some p.parameters ↔
        '\x22' ∉ p.name.toList ∧ ∀ fileName ∈ p.fileName, '\x22' ∉ fileName.toList) := by
  refine ⟨fun p' h => bytes_eq_iff h, fun p' h => eq_of_bytes_eq h, exists_twin_iff,
    length_headerLines, ?_, ?_⟩
  · rw [readLines?_bytes_iff hp]
    exact forall_parameters
  · rw [readDisposition?_iff]
    exact forall_parameters (P := fun value => '\x22' ∉ value.toList)

/-- A name with a quote and a backslash, and a file name beyond ASCII. -/
theorem bytes_tell_quote :
    let p : Part := ⟨"a\\\"b", [0x78], some "é.txt", some "text/plain", [("X-Note", "1")]⟩
    p.Plain ∧ (∃ p', p.SameButNames p' ∧ p' ≠ p ∧ p'.bytes = p.bytes) ∧ p.headerLines.length = 3 ∧
      Multipart.readLines? p.bytes =
        some (p.headerLines.map Utf8.encode, [0x0D, 0x0A, 0x78, 0x0D, 0x0A]) ∧
      Multipart.readDisposition? (Utf8.encode p.disposition) ≠ some p.parameters := by
  intro p
  have hp : p.Plain := by decide
  obtain ⟨-, -, htwin, hlength, hlines, hparameters⟩ := bytes_tell p hp
  have hunbroken : Unbroken p.name ∧ ∀ fileName ∈ p.fileName, Unbroken fileName := by decide
  have hquote : ¬ ('\x22' ∉ p.name.toList ∧ ∀ fileName ∈ p.fileName, '\x22' ∉ fileName.toList) := by
    decide
  exact ⟨hp, htwin.mpr (.inl rfl), hlength, hlines.mpr hunbroken, mt hparameters.mp hquote⟩

/-- A name can pass for a name and a file name, bring in a header line, and bring in a parameter. -/
theorem not_bytes_tell_names :
    ¬ (∀ p p' : Part, p.Plain → p.SameButNames p' → p' ≠ p → p'.bytes ≠ p.bytes) ∧
      ¬ (∀ p : Part, p.Plain → Multipart.readLines? p.bytes =
        some (p.headerLines.map Utf8.encode,
          Multipart.lineBreak ++ (p.contents ++ Multipart.lineBreak))) ∧
      ¬ (∀ p : Part, p.Plain → Multipart.readDisposition? (Utf8.encode p.disposition) =
        some p.parameters) := by
  refine ⟨fun h => ?_, fun h => ?_, fun h => ?_⟩
  · exact h ⟨"a\"; filename=\"b", [0x78], none, none, []⟩ ⟨"a", [0x78], some "b", none,
      []⟩ (by decide) ⟨rfl, rfl, rfl⟩ (by decide) (by decide)
  · have hplain : Plain ⟨"a\"\r\nX-Note: \"1", [0x78], none, none, []⟩ := by decide
    have hname := forall_parameters.mp ((readLines?_bytes_iff hplain).mp (h _ hplain))
    exact absurd hname.1 (by decide)
  · have hplain : Plain ⟨"a\"; filename=\"b", [0x78], none, none, []⟩ := by decide
    have hname :=
      forall_parameters (P := fun value => '\x22' ∉ value.toList).mp
        (readDisposition?_iff.mp (h _ hplain))
    exact absurd hname.1 (by decide)

end Part

end Courier
