import Courier.Multipart
import Courier.Text.Split
import Courier.Proofs.ReadingBack.Form
import Mathlib.Data.List.Infix
/-
A multipart body is read back as the parts that were written
(`Multipart.read?_body`). The reader finds the delimiter, a line break and the
boundary line, wherever it first occurs (`Multipart.read?`): the header lines of a
part go on up to a blank line, and its contents up to the next delimiter.

A line break is the only place where a delimiter can begin, and it holds no other,
so none is found that lies half in the contents of a part
(`Multipart.dropInfix?_append`). Header names may be compared with regard to case
or without.
-/
namespace Courier

/-! ## The reader -/

namespace Multipart

/-- Before a line begins and after it ends. -/
def lineBreak : Bytes := [0x0D, 0x0A]

/-- What ends the contents of a part. -/
def delimiter (boundary : String) : Bytes := lineBreak ++ Utf8.encode ("--" ++ boundary)

theorem length_of_dropInfix? {α : Type} [BEq α] {l i p s : List α}
    (h : l.dropInfix? i = some (p, s)) :
    s.length + i.length ≤ l.length := by
  obtain ⟨⟨i', rfl, hi⟩, -⟩ := List.dropInfix?_eq_some_iff.mp h
  have hlength := List.length_eq_of_beq hi
  simp only [List.length_append]
  omega

theorem length_of_once? {α : Type} [DecidableEq α] {separator : α} {l before after : List α}
    (h : Split.once? separator l = some (before, after)) : after.length < l.length := by
  induction l generalizing before with
  | nil => cases h
  | cons a l ih =>
    rw [Split.once?] at h
    split at h
    · cases h
      exact Nat.lt_succ_self _
    · obtain ⟨⟨before', after'⟩, hrest, h⟩ := Option.map_eq_some_iff.mp h
      cases h
      exact Nat.lt_succ_of_lt (ih hrest)

/-- The lines up to a blank one, and all that follows them, beginning with the line break of the
blank one. -/
def readLines? (bytes : Bytes) : Option (List Bytes × Bytes) :=
  if lineBreak.isPrefixOf bytes then some ([], bytes)
  else
    match _ : bytes.dropInfix? lineBreak with
    | some (line, rest) => (readLines? rest).map fun read => (line :: read.1, read.2)
    | none => none
termination_by bytes.length
decreasing_by
  have hlength := length_of_dropInfix? ‹bytes.dropInfix? lineBreak = some (line, rest)›
  simp only [lineBreak, List.length_cons] at hlength
  omega

/-- A header line: what stands before the first colon, and what stands behind it and a blank. -/
def readField? (line : Bytes) : Option (String × String) := do
  let text ← Utf8.decode? line
  let (name, value) ← Split.once? ':' text.toList
  let value ← value.dropPrefix? [' ']
  some (String.ofList name, String.ofList value)

/-- Parameters: each stands behind a semicolon and a blank, its value in quotes. -/
def readParameters? : List Char → Option (List (String × String))
  | [] => some []
  | ';' :: ' ' :: text =>
    match _ : Split.once? '=' text with
    | some (name, '\x22' :: quoted) =>
      match _ : Split.once? '\x22' quoted with
      | some (value, rest) =>
        (readParameters? rest).map fun others => (String.ofList name, String.ofList value) :: others
      | none => none
    | _ => none
  | _ => none
termination_by text => text.length
decreasing_by
  have hquoted := length_of_once? ‹Split.once? '=' text = some (name, '\x22' :: quoted)›
  have hrest := length_of_once? ‹Split.once? '\x22' quoted = some (value, rest)›
  simp only [List.length_cons] at *
  omega

/-- The part with these header fields and contents. The first field that is named so tells its
disposition, the first that is named so its media type. -/
def readPart? (same : String → String → Bool) (fields : List (String × String)) (contents : Bytes) :
    Option Part := do
  let disposition ← fields.find? fun field => same field.1 "Content-Disposition"
  let text ← disposition.2.toList.dropPrefix? "form-data".toList
  let parameters ← readParameters? text
  let name ← parameters.lookup "name"
  let others := fields.eraseP fun field => same field.1 "Content-Disposition"
  some {
    name, contents
    fileName := parameters.lookup "filename"
    mediaType := (others.find? fun field => same field.1 "Content-Type").map (·.2)
    headers := others.eraseP fun field => same field.1 "Content-Type" }

/-- The part that begins behind a delimiter, and what follows the next one. -/
def readNext? (same : String → String → Bool) (boundary : String) (bytes : Bytes) :
    Option (Part × Bytes) := do
  let head ← bytes.dropPrefix? lineBreak
  let (lines, block) ← readLines? head
  let (blank, rest) ← block.dropInfix? (delimiter boundary)
  let fields ← lines.mapM readField?
  let part ← readPart? same fields (blank.drop lineBreak.length)
  some (part, rest)

theorem length_of_readLines? {bytes rest : Bytes} {lines : List Bytes}
    (h : readLines? bytes = some (lines, rest)) :
    rest.length ≤ bytes.length := by
  induction hlength : bytes.length using Nat.strongRecOn generalizing bytes lines with
  | _ n ih =>
    rw [readLines?] at h
    split at h
    · cases h
      exact Nat.le_of_eq hlength
    · split at h
      · next line later hline =>
        obtain ⟨⟨lines', rest'⟩, hread, h⟩ := Option.map_eq_some_iff.mp h
        cases h
        have hlater := length_of_dropInfix? hline
        simp only [lineBreak, List.length_cons] at hlater
        have hrest := ih later.length (by omega) hread rfl
        omega
      · cases h

theorem length_of_readNext? {same : String → String → Bool} {boundary : String}
    {bytes rest : Bytes} {p : Part} (h : readNext? same boundary bytes = some (p, rest)) :
    rest.length < bytes.length := by
  simp only [readNext?, Option.bind_eq_bind, Option.bind_eq_some_iff] at h
  obtain ⟨head, hhead, ⟨lines, block⟩, hlines, ⟨blank, rest'⟩, hblock, fields, -, part, -, h⟩ := h
  cases h
  obtain ⟨start, rfl, -⟩ := List.dropPrefix?_eq_some_iff.mp hhead
  have hlines := length_of_readLines? hlines
  have hblock := length_of_dropInfix? hblock
  simp only [delimiter, lineBreak, List.length_append, List.length_cons] at hblock ⊢
  omega

/-- The parts behind a delimiter. Two dashes say that there is none. -/
def readParts? (same : String → String → Bool) (boundary : String) (bytes : Bytes) :
    Option (List Part) :=
  if [0x2D, 0x2D].isPrefixOf bytes then some []
  else
    match _ : readNext? same boundary bytes with
    | some (part, rest) => (readParts? same boundary rest).map (part :: ·)
    | none => none
termination_by bytes.length
decreasing_by exact length_of_readNext? ‹readNext? same boundary bytes = some (part, rest)›

/-- The parts of a body, header names compared by `same`. What stands before the first boundary line
does not count, nor what stands after the last one. -/
def read? (same : String → String → Bool) (boundary : String) (body : Bytes) :
    Option (List Part) := do
  let (_, rest) ← (lineBreak ++ body).dropInfix? (delimiter boundary)
  readParts? same boundary rest

example : read? Ascii.sameIgnoringCase "b" (Utf8.encode ("before\r\n--b\r\ncontent-type: a/b\r\n" ++
    "CONTENT-DISPOSITION: form-data; name=\"n\"\r\n\r\n--\r\n--b--\r\nafter")) =
      some [⟨"n", Utf8.encode "--", none, some "a/b", []⟩] := by
  decide +kernel

end Multipart

/-! ## What can be told apart -/

/-- The text has no line break in it, nor half of one. -/
def OneLine (s : String) : Prop := '\r' ∉ s.toList ∧ '\n' ∉ s.toList

/-- The text has no whole line break in it. -/
def Unbroken (s : String) : Prop := ¬ Multipart.lineBreak <:+: Utf8.encode s

/-- Nothing in the part looks like what ends it. -/
@[mk_iff]
structure Part.Fits (boundary : String) (p : Part) : Prop where
  name : OneLine p.name ∧ '\x22' ∉ p.name.toList
  fileName : ∀ fileName ∈ p.fileName, OneLine fileName ∧ '\x22' ∉ fileName.toList
  mediaType : ∀ mediaType ∈ p.mediaType, OneLine mediaType
  headers : ∀ header ∈ p.headers, OneLine header.1 ∧ ':' ∉ header.1.toList ∧ OneLine header.2
  contents : ¬ Multipart.delimiter boundary <:+: Multipart.lineBreak ++ p.contents

instance (s : String) : Decidable (OneLine s) := inferInstanceAs (Decidable (_ ∧ _))

instance (boundary : String) (p : Part) : Decidable (p.Fits boundary) :=
  decidable_of_iff _ (Part.fits_iff boundary p).symm

theorem OneLine.append {s t : String} (hs : OneLine s) (ht : OneLine t) : OneLine (s ++ t) := by
  simp only [OneLine, String.toList_append, List.mem_append, not_or]
  exact ⟨⟨hs.1, ht.1⟩, hs.2, ht.2⟩

theorem OneLine.not_mem_encode {s : String} (hs : OneLine s) : 0x0D ∉ Utf8.encode s :=
  fun hmem => hs.1 (Utf8.mem_of_mem_encode (c := '\r') (by decide) hmem)

theorem OneLine.unbroken {s : String} (hs : OneLine s) : Unbroken s :=
  fun hfound => hs.not_mem_encode (hfound.subset List.mem_cons_self)

namespace Multipart

/-! ## Delimiters -/

/-- A list is found where it first stands, if its first element occurs in it but once and it does
not stand before. -/
theorem dropInfix?_append {α : Type} [DecidableEq α] {c : α} {rest l : List α} (hc : c ∉ rest)
    (hl : ¬ c :: rest <:+: l) (l' : List α) :
    (l ++ (c :: rest) ++ l').dropInfix? (c :: rest) = some (l, l') := by
  refine List.dropInfix?_eq_some_iff.mpr ⟨⟨c :: rest, rfl, beq_self_eq_true _⟩,
    fun p i s heq hi => ?_⟩
  obtain rfl := eq_of_beq hi
  rw [List.append_assoc, List.append_assoc] at heq
  obtain ⟨x, rfl, -⟩ | ⟨x, rfl, hx⟩ := List.append_eq_append_iff.mp heq
  · simp
  -- It stands before the end of `l`, by a part `x` of it. So it reaches into itself, or lies in
  -- `l`.
  obtain ⟨y, rfl, -⟩ | ⟨y, hxy, hy⟩ := List.append_eq_append_iff.mp hx
  · exact absurd ⟨p, y, by simp⟩ hl
  · cases x with
    | nil => simp
    | cons a x =>
      obtain ⟨rfl, rfl⟩ := List.cons.inj hxy
      cases y with
      | nil => exact absurd ⟨p, [], by simp⟩ hl
      | cons b y =>
        obtain ⟨rfl, -⟩ := List.cons.inj hy
        exact absurd (List.mem_append_right x List.mem_cons_self) hc

/-- A line is read up to the line break behind it. -/
theorem dropInfix?_line {s : String} (hs : Unbroken s) (rest : Bytes) :
    (Part.line s ++ rest).dropInfix? lineBreak = some (Utf8.encode s, rest) :=
  dropInfix?_append (by decide) hs rest

/-- What comes before a delimiter is read up to there, if none stands in it. -/
theorem dropInfix?_delimiter {boundary : String} {bytes : Bytes} (hboundary : OneLine boundary)
    (hbytes : ¬ delimiter boundary <:+: bytes) (rest : Bytes) :
    (bytes ++ delimiter boundary ++ rest).dropInfix? (delimiter boundary) = some (bytes, rest) := by
  have hdashes : OneLine "--" := by decide
  have hbreak : (0x0D : UInt8) ∉ 0x0A :: Utf8.encode ("--" ++ boundary) :=
    List.not_mem_cons_of_ne_of_not_mem (by decide) (hdashes.append hboundary).not_mem_encode
  exact dropInfix?_append hbreak hbytes rest

/-! ## Header lines -/

theorem encode_eq_nil {s : String} (h : Utf8.encode s = []) : s = "" := by
  have hread := Utf8.decode?_encode s
  rw [h] at hread
  exact (Option.some.inj hread).symm

/-- A line that is not blank is read before those that follow it. -/
theorem readLines?_line {s : String} (hs : Unbroken s) (hne : s ≠ "") (rest : Bytes) :
    readLines? (Part.line s ++ rest) = (readLines? rest).map fun read =>
      (Utf8.encode s :: read.1, read.2) := by
  have hdrop := dropInfix?_line hs rest
  have hfirst : ¬ lineBreak.isPrefixOf (Part.line s ++ rest) = true := by
    intro hblank
    obtain ⟨more, hmore⟩ := List.isPrefixOf_iff_prefix.mp hblank
    rw [Part.line, List.append_assoc] at hmore
    -- The line break would be within the text, or half of it.
    obtain ⟨within, hwithin, -⟩ | ⟨half, hhalf, hrest⟩ := List.append_eq_append_iff.mp hmore
    · exact hs ⟨[], within, hwithin.symm⟩
    · match hbytes : Utf8.encode s with
      | [] => exact hne (encode_eq_nil hbytes)
      | [b] =>
        rw [hbytes] at hhalf
        obtain ⟨-, rfl⟩ := List.cons.inj hhalf
        cases hrest
      | b :: b' :: bytes =>
        rw [hbytes] at hhalf
        obtain ⟨rfl, hsecond⟩ := List.cons.inj hhalf
        obtain ⟨rfl, -⟩ := List.cons.inj hsecond
        exact hs ⟨[], bytes, hbytes.symm⟩
  rw [readLines?, if_neg hfirst]
  split
  · next line later hline =>
    rw [hdrop] at hline
    cases hline
    rfl
  · next hline =>
    rw [hdrop] at hline
    cases hline

theorem readLines?_lines {lines : List String} (hlines : ∀ s ∈ lines, Unbroken s ∧ s ≠ "")
    (rest : Bytes) :
    readLines? (lines.flatMap Part.line ++ (lineBreak ++ rest)) =
      some (lines.map Utf8.encode, lineBreak ++ rest) := by
  induction lines with
  | nil =>
    rw [List.flatMap_nil, List.nil_append, readLines?, if_pos]
    · rfl
    · exact List.isPrefixOf_iff_prefix.mpr (List.prefix_append _ _)
  | cons s lines ih =>
    obtain ⟨⟨hs, hne⟩, hrest⟩ := List.forall_mem_cons.mp hlines
    rw [List.flatMap_cons, List.append_assoc, readLines?_line hs hne, ih hrest]
    rfl

theorem readField?_encode {name : String} (hname : ':' ∉ name.toList) (value : String) :
    readField? (Utf8.encode (name ++ ": " ++ value)) = some (name, value) := by
  have htext : (name ++ ": " ++ value).toList = name.toList ++ ':' :: ([' '] ++ value.toList) := by
    simp [String.toList_append]
  have hblank : ([' '] ++ value.toList).dropPrefix? [' '] = some value.toList :=
    List.dropPrefix?_append_of_beq _ (beq_self_eq_true _)
  simp only [readField?, Utf8.decode?_encode, Option.bind_eq_bind, Option.bind_some, htext,
    Split.once?_append hname, hblank, String.ofList_toList]

/-! ## Dispositions -/

/-- A parameter as it is written. -/
def parameterText (parameter : String × String) : List Char :=
  ';' :: ' ' :: (parameter.1.toList ++ '=' :: '\x22' :: (parameter.2.toList ++ ['\x22']))

theorem readParameters?_text {parameters : List (String × String)}
    (hparameters : ∀ parameter ∈ parameters, '=' ∉ parameter.1.toList ∧
      '\x22' ∉ parameter.2.toList) :
    readParameters? (parameters.flatMap parameterText) = some parameters := by
  induction parameters with
  | nil => rw [List.flatMap_nil, readParameters?]
  | cons parameter parameters ih =>
    obtain ⟨⟨hname, hvalue⟩, hrest⟩ := List.forall_mem_cons.mp hparameters
    have htext : (parameter :: parameters).flatMap parameterText =
        ';' :: ' ' :: (parameter.1.toList ++
        '=' :: '\x22' :: (parameter.2.toList ++ '\x22' :: parameters.flatMap parameterText)) := by
      simp [parameterText]
    rw [htext, readParameters?]
    have hfirst := Split.once?_append hname
      ('\x22' :: (parameter.2.toList ++ '\x22' :: parameters.flatMap parameterText))
    have hsecond := Split.once?_append hvalue (parameters.flatMap parameterText)
    split
    · next name quoted hread =>
      rw [hfirst] at hread
      cases hread
      split
      · next value rest hread =>
        rw [hsecond] at hread
        cases hread
        rw [ih hrest]
        simp
      · next hread =>
        rw [hsecond] at hread
        cases hread
    · next hread => exact (hread _ _ hfirst).elim

end Multipart

/-! ## The fields of a part -/

namespace Part

variable {boundary : String} {p : Part}

/-- The parameters that name the part. -/
def parameters (p : Part) : List (String × String) :=
  ("name", p.name) :: (p.fileName.map ("filename", ·)).toList

/-- The value of the field that names the part. -/
def formData (p : Part) : String :=
  String.ofList ("form-data".toList ++ p.parameters.flatMap Multipart.parameterText)

/-- The fields that the header lines show. -/
def fields (p : Part) : List (String × String) :=
  ("Content-Disposition", p.formData) :: ((p.mediaType.map ("Content-Type", ·)).toList ++ p.headers)

theorem toList_formData (p : Part) :
    p.formData.toList = "form-data".toList ++ p.parameters.flatMap Multipart.parameterText :=
      String.toList_ofList

theorem disposition_eq (p : Part) :
    p.disposition = "Content-Disposition" ++ ": " ++ p.formData := by
  have hstart : "Content-Disposition: form-data; name=\"".toList =
      "Content-Disposition".toList ++ ": ".toList ++ "form-data".toList ++ "; name=\"".toList := by
    simp
  apply String.toList_inj.mp
  unfold disposition
  simp only [String.toList_append, toList_formData, parameters, hstart]
  cases p.fileName with
  | none => simp [Multipart.parameterText]
  | some fileName => simp [Multipart.parameterText]

theorem headerLines_eq (p : Part) :
    p.headerLines = p.fields.map fun field => field.1 ++ ": " ++ field.2 := by
  have htype : (p.mediaType.map ("Content-Type: " ++ ·)).toList =
      (p.mediaType.map ("Content-Type", ·)).toList.map fun field => field.1 ++ ": " ++ field.2 := by
    cases p.mediaType <;> rfl
  rw [headerLines, disposition_eq, htype, fields, List.map_cons, List.map_append]
  rfl

theorem not_mem_formData {c : Char} (hc : c ∉ "form-data; =\"".toList)
    (hparameters : ∀ parameter ∈ p.parameters, c ∉ parameter.1.toList ∧ c ∉ parameter.2.toList) :
    c ∉ p.formData.toList := by
  intro hmem
  simp only [toList_formData, List.mem_append, List.mem_flatMap] at hmem
  obtain hmem | ⟨parameter, hparameter, hmem⟩ := hmem
  · have htext : "form-data".toList ⊆ "form-data; =\"".toList := by decide
    exact hc (htext hmem)
  · obtain ⟨hname, hvalue⟩ := hparameters parameter hparameter
    simp_all [Multipart.parameterText]

theorem Fits.parameters (hp : p.Fits boundary) : ∀ parameter ∈ p.parameters,
    ('=' ∉ parameter.1.toList ∧ '\x22' ∉ parameter.2.toList) ∧ OneLine parameter.1 ∧
      OneLine parameter.2 := by
  have hname : '=' ∉ "name".toList ∧ OneLine "name" := by decide
  have hfileName : '=' ∉ "filename".toList ∧ OneLine "filename" := by decide
  refine List.forall_mem_cons.mpr ⟨⟨⟨hname.1, hp.name.2⟩, hname.2, hp.name.1⟩,
    fun parameter hparameter => ?_⟩
  obtain ⟨fileName, hfile, rfl⟩ := Option.map_eq_some_iff.mp (Option.mem_toList.mp hparameter)
  obtain ⟨hline, hquote⟩ := hp.fileName fileName hfile
  exact ⟨⟨hfileName.1, hquote⟩, hfileName.2, hline⟩

theorem Fits.formData (hp : p.Fits boundary) : OneLine p.formData := by
  constructor
  · exact not_mem_formData (by decide) fun parameter h =>
      (hp.parameters parameter h).2.imp And.left And.left
  · exact not_mem_formData (by decide) fun parameter h =>
      (hp.parameters parameter h).2.imp And.right And.right

theorem Fits.fields (hp : p.Fits boundary) :
    ∀ field ∈ p.fields, OneLine field.1 ∧ ':' ∉ field.1.toList ∧ OneLine field.2 := by
  have hdisposition : OneLine "Content-Disposition" ∧ ':' ∉ "Content-Disposition".toList := by
    decide
  have htype : OneLine "Content-Type" ∧ ':' ∉ "Content-Type".toList := by decide
  refine List.forall_mem_cons.mpr ⟨⟨hdisposition.1, hdisposition.2, hp.formData⟩,
    fun field hfield => ?_⟩
  obtain hfield | hfield := List.mem_append.mp hfield
  · obtain ⟨mediaType, hmediaType, rfl⟩ := Option.map_eq_some_iff.mp (Option.mem_toList.mp hfield)
    exact ⟨htype.1, htype.2, hp.mediaType mediaType hmediaType⟩
  · exact hp.headers field hfield

theorem ne_empty_of_mem_headerLines {s : String} (hs : s ∈ p.headerLines) : s ≠ "" := by
  rw [headerLines_eq] at hs
  obtain ⟨field, -, rfl⟩ := List.mem_map.mp hs
  intro hempty
  have hlength := congrArg String.toList hempty
  simp at hlength

theorem Fits.headerLines (hp : p.Fits boundary) : ∀ s ∈ p.headerLines, Unbroken s ∧ s ≠ "" := by
  intro s hs
  refine ⟨?_, ne_empty_of_mem_headerLines hs⟩
  rw [headerLines_eq] at hs
  obtain ⟨field, hfield, rfl⟩ := List.mem_map.mp hs
  obtain ⟨hname, -, hvalue⟩ := hp.fields field hfield
  have hcolon : OneLine ": " := by decide
  exact ((hname.append hcolon).append hvalue).unbroken

end Part

namespace Multipart

/-! ## Reading back -/

theorem mapM_readField? {fields : List (String × String)}
    (hfields : ∀ field ∈ fields, ':' ∉ field.1.toList) :
    ((fields.map fun field => field.1 ++ ": " ++ field.2).map Utf8.encode).mapM readField? =
      some fields := by
  induction fields with
  | nil => rfl
  | cons field fields ih =>
    obtain ⟨hfield, hrest⟩ := List.forall_mem_cons.mp hfields
    rw [List.map_cons, List.map_cons, List.mapM_cons, readField?_encode hfield, ih hrest]
    rfl

section

variable {same : String → String → Bool} {headers : List (String × String)}
  (hself : ∀ s, same s s = true)
include hself

theorem find?_mediaType (hheaders : ∀ header ∈ headers, same header.1 "Content-Type" = false)
    (mediaType : Option String) :
    (((mediaType.map ("Content-Type", ·)).toList ++ headers).find? fun field =>
      same field.1 "Content-Type").map (·.2) = mediaType := by
  cases mediaType with
  | some mediaType => simp [hself]
  | none =>
    have hnone : headers.find? (fun field => same field.1 "Content-Type") = none :=
      List.find?_eq_none.mpr fun header hheader => Bool.eq_false_iff.mp (hheaders header hheader)
    exact congrArg (Option.map _) hnone

theorem eraseP_mediaType (hheaders : ∀ header ∈ headers, same header.1 "Content-Type" = false)
    (mediaType : Option String) :
    (((mediaType.map ("Content-Type", ·)).toList ++ headers).eraseP fun field =>
      same field.1 "Content-Type") = headers := by
  cases mediaType with
  | some mediaType => simp [hself]
  | none => exact List.eraseP_of_forall_not fun header hheader =>
    Bool.eq_false_iff.mp (hheaders header hheader)

end

/-- A part is what its fields and its contents make. -/
theorem readPart?_fields {same : String → String → Bool} {boundary : String} {p : Part}
    (hp : p.Fits boundary) (hself : ∀ s, same s s = true)
    (hheaders : ∀ header ∈ p.headers, same header.1 "Content-Type" = false) :
    readPart? same p.fields p.contents = some p := by
  have hparameters := readParameters?_text fun parameter h => (hp.parameters parameter h).1
  have hdisposition : p.fields.find? (fun field => same field.1 "Content-Disposition") =
      some ("Content-Disposition", p.formData) := List.find?_cons_of_pos (hself _)
  have hothers : p.fields.eraseP (fun field => same field.1 "Content-Disposition") =
      (p.mediaType.map ("Content-Type", ·)).toList ++ p.headers := List.eraseP_cons_of_pos (hself _)
  have htext : p.formData.toList.dropPrefix? "form-data".toList =
      some (p.parameters.flatMap parameterText) := by
    rw [Part.toList_formData]
    exact List.dropPrefix?_append_of_beq _ (beq_self_eq_true _)
  have hname : p.parameters.lookup "name" = some p.name := List.lookup_cons_self
  have hfileName : p.parameters.lookup "filename" = p.fileName := by
    cases hfile : p.fileName <;> simp [Part.parameters, hfile, List.lookup_cons]
  simp only [readPart?, hdisposition, htext, hparameters, hname, hfileName, hothers,
    find?_mediaType hself hheaders, eraseP_mediaType hself hheaders, Option.bind_eq_bind,
    Option.bind_some]

/-! ## Reading back the body -/

/-- What stands behind the delimiter before these parts. -/
def following (boundary : String) : List Part → Bytes
  | [] => Utf8.encode "--" ++ lineBreak
  | p :: parts =>
    lineBreak ++ (p.headerLines.flatMap Part.line ++
      (lineBreak ++ (p.contents ++ (delimiter boundary ++ following boundary parts))))

theorem lineBreak_body (boundary : String) (parts : List Part) :
    lineBreak ++ body boundary parts = delimiter boundary ++ following boundary parts := by
  induction parts with
  | nil => simp [body, following, delimiter, Part.line, lineBreak, Utf8.encode_append]
  | cons p parts ih =>
    have hbody : body boundary (p :: parts) =
        Part.line ("--" ++ boundary) ++ p.bytes ++ body boundary parts := by
      simp [body]
    have hbytes : Part.line ("--" ++ boundary) ++ p.bytes = Utf8.encode ("--" ++ boundary) ++
        (lineBreak ++ (p.headerLines.flatMap Part.line ++
            (lineBreak ++ (p.contents ++ lineBreak)))) := by
      simp [Part.line, Part.bytes, lineBreak]
    calc lineBreak ++ body boundary (p :: parts)
        = delimiter boundary ++
          (lineBreak ++ (p.headerLines.flatMap Part.line ++ (lineBreak ++ (p.contents ++
            (lineBreak ++ body boundary parts))))) := by
          simp only [hbody, hbytes, delimiter, List.append_assoc]
      _ = delimiter boundary ++ following boundary (p :: parts) := by rw [ih, following]

theorem readNext?_following {same : String → String → Bool} {boundary : String} {p : Part}
    (hboundary : OneLine boundary) (hp : p.Fits boundary) (hself : ∀ s, same s s = true)
    (hheaders : ∀ header ∈ p.headers, same header.1 "Content-Type" = false) (parts : List Part) :
    readNext? same boundary (following boundary (p :: parts)) =
      some (p, following boundary parts) := by
  have hlines :=
    readLines?_lines hp.headerLines (p.contents ++ (delimiter boundary ++ following boundary parts))
  -- The line break of the blank line may begin a delimiter, so the contents are looked through with
  -- it before them.
  have hcontents := dropInfix?_delimiter hboundary hp.contents (following boundary parts)
  rw [List.append_assoc, List.append_assoc] at hcontents
  have hfields := mapM_readField? fun field hfield => (hp.fields field hfield).2.1
  rw [← Part.headerLines_eq] at hfields
  have hhead : (following boundary (p :: parts)).dropPrefix? lineBreak =
      some (p.headerLines.flatMap Part.line ++
      (lineBreak ++ (p.contents ++ (delimiter boundary ++ following boundary parts)))) :=
    List.dropPrefix?_append_of_beq _ (beq_self_eq_true _)
  simp only [readNext?, hhead, hlines, hcontents, hfields, List.drop_left,
    readPart?_fields hp hself hheaders, Option.bind_eq_bind, Option.bind_some]

theorem readParts?_following {same : String → String → Bool} {boundary : String} {parts : List Part}
    (hboundary : OneLine boundary) (hparts : ∀ p ∈ parts, p.Fits boundary)
    (hself : ∀ s, same s s = true)
    (hheaders : ∀ p ∈ parts, ∀ header ∈ p.headers, same header.1 "Content-Type" = false) :
    readParts? same boundary (following boundary parts) = some parts := by
  induction parts with
  | nil =>
    rw [following, readParts?, if_pos]
    decide
  | cons p parts ih =>
    obtain ⟨hp, hrest⟩ := List.forall_mem_cons.mp hparts
    obtain ⟨hheader, hothers⟩ := List.forall_mem_cons.mp hheaders
    have hnext := readNext?_following hboundary hp hself hheader parts
    have hmore : ¬ [0x2D, 0x2D].isPrefixOf (following boundary (p :: parts)) = true := by
      simp [following, lineBreak]
    rw [readParts?, if_neg hmore]
    split
    · next part rest hread =>
      rw [hnext] at hread
      cases hread
      rw [ih hrest hothers]
      rfl
    · next hread =>
      rw [hnext] at hread
      cases hread

theorem read?_body_of_same {same : String → String → Bool} {boundary : String} {parts : List Part}
    (hboundary : OneLine boundary) (hparts : ∀ p ∈ parts, p.Fits boundary)
    (hself : ∀ s, same s s = true)
    (hheaders : ∀ p ∈ parts, ∀ header ∈ p.headers, same header.1 "Content-Type" = false) :
    read? same boundary (body boundary parts) = some parts := by
  have hnone : ¬ delimiter boundary <:+: [] := by
    simp [delimiter, lineBreak]
  have hfirst := dropInfix?_delimiter hboundary hnone (following boundary parts)
  rw [List.nil_append, ← lineBreak_body] at hfirst
  simp only [read?, hfirst, Option.bind_eq_bind, Option.bind_some,
    readParts?_following hboundary hparts hself hheaders]

/-- A body is read back as the parts that were written, whether header names are compared with
regard to case or without, if no further header passes for the media type. -/
theorem read?_body {boundary : String} {parts : List Part} (hboundary : OneLine boundary)
    (hparts : ∀ p ∈ parts, p.Fits boundary) :
    ((∀ p ∈ parts, ∀ header ∈ p.headers, header.1 ≠ "Content-Type") →
        read? (· == ·) boundary (body boundary parts) = some parts) ∧
      ((∀ p ∈ parts, ∀ header ∈ p.headers, Ascii.sameIgnoringCase header.1 "Content-Type" = false) →
        read? Ascii.sameIgnoringCase boundary (body boundary parts) = some parts) := by
  constructor
  · intro hheaders
    exact read?_body_of_same hboundary hparts beq_self_eq_true fun p hp header hheader =>
      beq_eq_false_iff_ne.mpr (hheaders p hp header hheader)
  · exact read?_body_of_same hboundary hparts fun s => beq_self_eq_true (Ascii.lower s)

/-- Contents that begin like a delimiter, that end in half a line break or in dashes, and that are
empty. -/
theorem read?_body_delimiters :
    let parts : List Part := [
      ⟨"a\\b", Utf8.encode "--b\r\n--b1\r\n\r\n--", some "=;.txt", some "text/plain",
        [("--b0", "")]⟩,
      ⟨"", [], none, none, [("Content-Disposition", "form-data; name=\"c\"")]⟩,
      ⟨"n", [0x0D, 0x0A, 0x0D, 0x0A, 0x0D], none, some "", []⟩]
    OneLine "b0" ∧ (∀ p ∈ parts, p.Fits "b0") ∧
      read? (· == ·) "b0" (body "b0" parts) = some parts ∧
      read? Ascii.sameIgnoringCase "b0" (body "b0" parts) = some parts := by
  intro parts
  have hboundary : OneLine "b0" := by decide
  have hparts : ∀ p ∈ parts, p.Fits "b0" := by decide
  obtain ⟨hcase, hignoring⟩ := read?_body hboundary hparts
  exact ⟨hboundary, hparts, hcase (by decide), hignoring (by decide)⟩

end Multipart

end Courier
