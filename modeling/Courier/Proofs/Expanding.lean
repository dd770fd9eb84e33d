import Courier.Url.Template
import Courier.Proofs.ReadingBack.Form
import Mathlib.Data.List.Chain
import Mathlib.Logic.ExistsUnique
/-
What a template says. Read from the left it comes apart in one way only
(`Reading.existsUnique`): literal text up to a brace, a placeholder up to the next
closing brace, and so on, and at the end maybe a brace that is never closed.
Expanding puts values in the place of the placeholders and copies all else
(`expandFrom_reading`), whatever braces the values hold.
-/
namespace Courier.Url

/-! ## Segments -/

/-- A piece of a template: literal text, or a placeholder for a value, which is inserted encoded or
as it is. -/
inductive Segment
  | literal (text : List Char)
  | encoded (name : List Char)
  | raw (name : List Char)
  deriving DecidableEq

namespace Segment

variable {inner : List Char} {s : Segment}

/-- How the segment is written. -/
def text : Segment → List Char
  | literal text => text
  | encoded name => '\x7b' :: (name ++ ['\x7d'])
  | raw name => '\x7b' :: '+' :: (name ++ ['\x7d'])

/-- A template of these segments. -/
def written (segments : List Segment) : String := String.ofList (segments.flatMap text)

/-- What the segment is replaced by; a placeholder without a value stays as it is written. -/
def value (parameters : SortedMap String) : Segment → List Char
  | literal text => text
  | encoded name =>
    match parameters.get? (String.ofList name) with
    | some value => Percent.encode Percent.isUnreserved (Utf8.encode value)
    | none => (encoded name).text
  | raw name =>
    match parameters.get? (String.ofList name) with
    | some value => value.toList
    | none => (raw name).text

/-- The name in a placeholder. -/
def name? : Segment → Option (List Char)
  | literal _ => none
  | encoded name => some name
  | raw name => some name

/-- Literal text opens no brace. A placeholder ends at the first brace that closes, and a plus in
front makes it raw. -/
def Proper : Segment → Prop
  | literal text => '\x7b' ∉ text
  | encoded name => '\x7d' ∉ name ∧ name.head? ≠ some '+'
  | raw name => '\x7d' ∉ name

instance (s : Segment) : Decidable s.Proper :=
  match s with
  | literal text => inferInstanceAs (Decidable ('\x7b' ∉ text))
  | encoded name => inferInstanceAs (Decidable ('\x7d' ∉ name ∧ name.head? ≠ some '+'))
  | raw name => inferInstanceAs (Decidable ('\x7d' ∉ name))

/-- The placeholder with this text between its braces. -/
def ofInner : List Char → Segment
  | '+' :: name => raw name
  | name => encoded name

theorem text_ofInner (inner : List Char) :
    (ofInner inner).text = '\x7b' :: (inner ++ ['\x7d']) := by
  unfold ofInner
  split <;> rfl

theorem proper_ofInner (h : '\x7d' ∉ inner) : (ofInner inner).Proper := by
  unfold ofInner
  split
  · exact List.not_mem_of_not_mem_cons h
  · next hplus =>
    refine ⟨h, fun hhead => ?_⟩
    obtain ⟨name, rfl⟩ := List.head?_eq_some_iff.mp hhead
    exact hplus name rfl

theorem name?_ofInner_ne_none (inner : List Char) : (ofInner inner).name? ≠ none := by
  unfold ofInner
  split <;> simp [name?]

/-- What is no literal text is a placeholder, known by the text between its braces. -/
theorem exists_inner (hs : s.Proper) (hname : s.name? ≠ none) :
    ∃ inner, '\x7d' ∉ inner ∧ s = ofInner inner := by
  cases s with
  | literal text => exact absurd rfl hname
  | encoded name =>
    refine ⟨name, hs.1, ?_⟩
    unfold ofInner
    split
    · exact absurd rfl hs.2
    · rfl
  | raw name =>
    have hplus : ('\x7d' : Char) ≠ '+' := by decide
    exact ⟨'+' :: name, List.not_mem_cons_of_ne_of_not_mem hplus hs, rfl⟩

theorem value_ofInner (parameters : SortedMap String) (inner : List Char) :
    (ofInner inner).value parameters = placeholder parameters inner := by
  unfold ofInner placeholder
  split
  · simp only [value]
    split <;> simp_all [text]
  · simp only [value]
    split <;> simp_all [text]

theorem value_of_unknown {parameters : SortedMap String}
    (h : ∀ name, s.name? = some name → parameters.get? (String.ofList name) = none) :
    s.value parameters = s.text := by
  cases s with
  | literal text => rfl
  | encoded name => rw [value, h name rfl]
  | raw name => rw [value, h name rfl]

end Segment

/-! ## Readings -/

/-- A template taken apart: its segments, and what follows a brace that is never closed, if there is
one. -/
structure Reading where
  segments : List Segment
  tail? : Option (List Char)

namespace Reading

variable {r r' : Reading} {s : Segment} {segments : List Segment} {tail? : Option (List Char)}

/-- What is never closed, with its brace. -/
def tail (r : Reading) : List Char :=
  match r.tail? with
  | some text => '\x7b' :: text
  | none => []

def text (r : Reading) : List Char := r.segments.flatMap Segment.text ++ r.tail

/-- The values of the segments, one after another; the tail is copied. -/
def value (parameters : SortedMap String) (r : Reading) : List Char :=
  r.segments.flatMap (Segment.value parameters) ++ r.tail

/-- No segment could be read in another way, and each literal text is as long as it can be. -/
structure Canonical (r : Reading) : Prop where
  proper : ∀ s ∈ r.segments, s.Proper
  tail : ∀ text, r.tail? = some text → '\x7d' ∉ text
  filled : .literal [] ∉ r.segments
  apart : r.segments.IsChain fun s s' => s.name? ≠ none ∨ s'.name? ≠ none

/-- The template is read in this way. -/
structure Of (r : Reading) (template : String) : Prop extends r.Canonical where
  text : r.text = template.toList

theorem text_cons (s : Segment) (segments : List Segment) (tail? : Option (List Char)) :
    (Reading.mk (s :: segments) tail?).text = s.text ++ (Reading.mk segments tail?).text := by
  rw [text, text, List.flatMap_cons, List.append_assoc]
  rfl

theorem Canonical.rest (h : (Reading.mk (s :: segments) tail?).Canonical) :
    (Reading.mk segments tail?).Canonical where
  proper s' hmem := h.proper s' (List.mem_cons_of_mem s hmem)
  tail := h.tail
  filled hmem := h.filled (List.mem_cons_of_mem s hmem)
  apart := h.apart.tail

/-! ### One way only -/

/-- What comes first is literal text that is not empty, or a placeholder. -/
theorem Canonical.first (h : (Reading.mk (s :: segments) tail?).Canonical) :
    (∃ c text, '\x7b' ∉ c :: text ∧ s = .literal (c :: text)) ∨ ∃ inner, '\x7d' ∉ inner ∧
      s = .ofInner inner := by
  have hs := h.proper s List.mem_cons_self
  by_cases hname : s.name? = none
  · cases s with
    | literal text =>
      cases text with
      | nil => exact absurd List.mem_cons_self h.filled
      | cons c text => exact .inl ⟨c, text, hs, rfl⟩
    | encoded name => cases hname
    | raw name => cases hname
  · exact .inr (Segment.exists_inner hs hname)

/-- Behind literal text there is a brace or nothing. -/
theorem Canonical.head_eq {literal : List Char}
    (h : (Reading.mk (.literal literal :: segments) tail?).Canonical) {c : Char}
    (hc : (Reading.mk segments tail?).text.head? = some c) : c = '\x7b' := by
  cases segments with
  | nil =>
    cases tail? with
    | none => cases hc
    | some rest => exact (Option.some.inj hc).symm
  | cons s segments =>
    have hname : s.name? ≠ none := by
      simpa [Segment.name?] using (List.isChain_cons_cons.mp h.apart).1
    obtain ⟨inner, -, rfl⟩ := Segment.exists_inner (h.rest.proper s List.mem_cons_self) hname
    rw [text_cons, Segment.text_ofInner] at hc
    exact (Option.some.inj hc).symm

/-- Where literal text ends can be told from what is written. -/
theorem literal_unique {literal literal' rest rest' : List Char} (hliteral : '\x7b' ∉ literal)
    (hliteral' : '\x7b' ∉ literal') (hrest : ∀ c, rest.head? = some c → c = '\x7b')
    (hrest' : ∀ c, rest'.head? = some c → c = '\x7b') (h : literal ++ rest = literal' ++ rest') :
    literal = literal' ∧ rest = rest' := by
  induction literal generalizing literal' with
  | nil =>
    cases literal' with
    | nil => exact ⟨rfl, h⟩
    | cons c' literal' =>
      have hbrace : c' = '\x7b' := hrest c' (congrArg List.head? h)
      exact absurd (hbrace ▸ List.mem_cons_self) hliteral'
  | cons c literal ih =>
    cases literal' with
    | nil =>
      have hbrace : c = '\x7b' := hrest' c (congrArg List.head? h.symm)
      exact absurd (hbrace ▸ List.mem_cons_self) hliteral
    | cons c' literal' =>
      obtain ⟨rfl, heq⟩ := List.cons.inj h
      obtain ⟨rfl, rfl⟩ :=
        ih (List.not_mem_of_not_mem_cons hliteral) (List.not_mem_of_not_mem_cons hliteral') heq
      exact ⟨rfl, rfl⟩

/-- Where a placeholder ends can be told, too. -/
theorem inner_unique {inner inner' rest rest' : List Char} (hinner : '\x7d' ∉ inner)
    (hinner' : '\x7d' ∉ inner')
    (h : (Segment.ofInner inner).text ++ rest = (Segment.ofInner inner').text ++ rest') :
    inner = inner' ∧ rest = rest' := by
  have hsplit {inner : List Char} (hinner : '\x7d' ∉ inner) (rest : List Char) :
      Split.once? '\x7d' ((Segment.ofInner inner).text ++ rest).tail = some (inner, rest) := by
    have htail : ((Segment.ofInner inner).text ++ rest).tail = inner ++ '\x7d' :: rest := by
      simp [Segment.text_ofInner]
    rw [htail, Split.once?_append hinner]
  have heq := hsplit hinner rest
  rw [h, hsplit hinner'] at heq
  obtain ⟨rfl, rfl⟩ := Prod.mk.inj (Option.some.inj heq)
  exact ⟨rfl, rfl⟩

/-- A brace that is never closed opens no placeholder, and no literal text holds it. -/
theorem Canonical.text_ne_tail (h : (Reading.mk (s :: segments) tail?).Canonical) {r : Reading}
    (hr : r.Canonical) :
    (Reading.mk (s :: segments) tail?).text ≠ r.tail := by
  intro heq
  rw [text_cons, Reading.tail] at heq
  obtain ⟨c, literal, hliteral, rfl⟩ | ⟨inner, -, rfl⟩ := h.first
  · split at heq
    · obtain ⟨rfl, -⟩ := List.cons.inj heq
      exact hliteral List.mem_cons_self
    · cases heq
  · rw [Segment.text_ofInner] at heq
    split at heq
    · next text htail =>
      obtain ⟨-, rfl⟩ := List.cons.inj heq
      exact hr.tail _ htail (by simp)
    · cases heq

theorem Canonical.unique (h : r.Canonical) (h' : r'.Canonical) (htext : r.text = r'.text) :
    r = r' := by
  obtain ⟨segments, tail?⟩ := r
  obtain ⟨segments', tail'?⟩ := r'
  induction segments generalizing segments' with
  | nil =>
    cases segments' with
    | nil => cases tail? <;> cases tail'? <;> simp_all [Reading.text, Reading.tail]
    | cons s' segments' => exact absurd htext.symm (h'.text_ne_tail h)
  | cons s segments ih =>
    cases segments' with
    | nil => exact absurd htext (h.text_ne_tail h')
    | cons s' segments' =>
      rw [text_cons, text_cons] at htext
      suffices s = s' ∧ (Reading.mk segments tail?).text = (Reading.mk segments' tail'?).text by
        obtain ⟨rfl, hrest⟩ := this
        cases ih h.rest segments' h'.rest hrest
        rfl
      obtain ⟨c, literal, hliteral, rfl⟩ | ⟨inner, hinner, rfl⟩ := h.first <;>
        obtain ⟨c', literal', hliteral', rfl⟩ | ⟨inner', hinner', rfl⟩ := h'.first
      · obtain ⟨hc, hrest⟩ :=
          literal_unique hliteral hliteral' (fun _ => h.head_eq) (fun _ => h'.head_eq) htext
        exact ⟨congrArg Segment.literal hc, hrest⟩
      · rw [Segment.text_ofInner] at htext
        obtain ⟨rfl, -⟩ := List.cons.inj htext
        exact absurd List.mem_cons_self hliteral
      · rw [Segment.text_ofInner] at htext
        obtain ⟨rfl, -⟩ := List.cons.inj htext
        exact absurd List.mem_cons_self hliteral'
      · obtain ⟨rfl, hrest⟩ := inner_unique hinner hinner' htext
        exact ⟨rfl, hrest⟩

/-! ### There is one -/

/-- Literal text as segments; there is none if it is empty. -/
def literals (text : List Char) : List Segment := if text = [] then [] else [.literal text]

theorem text_literals (literal : List Char) (segments : List Segment) (tail? : Option (List Char)) :
    (Reading.mk (literals literal ++ segments) tail?).text =
      literal ++ (Reading.mk segments tail?).text := by
  unfold literals
  split
  · next hempty => rw [hempty]; rfl
  · exact text_cons _ _ _

/-- Literal text may stand before anything but literal text. -/
theorem Canonical.literals {literal : List Char} (h : (Reading.mk segments tail?).Canonical)
    (hliteral : '\x7b' ∉ literal) (hfirst : ∀ s, segments.head? = some s → s.name? ≠ none) :
    (Reading.mk (literals literal ++ segments) tail?).Canonical := by
  unfold Reading.literals
  split
  · exact h
  · next hne =>
    refine ⟨List.forall_mem_cons.mpr ⟨hliteral, h.proper⟩, h.tail, ?_, ?_⟩
    · rintro (_ | ⟨_, hmem⟩)
      · exact hne rfl
      · exact h.filled hmem
    · cases segments with
      | nil => exact List.isChain_singleton _
      | cons s segments => exact List.isChain_cons_cons.mpr ⟨.inr (hfirst s rfl), h.apart⟩

theorem Canonical.placeholder {inner : List Char} (h : (Reading.mk segments tail?).Canonical)
    (hinner : '\x7d' ∉ inner) :
    (Reading.mk (.ofInner inner :: segments) tail?).Canonical := by
  have hname := Segment.name?_ofInner_ne_none inner
  refine ⟨List.forall_mem_cons.mpr ⟨Segment.proper_ofInner hinner, h.proper⟩, h.tail, ?_, ?_⟩
  · intro hmem
    cases List.mem_cons.mp hmem with
    | inl heq => exact hname (heq ▸ rfl)
    | inr hmem => exact h.filled hmem
  · cases segments with
    | nil => exact List.isChain_singleton _
    | cons s segments => exact List.isChain_cons_cons.mpr ⟨.inl hname, h.apart⟩

theorem canonical_nil (h : ∀ text, tail? = some text → '\x7d' ∉ text) :
    (Reading.mk [] tail?).Canonical :=
  ⟨fun _ hmem => absurd hmem List.not_mem_nil, h, List.not_mem_nil, .nil⟩

theorem exists_canonical (template : List Char) :
    ∃ r : Reading, r.Canonical ∧ r.text = template := by
  induction hlength : template.length using Nat.strongRecOn generalizing template with
  | _ n ih =>
    by_cases hopens : '\x7b' ∈ template
    · obtain ⟨literal, after, rfl, hliteral⟩ := List.eq_append_cons_of_mem hopens
      by_cases hcloses : '\x7d' ∈ after
      · obtain ⟨inner, rest, rfl, hinner⟩ := List.eq_append_cons_of_mem hcloses
        obtain ⟨⟨segments, tail?⟩, hr, htext⟩ := ih rest.length (by simp at hlength; omega) rest rfl
        refine ⟨⟨literals literal ++ .ofInner inner :: segments, tail?⟩, ?_, ?_⟩
        · refine (hr.placeholder hinner).literals hliteral fun s hs => ?_
          cases hs
          exact Segment.name?_ofInner_ne_none inner
        · rw [text_literals, text_cons, Segment.text_ofInner, htext]
          simp
      · have hend : (Reading.mk [] (some after)).Canonical := canonical_nil fun text htext => by
          cases htext
          exact hcloses
        exact ⟨⟨literals literal ++ [], some after⟩, hend.literals hliteral nofun,
          text_literals literal [] (some after)⟩
    · have hend : (Reading.mk [] none).Canonical := canonical_nil fun text htext => nomatch htext
      refine ⟨⟨literals template ++ [], none⟩, hend.literals hopens nofun, ?_⟩
      exact (text_literals template [] none).trans (List.append_nil template)

/-- A template is read in exactly one way. -/
theorem existsUnique (template : String) : ∃! r : Reading, r.Of template := by
  obtain ⟨r, hr, htext⟩ := exists_canonical template.toList
  exact ⟨r, ⟨hr, htext⟩, fun r' hr' => hr'.toCanonical.unique hr (hr'.text.trans htext.symm)⟩

end Reading

/-! ## Expanding -/

variable {parameters : SortedMap String}

theorem expandFrom_literal {literal : List Char} (h : '\x7b' ∉ literal) (rest : List Char) :
    expandFrom parameters none (literal ++ rest) = literal ++ expandFrom parameters none rest := by
  induction literal with
  | nil => rfl
  | cons c literal ih =>
    obtain ⟨hc, hliteral⟩ := not_or.mp (mt List.mem_cons.mpr h)
    rw [List.cons_append, expandFrom, if_neg (Ne.symm hc), ih hliteral]
    rfl

/-- An open placeholder goes to the first brace that closes. -/
theorem expandFrom_inner {inner : List Char} (h : '\x7d' ∉ inner) (opened rest : List Char) :
    expandFrom parameters (some opened) (inner ++ '\x7d' :: rest) =
      placeholder parameters (opened.reverse ++ inner) ++ expandFrom parameters none rest := by
  induction inner generalizing opened with
  | nil => simp [expandFrom]
  | cons c inner ih =>
    obtain ⟨hc, hinner⟩ := not_or.mp (mt List.mem_cons.mpr h)
    rw [List.cons_append, expandFrom, if_neg (Ne.symm hc), ih hinner]
    simp

theorem expandFrom_unclosed {text : List Char} (h : '\x7d' ∉ text) (opened : List Char) :
    expandFrom parameters (some opened) text = '\x7b' :: (opened.reverse ++ text) := by
  induction text generalizing opened with
  | nil => simp [expandFrom]
  | cons c text ih =>
    obtain ⟨hc, htext⟩ := not_or.mp (mt List.mem_cons.mpr h)
    rw [expandFrom, if_neg (Ne.symm hc), ih htext]
    simp

/-- A segment is replaced by its value, and what follows is expanded for itself. -/
theorem expandFrom_segment {s : Segment} (hs : s.Proper) (rest : List Char) :
    expandFrom parameters none (s.text ++ rest) =
      s.value parameters ++ expandFrom parameters none rest := by
  by_cases hname : s.name? = none
  · cases s with
    | literal literal => exact expandFrom_literal hs rest
    | encoded name => cases hname
    | raw name => cases hname
  · obtain ⟨inner, hinner, rfl⟩ := Segment.exists_inner hs hname
    have htext : (Segment.ofInner inner).text ++ rest = '\x7b' :: (inner ++ '\x7d' :: rest) := by
      simp [Segment.text_ofInner]
    rw [htext, expandFrom, if_pos rfl, expandFrom_inner hinner, Segment.value_ofInner]
    rfl

theorem expandFrom_segments {segments : List Segment} (hsegments : ∀ s ∈ segments, s.Proper)
    (rest : List Char) :
    expandFrom parameters none (segments.flatMap Segment.text ++ rest) =
      segments.flatMap (Segment.value parameters) ++ expandFrom parameters none rest := by
  induction segments with
  | nil => rfl
  | cons s segments ih =>
    obtain ⟨hs, hrest⟩ := List.forall_mem_cons.mp hsegments
    rw [List.flatMap_cons, List.append_assoc, expandFrom_segment hs, ih hrest, List.flatMap_cons,
      List.append_assoc]

theorem expand_written {segments : List Segment} (hsegments : ∀ s ∈ segments, s.Proper) :
    expand parameters (Segment.written segments) =
      String.ofList (segments.flatMap (Segment.value parameters)) := by
  have hsplit := List.append_nil (segments.flatMap Segment.text)
  rw [expand, Segment.written, String.toList_ofList, ← hsplit, expandFrom_segments hsegments,
    expandFrom, List.append_nil]

theorem expandFrom_tail {r : Reading} (hr : r.Canonical) :
    expandFrom parameters none r.tail = r.tail := by
  unfold Reading.tail
  split
  · next text htext => rw [expandFrom, if_pos rfl, expandFrom_unclosed (hr.tail text htext)]; rfl
  · rfl

/-- Expanding puts the values of its segments in the place of a template. -/
theorem expand_reading {template : String} {r : Reading} (hr : r.Of template) :
    expand parameters template = String.ofList (r.value parameters) := by
  rw [expand, ← hr.text, Reading.text, expandFrom_segments hr.proper,
    expandFrom_tail hr.toCanonical, Reading.value]

theorem Reading.value_of_unknown {r : Reading}
    (h : ∀ s ∈ r.segments, ∀ name, s.name? = some name →
      parameters.get? (String.ofList name) = none) :
    r.value parameters = r.text := by
  rw [value, text, List.flatMap_congr fun s hs => Segment.value_of_unknown (h s hs)]

/-- A template is read in exactly one way. Expanding it gives the values of its segments, one after
another, and copies what is never closed; so any list of segments that is written down is expanded
to their values, and a template in which no name is known stays as it is. -/
theorem expand_reads :
    (∀ template : String, ∃! r : Reading, r.Of template) ∧
    ∀ parameters : SortedMap String,
      (∀ (template : String) (r : Reading), r.Of template →
        expand parameters template = String.ofList (r.value parameters)) ∧
      (∀ segments : List Segment, (∀ s ∈ segments, s.Proper) →
        expand parameters (Segment.written segments) =
          String.ofList (segments.flatMap (Segment.value parameters))) ∧
      ∀ (template : String) (r : Reading), r.Of template →
        (∀ s ∈ r.segments, ∀ name, s.name? = some name →
          parameters.get? (String.ofList name) = none) →
          expand parameters template = template := by
  refine ⟨Reading.existsUnique, fun parameters => ⟨fun template r hr => expand_reading hr, ?_, ?_⟩⟩
  · exact fun segments hsegments => expand_written hsegments
  · intro template r hr hunknown
    rw [expand_reading hr, Reading.value_of_unknown hunknown, hr.text, String.ofList_toList]

/-- A value that looks like a placeholder, a name that holds a brace and is not known, and a brace
that is never closed. -/
theorem expand_reads_braces :
    let parameters : SortedMap String := .ofList [("id", "a b"), ("path", "\x7bid\x7d")]
    let segments : List Segment :=
      [.literal "/\x7d".toList, .encoded "id".toList, .raw "path".toList, .encoded "\x7bodd".toList]
    let r : Reading := ⟨segments, some "+path".toList⟩
    let template := "/\x7d\x7bid\x7d\x7b+path\x7d\x7b\x7bodd\x7d\x7b+path"
    (r.Of template ∧ expand parameters template = "/\x7da%20b\x7bid\x7d\x7b\x7bodd\x7d\x7b+path") ∧
    ((∀ s ∈ segments, s.Proper) ∧
      expand parameters (Segment.written segments) =
        String.ofList (segments.flatMap (Segment.value parameters))) ∧
    ((∀ s ∈ r.segments, ∀ name, s.name? = some name →
        (SortedMap.empty : SortedMap String).get? (String.ofList name) = none) ∧
      expand .empty template = template) := by
  intro parameters segments r template
  have hproper : ∀ s ∈ segments, s.Proper := by decide
  have hr : r.Of template := by
    refine ⟨⟨hproper, fun text htext => ?_, by decide, by decide⟩, by decide⟩
    cases htext
    decide
  have hunknown : ∀ s ∈ r.segments, ∀ name, s.name? = some name →
      (SortedMap.empty : SortedMap String).get? (String.ofList name) = none := fun _ _ _ _ => rfl
  have hvalue : String.ofList (r.value parameters) =
      "/\x7da%20b\x7bid\x7d\x7b\x7bodd\x7d\x7b+path" := by decide +kernel
  exact ⟨⟨hr, ((expand_reads.2 parameters).1 template r hr).trans hvalue⟩,
    ⟨hproper, (expand_reads.2 parameters).2.1 segments hproper⟩,
    hunknown, (expand_reads.2 .empty).2.2 template r hr hunknown⟩

end Courier.Url
