import Courier.Proofs.Naming
import Courier.Proofs.Overwriting
/-
Cookies that were received can be sent back. A `Set-Cookie` value sets a name if
it can be read and has the name, in blanks or not, before the first equals sign
of what stands before its first semicolon (`Cookie.Sets`); of all that set a name
the last one counts.

What is set that way may stand in a `Cookie` header (`Cookie.Sendable`), is found
there between semicolons (`Cookie.read?_header`) and is never refused
(`Request.build_sameFailure`). So a request brings back the cookies of a
response just as they were (`Cookie.ofHeaders_returns`).
-/
namespace Courier

/-! ## Texts in pieces -/

theorem Split.once?_eq_some {α : Type} [DecidableEq α] {separator : α} {l before after : List α} :
    once? separator l = some (before, after) ↔
      l = before ++ separator :: after ∧ separator ∉ before := by
  refine ⟨fun h => ⟨?_, not_mem_of_once? h⟩, ?_⟩
  · induction l generalizing before with
    | nil => cases h
    | cons a l ih =>
      rw [once?] at h
      split at h
      · next heq =>
        cases h
        rw [heq, List.nil_append]
      · obtain ⟨⟨before', after'⟩, hrest, h⟩ := Option.map_eq_some_iff.mp h
        cases h
        rw [ih hrest, List.cons_append]
  · rintro ⟨rfl, hbefore⟩
    exact once?_append hbefore after

/-! ## The last of several -/

namespace Entries

variable {α γ : Type} {key : String} {value : α} {l : List γ} {f : γ → Option (String × α)}

theorem last?_filterMap_eq_none :
    last? key (l.filterMap f) = none ↔ ∀ a ∈ l, ∀ v, f a ≠ some (key, v) := by
  induction l with
  | nil => simp [last?]
  | cons a l ih =>
    rw [List.forall_mem_cons, ← ih]
    cases ha : f a with
    | none => simp [ha]
    | some pair =>
      obtain ⟨k, v⟩ := pair
      rw [List.filterMap_cons_some ha, last?_cons, Option.or_eq_none_iff, and_comm]
      simp [eq_comm]

/-- What is found under a key comes from the last that gives anything under it. -/
theorem last?_filterMap_eq_some : last? key (l.filterMap f) = some value ↔
    ∃ before a after, l = before ++ a :: after ∧ f a = some (key, value) ∧
      ∀ a' ∈ after, ∀ v, f a' ≠ some (key, v) := by
  constructor
  · intro h
    induction l with
    | nil => simp [last?] at h
    | cons a l ih =>
      by_cases hlater : last? key (l.filterMap f) = none
      · cases ha : f a with
        | none => rw [List.filterMap_cons_none ha, hlater] at h; cases h
        | some pair =>
          rw [List.filterMap_cons_some ha, last?_cons, hlater, Option.none_or,
            Option.ite_none_right_eq_some] at h
          obtain ⟨rfl, hvalue⟩ := h
          cases hvalue
          exact ⟨[], a, l, rfl, ha, last?_filterMap_eq_none.mp hlater⟩
      · have hrest : last? key (l.filterMap f) = some value := by
          cases ha : f a with
          | none => rwa [List.filterMap_cons_none ha] at h
          | some pair =>
            rw [List.filterMap_cons_some ha, last?_cons, Option.or_eq_some_iff] at h
            exact h.resolve_right fun hnone => hlater hnone.1
        obtain ⟨before, b, after, rfl, hb⟩ := ih hrest
        exact ⟨a :: before, b, after, rfl, hb⟩
  · rintro ⟨before, a, after, rfl, ha, hlater⟩
    rw [List.filterMap_append, List.filterMap_cons_some ha, last?_append, last?_cons,
      last?_filterMap_eq_none.mpr hlater, if_pos rfl]
    rfl

end Entries

namespace Cookie

/-! ## Blanks around a text -/

/-- The text neither begins nor ends with a blank. -/
def Trimmed (text : List Char) : Prop :=
  (∀ c ∈ text.head?, isBlank c = false) ∧ ∀ c ∈ text.getLast?, isBlank c = false

/-- The text is the core with blanks around it. -/
structure Trims (text core : List Char) : Prop where
  around : ∃ before after, text = before ++ core ++ after ∧
    (∀ c ∈ before, isBlank c = true) ∧ ∀ c ∈ after, isBlank c = true
  trimmed : Trimmed core

theorem dropWhile_isBlank_of_head? {text : List Char} (h : ∀ c ∈ text.head?, isBlank c = false) :
    text.dropWhile isBlank = text := by
  cases text with
  | nil => rfl
  | cons c text => exact List.dropWhile_cons_of_neg (by simp [h c rfl])

theorem head?_dropWhile_isBlank (text : List Char) :
    ∀ c ∈ (text.dropWhile isBlank).head?, isBlank c = false := by
  intro c hc
  have h := List.head?_dropWhile_not isBlank text
  rwa [Option.mem_def.mp hc] at h

theorem trims_trim (text : List Char) : Trims text (trim text) := by
  obtain ⟨inner, hinner⟩ : ∃ inner, inner = text.dropWhile isBlank := ⟨_, rfl⟩
  have htext : text = text.takeWhile isBlank ++ inner :=
    hinner ▸ List.takeWhile_append_dropWhile.symm
  have hsplit : inner = trim text ++ (inner.reverse.takeWhile isBlank).reverse := by
    rw [trim, ← hinner, ← List.reverse_append, List.takeWhile_append_dropWhile,
      List.reverse_reverse]
  have hblank (l : List Char) : ∀ c ∈ l.takeWhile isBlank, isBlank c = true :=
    fun c hc => List.all_eq_true.mp List.all_takeWhile c hc
  refine ⟨⟨text.takeWhile isBlank, (inner.reverse.takeWhile isBlank).reverse, ?_, hblank text, ?_⟩,
    ?_, ?_⟩
  · rw [List.append_assoc, ← hsplit, ← htext]
  · intro c hc
    exact hblank _ c (List.mem_reverse.mp hc)
  · intro c hc
    have hhead : c ∈ inner.head? := by
      rw [hsplit, List.head?_append, Option.mem_def.mp hc]
      rfl
    rw [hinner] at hhead
    exact head?_dropWhile_isBlank text c hhead
  · intro c hc
    rw [trim, List.getLast?_reverse] at hc
    exact head?_dropWhile_isBlank _ c hc

/-- There is one way only to take the blanks away. -/
theorem trim_eq_iff {text core : List Char} : trim text = core ↔ Trims text core := by
  refine ⟨fun h => h ▸ trims_trim text, fun h => ?_⟩
  obtain ⟨⟨before, after, rfl, hbefore, hafter⟩, hfirst, hlast⟩ := h
  have hrest : (core ++ after).reverse.dropWhile isBlank = core.reverse := by
    rw [List.reverse_append, List.dropWhile_append_of_pos (by simpa using hafter)]
    exact dropWhile_isBlank_of_head? (by rwa [List.head?_reverse])
  rw [trim, List.append_assoc, List.dropWhile_append_of_pos hbefore]
  cases core with
  | nil =>
    rw [List.nil_append, ← List.append_nil after, List.dropWhile_append_of_pos hafter]
    rfl
  | cons c core =>
    have hinner : (c :: core ++ after).dropWhile isBlank = c :: core ++ after :=
      dropWhile_isBlank_of_head? hfirst
    rw [hinner, hrest, List.reverse_reverse]

/-! ## What is received -/

/-- The value sets the name to the content: it can be read, and up to its first semicolon it is the
name and the content with an equals sign between them, the first one, and blanks around both. -/
def Sets (value : Bytes) (name content : String) : Prop :=
  ∃ text before after rest, Header.visible? value = some text ∧
    text.toList = before ++ '=' :: after ++ rest ∧
    '=' ∉ before ∧ ';' ∉ before ++ '=' :: after ∧ (∀ c ∈ rest.head?, c = ';') ∧
    Trims before name.toList ∧ name ≠ "" ∧ Trims after content.toList

theorem takeWhile_eq_iff {text pair : List Char} : text.takeWhile (· ≠ ';') = pair ↔
    ∃ rest, text = pair ++ rest ∧ ';' ∉ pair ∧ ∀ c ∈ rest.head?, c = ';' := by
  constructor
  · rintro rfl
    refine ⟨text.dropWhile (· ≠ ';'), List.takeWhile_append_dropWhile.symm, fun hmem => ?_,
      fun c hc => ?_⟩
    · have hall : (text.takeWhile (· ≠ ';')).all (· ≠ ';') = true := List.all_takeWhile
      exact absurd (List.all_eq_true.mp hall ';' hmem) (by decide)
    · have hnot := List.head?_dropWhile_not (fun c => decide (c ≠ ';')) text
      rw [Option.mem_def.mp hc] at hnot
      simpa using hnot
  · rintro ⟨rest, rfl, hpair, hrest⟩
    have hnone : rest.takeWhile (· ≠ ';') = [] := by
      cases rest with
      | nil => rfl
      | cons c rest => exact List.takeWhile_cons_of_neg (by simp [hrest c rfl])
    rw [List.takeWhile_append_of_pos fun c hc => by simpa using ne_of_mem_of_not_mem hc hpair,
      hnone, List.append_nil]

theorem ofSetCookie?_eq_some {text name content : String} :
    ofSetCookie? text = some (name, content) ↔
    ∃ before after rest, text.toList = before ++ '=' :: after ++ rest ∧ '=' ∉ before ∧
      ';' ∉ before ++ '=' :: after ∧
      (∀ c ∈ rest.head?, c = ';') ∧ Trims before name.toList ∧ name ≠ "" ∧
        Trims after content.toList := by
  have hempty {name : List Char} : ¬ name.isEmpty = true ↔ String.ofList name ≠ "" := by
    rw [List.isEmpty_iff, ne_eq, ← String.toList_inj, String.toList_ofList, String.toList_empty]
  constructor
  · intro h
    unfold ofSetCookie? at h
    obtain ⟨⟨before, after⟩, honce, h⟩ := Option.bind_eq_some_iff.mp h
    dsimp only at h
    rw [Option.ite_none_left_eq_some, Option.some.injEq, Prod.mk.injEq] at h
    obtain ⟨hname, rfl, rfl⟩ := h
    obtain ⟨hpair, hequals⟩ := Split.once?_eq_some.mp honce
    obtain ⟨rest, htext, hsemicolon, hrest⟩ := takeWhile_eq_iff.mp hpair
    rw [String.toList_ofList, String.toList_ofList]
    exact ⟨before, after, rest, htext, hequals, hsemicolon, hrest, trims_trim before,
      hempty.mp hname, trims_trim after⟩
  · rintro ⟨before, after, rest, htext, hequals, hsemicolon, hrest, hname, hnonempty, hcontent⟩
    have hpair := takeWhile_eq_iff.mpr ⟨rest, htext, hsemicolon, hrest⟩
    have honce : Split.once? '=' (before ++ '=' :: after) = some (before, after) :=
      Split.once?_append hequals after
    have hset : ¬ (trim before).isEmpty = true := by
      rw [hempty, trim_eq_iff.mpr hname, String.ofList_toList]
      exact hnonempty
    simp only [ofSetCookie?, hpair, honce, Option.bind_eq_bind, Option.bind_some, if_neg hset]
    rw [trim_eq_iff.mpr hname, trim_eq_iff.mpr hcontent, String.ofList_toList, String.ofList_toList]

theorem sets_iff {value : Bytes} {name content : String} :
    Sets value name content ↔ (Header.visible? value).bind ofSetCookie? = some (name, content) := by
  rw [Option.bind_eq_some_iff]
  constructor
  · rintro ⟨text, before, after, rest, hvisible, hset⟩
    exact ⟨text, hvisible, ofSetCookie?_eq_some.mpr ⟨before, after, rest, hset⟩⟩
  · rintro ⟨text, hvisible, hset⟩
    obtain ⟨before, after, rest, hset⟩ := ofSetCookie?_eq_some.mp hset
    exact ⟨text, before, after, rest, hvisible, hset⟩

/-- Under a name is found what the last value that sets the name sets it to. -/
theorem get?_ofHeaders {headers : Headers} {name content : String} :
    (ofHeaders headers).get? name = some content ↔ ∃ before value after,
      headers.getAll "set-cookie" = before ++ value :: after ∧ Sets value name content ∧
        ∀ later ∈ after, ∀ other, ¬ Sets later name other := by
  rw [ofHeaders, SortedMap.get?_ofList, List.filterMap_filterMap, Entries.last?_filterMap_eq_some]
  simp only [sets_iff, ne_eq]

/-! ## What can be sent -/

/-- A cookie that a `Cookie` header can hold. -/
structure Sendable (cookie : String × String) : Prop where
  nonempty : cookie.1 ≠ ""
  name : Trimmed cookie.1.toList
  content : Trimmed cookie.2.toList
  equals : '=' ∉ cookie.1.toList
  semicolon : ∀ c ∈ cookie.1.toList ++ cookie.2.toList, c ≠ ';'
  visible : ∀ c ∈ cookie.1.toList ++ cookie.2.toList, Ascii.isVisible c = true

theorem Trims.mem {text core : List Char} (h : Trims text core) {c : Char} (hc : c ∈ core) :
    c ∈ text := by
  obtain ⟨before, after, rfl, -⟩ := h.around
  exact List.mem_append_left after (List.mem_append_right before hc)

/-- What a response sets can be sent back. -/
theorem Sets.sendable {value : Bytes} {name content : String} (h : Sets value name content) :
    Sendable (name, content) := by
  obtain ⟨text, before, after, rest, hvisible, htext, hequals, hsemicolon, -, hname, hnonempty,
    hcontent⟩ := h
  have hmem : ∀ c ∈ name.toList ++ content.toList, c ∈ before ++ '=' :: after := by
    intro c hc
    rcases List.mem_append.mp hc with hc | hc
    · exact List.mem_append_left _ (hname.mem hc)
    · exact List.mem_append_right _ (List.mem_cons_of_mem _ (hcontent.mem hc))
  refine ⟨hnonempty, hname.trimmed, hcontent.trimmed, fun hc => hequals (hname.mem hc), ?_, ?_⟩
  · exact fun c hc => ne_of_mem_of_not_mem (hmem c hc) hsemicolon
  · exact fun c hc => Header.isVisible_of_mem_visible? hvisible c
      (htext ▸ List.mem_append_left rest (hmem c hc))

theorem sendable_of_mem_ofHeaders {headers : Headers} :
    ∀ cookie ∈ (ofHeaders headers).entries, Sendable cookie := by
  intro cookie hcookie
  obtain ⟨before, value, after, -, hsets, -⟩ := get?_ofHeaders.mp (SortedMap.mem_entries.mp hcookie)
  exact hsets.sendable

/-! ## Reading a `Cookie` header -/

/-- The cookies in the text of a `Cookie` header: what stands between semicolons, without the blanks
around it, split at the first equals sign. -/
def read? (text : String) : Option (List (String × String)) :=
  (Split.segments ';' text.toList).mapM fun piece =>
    (Split.once? '=' (trim piece)).map fun cookie =>
      (String.ofList cookie.1, String.ofList cookie.2)

/-- A cookie in a `Cookie` header. -/
def pair (cookie : String × String) : List Char := cookie.1.toList ++ '=' :: cookie.2.toList

namespace Sendable

variable {cookie : String × String} (h : Sendable cookie)
include h

theorem not_mem_pair : ';' ∉ pair cookie := by
  intro hmem
  rcases List.mem_append.mp hmem with hmem | hmem
  · exact h.semicolon ';' (List.mem_append_left _ hmem) rfl
  · rcases List.mem_cons.mp hmem with hmem | hmem
    · exact absurd hmem (by decide)
    · exact h.semicolon ';' (List.mem_append_right _ hmem) rfl

theorem visible_pair : ∀ c ∈ pair cookie, Ascii.isVisible c = true := by
  intro c hc
  rcases List.mem_append.mp hc with hc | hc
  · exact h.visible c (List.mem_append_left _ hc)
  · rcases List.mem_cons.mp hc with rfl | hc
    · decide
    · exact h.visible c (List.mem_append_right _ hc)

theorem trimmed_pair : Trimmed (pair cookie) := by
  have hnonempty : cookie.1.toList ≠ [] := fun hnil => h.nonempty (String.toList_inj.mp hnil)
  constructor
  · intro c hc
    rw [pair, List.head?_append_of_ne_nil _ hnonempty] at hc
    exact h.name.1 c hc
  · intro last hlast
    rw [pair, List.getLast?_append_of_ne_nil _ (List.cons_ne_nil _ _), List.getLast?_cons] at hlast
    cases hcontent : cookie.2.toList.getLast? with
    | none =>
      rw [hcontent] at hlast
      cases hlast
      decide
    | some c =>
      rw [hcontent] at hlast
      cases hlast
      exact h.content.2 c hcontent

/-- The cookie is found in what blanks stand before. -/
theorem once?_trim {blanks : List Char} (hblanks : ∀ c ∈ blanks, isBlank c = true) :
    (Split.once? '=' (trim (blanks ++ pair cookie))).map
      (fun parts => (String.ofList parts.1, String.ofList parts.2)) = some cookie := by
  have htrim : trim (blanks ++ pair cookie) = pair cookie :=
    trim_eq_iff.mpr ⟨⟨blanks, [], by simp, hblanks, by simp⟩, h.trimmed_pair⟩
  rw [htrim, pair, Split.once?_append h.equals]
  simp

end Sendable

theorem toList_header (cookies : SortedMap String) :
    (header cookies).toList = [';', ' '].intercalate (cookies.entries.map pair) := by
  have hseparator : "; ".toList = [';', ' '] := by decide
  rw [header, String.toList_intercalate, List.map_map, hseparator]
  refine congrArg _ (List.map_congr_left fun cookie _ => ?_)
  simp [pair]

/-- The header is read back as the cookies that were written. The blank after each semicolon goes
with the next cookie. -/
theorem read?_header {cookies : SortedMap String} (h : ∀ cookie ∈ cookies.entries, Sendable cookie)
    (hne : cookies.isEmpty = false) : read? (header cookies) = some cookies.entries := by
  have hread (blanks : List Char) (hblanks : ∀ c ∈ blanks, isBlank c = true)
      (entries : List (String × String)) (h : ∀ cookie ∈ entries, Sendable cookie)
      (hne : entries ≠ []) :
      (Split.segments ';' (blanks ++ [';', ' '].intercalate (entries.map pair))).mapM (fun piece =>
        (Split.once? '=' (trim piece)).map fun cookie =>
          (String.ofList cookie.1, String.ofList cookie.2)) = some entries := by
    have hnot : ∀ c ∈ blanks, c ≠ ';' := fun c hc hsemicolon => by
      rw [hsemicolon] at hc
      exact absurd (hblanks _ hc) (by decide)
    induction entries generalizing blanks with
    | nil => exact absurd rfl hne
    | cons cookie others ih =>
      obtain ⟨hcookie, hothers⟩ := List.forall_mem_cons.mp h
      have hpiece : ';' ∉ blanks ++ pair cookie := fun hmem =>
        (List.mem_append.mp hmem).elim (fun hmem => hnot _ hmem rfl) hcookie.not_mem_pair
      cases others with
      | nil =>
        have htext : [';', ' '].intercalate ([cookie].map pair) = pair cookie := by
          simp [List.intercalate]
        rw [htext, Split.segments_of_not_mem hpiece, List.mapM_cons, hcookie.once?_trim hblanks]
        rfl
      | cons next more =>
        have hblank : ∀ c ∈ [' '], isBlank c = true := List.forall_mem_singleton.mpr rfl
        have hsemicolon : ∀ c ∈ [' '], c ≠ ';' := List.forall_mem_singleton.mpr (by decide)
        have hrest := ih [' '] hblank hothers (List.cons_ne_nil next more) hsemicolon
        have htext : blanks ++ [';', ' '].intercalate ((cookie :: next :: more).map pair) =
            blanks ++ pair cookie ++ ';' ::
                ([' '] ++ [';', ' '].intercalate ((next :: more).map pair)) := by
          simp [List.intercalate_cons_cons]
        rw [htext, Split.segments_append, Split.segments_of_not_mem hpiece, List.singleton_append,
          List.mapM_cons, hcookie.once?_trim hblanks, hrest]
        rfl
  rw [read?, toList_header]
  exact hread [] (by simp) cookies.entries h (by simpa [SortedMap.isEmpty] using hne)

theorem visible_header {cookies : SortedMap String}
    (h : ∀ cookie ∈ cookies.entries, Sendable cookie) :
    ∀ c ∈ (header cookies).toList, Ascii.isVisible c = true := by
  rw [toList_header]
  generalize cookies.entries = entries at h
  induction entries with
  | nil => simp [List.intercalate]
  | cons cookie others ih =>
    obtain ⟨hcookie, hothers⟩ := List.forall_mem_cons.mp h
    cases others with
    | nil => simpa [List.intercalate] using hcookie.visible_pair
    | cons next more =>
      intro c hc
      rw [List.map_cons, List.map_cons, List.intercalate_cons_cons, List.append_assoc,
        List.mem_append, List.mem_append] at hc
      rcases hc with hc | hc | hc
      · exact hcookie.visible_pair c hc
      · have hseparator : ∀ c ∈ [';', ' '], Ascii.isVisible c = true :=
          List.forall_mem_cons.mpr ⟨rfl, List.forall_mem_singleton.mpr rfl⟩
        exact hseparator c hc
      · exact ih hothers c hc

end Cookie

/-! ## Requests with cookies -/

/-- Both fail, with the same failure, or neither does. -/
def SameFailure {α : Type} (x y : Except Failure α) : Prop := ∀ f, x = .error f ↔ y = .error f

theorem SameFailure.ok {α : Type} (a b : α) : SameFailure (.ok a) (.ok b) := by simp [SameFailure]

theorem SameFailure.bind {α β : Type} {x y : Except Failure α} {g h : α → Except Failure β}
    (hxy : SameFailure x y) (hgh : ∀ a b, SameFailure (g a) (h b)) :
    SameFailure (x >>= g) (y >>= h) := by
  cases x with
  | error f =>
    rw [(hxy f).mp rfl]
    exact fun _ => Iff.rfl
  | ok a =>
    cases y with
    | error f => exact absurd ((hxy f).mpr rfl) (by simp)
    | ok b => exact hgh a b

namespace Request

variable {boundary url : String} {method : Method} {o : Options}
  {headers headers' : Headers} {q : Request}

/-! ### Failures -/

theorem putHeader_sameFailure (headers headers' : Headers) (name value : String) :
    SameFailure (putHeader headers name value) (putHeader headers' name value) := by
  intro f
  unfold putHeader
  cases Header.check name value <;> simp

theorem encodeBody_sameFailure (boundary : String) (o : Options) (headers headers' : Headers) :
    SameFailure (encodeBody boundary o headers) (encodeBody boundary o headers') := by
  unfold encodeBody
  split
  · exact .bind (putHeader_sameFailure headers headers' _ _) fun _ _ => .ok _ _
  · split <;> exact .ok _ _

theorem putHeader_cookies (h : ∀ cookie ∈ o.cookies.entries, Cookie.Sendable cookie)
    (headers : Headers) :
    putHeader headers "cookie" (Cookie.header o.cookies) =
      .ok (headers.insert "cookie" (Utf8.encode (Cookie.header o.cookies))) := by
  have hname : Header.name? "cookie" = some "cookie" := by decide
  rw [putHeader, Header.check, hname,
    (Header.visible?_encode_of_forall (Cookie.visible_header h)).2]

theorem headersOf_sameFailure (h : ∀ cookie ∈ o.cookies.entries, Cookie.Sendable cookie) :
    SameFailure (headersOf o) (headersOf { o with cookies := .empty }) := by
  refine .bind (fun _ => Iff.rfl) fun headers headers' => ?_
  extract_lets authorize authorize'
  have hauthorize (headers headers' : Headers) :
      SameFailure (authorize headers) (authorize' headers') := by
    dsimp only [authorize, authorize']
    split
    · exact putHeader_sameFailure headers headers' _ _
    · exact .ok headers headers'
  have hempty : ({ o with cookies := .empty } : Options).cookies.isEmpty = true := rfl
  rw [if_pos hempty]
  split
  · exact .bind (.ok headers headers') hauthorize
  · rw [putHeader_cookies h]
    exact .bind (.ok _ headers') hauthorize

/-- Cookies that can be sent are no reason for a request not to be built. -/
theorem build_sameFailure (h : ∀ cookie ∈ o.cookies.entries, Cookie.Sendable cookie) :
    SameFailure (build boundary method url o)
      (build boundary method url { o with cookies := .empty }) := by
  refine .bind (fun _ => Iff.rfl) fun parsed parsed' => ?_
  refine .bind (headersOf_sameFailure h) fun headers headers' => ?_
  exact .bind (encodeBody_sameFailure boundary o headers headers') fun _ _ => .ok _ _

/-! ### The field -/

/-- What the field for cookies holds: those of the options, or what the headers say if the options
have none. -/
theorem values?_cookie (h : headersOf o = .ok headers) : headers.values? "cookie" =
    if o.cookies.isEmpty then
      (Options.spelt? "cookie" o.headers.entries).map fun value => [Utf8.encode value]
    else some [Utf8.encode (Cookie.header o.cookies)] := by
  obtain ⟨fields, cookied, hfields, hcookied, hheaders⟩ := headersOf_ok h
  have hset : headers.values? "cookie" = cookied.values? "cookie" := by
    rcases hheaders with rfl | ⟨value, rfl⟩
    · rfl
    · exact Headers.values?_insert_other (by decide) cookied value
  rw [hset, hcookied]
  split
  · rw [values?_foldlM hfields]
    exact Option.or_none
  · exact Headers.values?_insert_self fields "cookie" _

theorem values?_cookie_build (h : build boundary method url o = .ok q) :
    q.headers.values? "cookie" =
    if o.cookies.isEmpty then
      (Options.spelt? "cookie" o.headers.entries).map fun value => [Utf8.encode value]
    else some [Utf8.encode (Cookie.header o.cookies)] := by
  obtain ⟨parsed, headers, -, hheaders, hbody, -⟩ := build_ok h
  rw [values?_encodeBody (by decide) hbody, values?_cookie hheaders]

end Request

namespace Cookie

/-- The cookies of a response are what its header values set, the last one for each name, and they
can be sent back: with them a request is built or not as it is without any; it has one field for
them, which is read back as just these cookies; and if there are none it has no field but what the
options ask for themselves. -/
theorem ofHeaders_returns (headers : Headers) :
    (∀ name content, (ofHeaders headers).get? name = some content ↔ ∃ before value after,
      headers.getAll "set-cookie" = before ++ value :: after ∧ Sets value name content ∧
        ∀ later ∈ after, ∀ other, ¬ Sets later name other) ∧
    ∀ boundary method url o, o.cookies = ofHeaders headers →
      (∀ f, Request.build boundary method url o = .error f ↔
        Request.build boundary method url { o with cookies := .empty } = .error f) ∧
      ∀ q, Request.build boundary method url o = .ok q →
        (o.cookies ≠ .empty → ∃ text,
          q.headers.pairs.filter (·.1 == "cookie") = [("cookie", Utf8.encode text)] ∧
          q.header? "cookie" = some text ∧ read? text = some o.cookies.entries) ∧
        (o.cookies = .empty → q.headers.pairs.filter (·.1 == "cookie") =
          (Options.spelt? "cookie" o.headers.entries).toList.map fun value =>
            ("cookie", Utf8.encode value)) := by
  refine ⟨fun name content => get?_ofHeaders, fun boundary method url o ho => ?_⟩
  have hsendable : ∀ cookie ∈ o.cookies.entries, Sendable cookie := ho ▸ sendable_of_mem_ofHeaders
  refine ⟨Request.build_sameFailure hsendable, fun q hbuild => ?_⟩
  have hvalues := Request.values?_cookie_build hbuild
  have hpairs := (Request.distinct_build hbuild).filter_pairs "cookie"
  constructor
  · intro hsome
    have hne : o.cookies.isEmpty = false :=
      Bool.eq_false_iff.mpr fun hempty => hsome (SortedMap.ext (List.isEmpty_iff.mp hempty))
    rw [hne, if_neg Bool.false_ne_true] at hvalues
    refine ⟨header o.cookies, ?_, ?_, read?_header hsendable hne⟩
    · rw [hpairs, hvalues]
      rfl
    · have hname : Header.name? "cookie" = some "cookie" := by decide
      simp only [Request.header?, Headers.text?, Headers.first?, Headers.getAll, hname,
        Headers.valuesOf_eq, hvalues, Option.getD_some, List.head?_cons, Option.bind_some]
      exact (Header.visible?_encode_of_forall (visible_header hsendable)).1
  · intro hempty
    have hnone : o.cookies.isEmpty = true := hempty ▸ rfl
    rw [if_pos hnone] at hvalues
    rw [hpairs, hvalues]
    cases Options.spelt? "cookie" o.headers.entries <;> rfl

/-- A name is set twice, one value cannot be read, one has no equals sign before its semicolon, and
what is set holds blanks, quotes, equals signs or nothing. -/
theorem ofHeaders_returns_repeated :
    let headers : Headers :=
      ⟨[("set-cookie", [Utf8.encode "sid=1; Path=/", Utf8.encode " note =\tx=\"y z\" ;a=b",
        [0x73, 0x69, 0x64, 0x3D, 0xFF], Utf8.encode "plain; x=1", Utf8.encode "=none",
        Utf8.encode "e=", Utf8.encode "sid=2"])]⟩
    let o : Options := { Options.empty with cookies := ofHeaders headers }
    ∃ q text, Request.build "b" .get "http://a.test/" o = .ok q ∧ o.cookies ≠ .empty ∧
      q.header? "cookie" = some text ∧
        read? text = some [("e", ""), ("note", "x=\"y z\""), ("sid", "2")] := by
  intro headers o
  have hok : (Request.build "b" .get "http://a.test/" o).isOk = true := by decide +kernel
  have hentries : o.cookies.entries = [("e", ""), ("note", "x=\"y z\""), ("sid", "2")] := by
    decide +kernel
  have hsome : o.cookies ≠ .empty := fun hempty => by
    rw [hempty] at hentries
    cases hentries
  cases hbuild : Request.build "b" .get "http://a.test/" o with
  | error f =>
    rw [hbuild] at hok
    cases hok
  | ok q =>
    obtain ⟨text, -, htext, hread⟩ :=
      (((ofHeaders_returns headers).2 "b" .get "http://a.test/" o rfl).2 q hbuild).1 hsome
    exact ⟨q, text, rfl, hsome, htext, hentries ▸ hread⟩

end Cookie

end Courier
