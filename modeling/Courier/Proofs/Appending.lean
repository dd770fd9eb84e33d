import Courier.Proofs.Labels
import Courier.Proofs.Maps
import Courier.Proofs.ReadingBack.Form
/-
What the query of the options does to the URL of a request (`Request.build_appends`):
its entries come after the pairs that the URL has, in the order of their names, and all
else in the URL stays. Whether there was a query before, an empty one or one that ends in
a separator is no matter, since a text without pairs is read as none.

What is appended is written in characters that end no query (`Form.unquoted_of_mem_write`),
so it does not reach into the fragment. None of this depends on how URLs are read.
-/
namespace Courier

/-! ## Written pairs -/

namespace Form

/-- A character that pairs are written in: it stands for itself, or it is a blank, the start of an
escape or a separator. -/
def Unquoted (c : Char) : Prop :=
  Ascii.isAlphanumeric c = true ∨ c ∈ ['*', '-', '.', '_', '+', '%', '=', '&']

instance (c : Char) : Decidable (Unquoted c) := inferInstanceAs (Decidable (_ ∨ _))

theorem unquoted_of_keeps {b : UInt8} (h : keeps b = true) : Unquoted (Char.ofNat b.toNat) := by
  rcases Bool.or_eq_true_iff.mp h with halphanumeric | hmark
  · exact .inl halphanumeric
  · exact .inr (List.mem_append_left ['+', '%', '=', '&'] (List.contains_iff_mem.mp hmark))

theorem unquoted_of_mem_escape {b : UInt8} {c : Char} (h : c ∈ Percent.escape b) : Unquoted c := by
  have hdigit : ∀ n < 16, Ascii.isAlphanumeric (Ascii.hexUpper n) = true := by decide
  have hb := b.toNat_lt
  simp only [Percent.escape, List.mem_cons, List.not_mem_nil, or_false] at h
  rcases h with rfl | rfl | rfl
  · decide
  · exact .inl (hdigit _ (by omega))
  · exact .inl (hdigit _ (by omega))

theorem unquoted_of_mem_encode {s : String} {c : Char} (h : c ∈ encode s) : Unquoted c := by
  obtain ⟨b, -, hc⟩ := List.mem_flatMap.mp h
  unfold encodeByte at hc
  split at hc
  · cases List.mem_singleton.mp hc
    decide
  · split at hc
    · next hkept =>
      cases List.mem_singleton.mp hc
      exact unquoted_of_keeps hkept
    · exact unquoted_of_mem_escape hc

theorem unquoted_of_mem_writePair {pair : String × String} {c : Char} (h : c ∈ writePair pair) :
    Unquoted c := by
  simp only [writePair, List.mem_append, List.mem_singleton] at h
  rcases h with (h | rfl) | h
  · exact unquoted_of_mem_encode h
  · decide
  · exact unquoted_of_mem_encode h

theorem unquoted_of_mem_write {pairs : List (String × String)} {c : Char} (h : c ∈ write pairs) :
    Unquoted c := by
  induction pairs with
  | nil => cases h
  | cons pair pairs ih =>
    cases pairs with
    | nil => exact unquoted_of_mem_writePair h
    | cons next pairs =>
      have hwrite :
          write (pair :: next :: pairs) = writePair pair ++ '&' :: write (next :: pairs) := by
        simp [write, Split.join]
      rw [hwrite, List.mem_append, List.mem_cons] at h
      rcases h with h | rfl | h
      · exact unquoted_of_mem_writePair h
      · decide
      · exact ih h

end Form

/-! ## Appending -/

namespace Url

/-- The URLs agree in all but the query. -/
structure SameButQuery (u u' : Url) : Prop where
  scheme : u'.scheme = u.scheme
  username : u'.username = u.username
  password : u'.password = u.password
  host : u'.host = u.host
  port : u'.port = u.port
  path : u'.path = u.path
  fragment : u'.fragment = u.fragment

/-- The URL with the entries of a map appended to its query, or as it is if there are none. -/
def withQuery (u : Url) (query : SortedMap String) : Url :=
  if query.isEmpty then u else u.appendQuery query.entries

theorem withQuery_empty (u : Url) : u.withQuery .empty = u := rfl

theorem queryPairs_withQuery (u : Url) (query : SortedMap String) :
    (u.withQuery query).queryPairs = u.queryPairs ++ query.entries := by
  unfold withQuery
  split
  · next hempty =>
    rw [SortedMap.isEmpty, List.isEmpty_iff] at hempty
    rw [hempty, List.append_nil]
  · exact queryPairs_appendQuery u query.entries

theorem sameButQuery_withQuery (u : Url) (query : SortedMap String) :
    u.SameButQuery (u.withQuery query) := by
  unfold withQuery
  split
  · exact ⟨rfl, rfl, rfl, rfl, rfl, rfl, rfl⟩
  · exact ⟨rfl, rfl, rfl, rfl, rfl, rfl, rfl⟩

/-- The text of the query is kept, and what comes after it ends no query. -/
theorem query_withQuery (u : Url) (query : SortedMap String) :
    ∃ added, (u.withQuery query).query.getD "" = u.query.getD "" ++ added ∧
      ∀ c ∈ added.toList, Form.Unquoted c := by
  have hplain : ∀ c ∈ (String.ofList (Form.write query.entries)).toList, Form.Unquoted c := by
    rw [String.toList_ofList]
    exact fun c => Form.unquoted_of_mem_write
  unfold withQuery
  split
  · exact ⟨"", (String.append_empty).symm, by simp⟩
  · by_cases hnone : ((u.query.getD "").isEmpty || query.entries.isEmpty) = true
    · refine ⟨String.ofList (Form.write query.entries), ?_, hplain⟩
      simp only [appendQuery, hnone, if_true, Option.getD_some, String.append_empty]
    · refine ⟨"&" ++ String.ofList (Form.write query.entries), ?_, ?_⟩
      · simp only [appendQuery, hnone, Bool.false_eq_true, if_false, Option.getD_some,
          String.append_assoc]
      · intro c hc
        rw [String.toList_append, List.mem_append] at hc
        rcases hc with hc | hc
        · obtain rfl := List.mem_singleton.mp hc
          decide
        · exact hplain c hc

/-- The query as it stands in the text of the URL. -/
def queryText (u : Url) : String := u.query.elim "" ("?" ++ ·)

theorem text_eq (u : Url) : u.text =
    u.scheme ++ ":" ++ u.authorityText ++ u.pathText ++ u.queryText ++
      u.fragment.elim "" ("#" ++ ·) := by
  unfold text target queryText
  cases u.query <;> cases u.fragment <;> simp [String.append_assoc]

/-- The texts of the URLs agree around the query. -/
theorem SameButQuery.text {u u' : Url} (h : u.SameButQuery u') :
    ∃ before after, u.text = before ++ u.queryText ++ after ∧
      u'.text = before ++ u'.queryText ++ after := by
  have hauthority : u'.authorityText = u.authorityText := by
    simp only [authorityText, userInfo, h.username, h.password, h.host, h.port, h.path]
  have hpath : u'.pathText = u.pathText := by simp only [pathText, h.path]
  refine ⟨_, _, text_eq u, ?_⟩
  rw [text_eq u', h.scheme, h.fragment, hauthority, hpath]

end Url

namespace Request

variable {parse : String → Except UrlFlaw Url} {boundary url : String} {method : Method}
  {o : Options} {parsed : Url} {q : Request}

theorem url_of_build (hparse : parse url = .ok parsed)
    (h : buildWith parse boundary method url o = .ok q) :
    q.url = parsed.withQuery o.query := by
  obtain ⟨parsed', -, hparse', -, -, hurl, -⟩ := build_ok h
  rw [hparse] at hparse'
  cases hparse'
  exact hurl

/-- The query of the options has no part in the rest of the request, nor in whether there is one. -/
theorem build_withQuery (parse : String → Except UrlFlaw Url) (boundary url : String)
    (method : Method) (o : Options) (query : SortedMap String) :
    (buildWith parse boundary method url { o with query }).map
      (fun q => (q.method, q.headers, q.body)) =
      (buildWith parse boundary method url o).map fun q => (q.method, q.headers, q.body) := by
  have hheaders : headersOf { o with query } = headersOf o := rfl
  have hbody : ∀ headers, encodeBody boundary { o with query } headers =
      encodeBody boundary o headers := fun _ => rfl
  unfold buildWith
  rw [hheaders]
  cases (parse url).mapError Failure.invalidUrl with
  | error flaw => rfl
  | ok parsed =>
    cases headersOf o with
    | error flaw => rfl
    | ok headers =>
      simp only [bind, Except.bind, hbody]
      cases encodeBody boundary o headers <;> rfl

/-- However URLs are read, the query of the options comes after that of the URL, in the order of the
names, whatever stands in either. All else in the URL is kept, as is the text around what is
appended, and no query makes a request fail that would be built without one. -/
theorem build_appends (hparse : parse url = .ok parsed) :
    (∀ query, (buildWith parse boundary method url { o with query }).map
      (fun q => (q.method, q.headers, q.body)) =
        (buildWith parse boundary method url o).map fun q => (q.method, q.headers, q.body)) ∧
      ∀ q, buildWith parse boundary method url o = .ok q →
        q.url.queryPairs = parsed.queryPairs ++ o.query.entries ∧
          Entries.Sorted o.query.entries ∧
          (∀ name value, (name, value) ∈ o.query.entries ↔ o.query.get? name = some value) ∧
          parsed.SameButQuery q.url ∧
          (∃ added, q.url.query.getD "" = parsed.query.getD "" ++ added ∧
            ∀ c ∈ added.toList, Form.Unquoted c) ∧
          (∃ before after, parsed.text = before ++ parsed.queryText ++ after ∧
            q.url.text = before ++ q.url.queryText ++ after) ∧
          (o.query = .empty → q.url = parsed) := by
  refine ⟨build_withQuery parse boundary url method o, fun q hq => ?_⟩
  have hurl := url_of_build hparse hq
  have hsame : parsed.SameButQuery q.url := hurl ▸ Url.sameButQuery_withQuery parsed o.query
  refine ⟨?_, o.query.sorted, fun name value => SortedMap.mem_entries, hsame, ?_, hsame.text,
    fun hempty => ?_⟩
  · rw [hurl]
    exact Url.queryPairs_withQuery parsed o.query
  · rw [hurl]
    exact Url.query_withQuery parsed o.query
  · rw [hurl, hempty, Url.withQuery_empty]

/-- Reads a URL whose host is in another script, and all others by `Url.parse`. -/
def parseAbroad (url : String) : Except UrlFlaw Url :=
  if url = "https://ada:pw@münchen.de:8443/a?x=1&#top" then
    .ok ⟨"https", "ada", "pw", some (.domain "xn--mnchen-3ya.de"), some 8443, .segments ["a"],
      some "x=1&", some "top"⟩
  else Url.parse url

/-- An empty name, and a value of separators, before a fragment and after a query that ends in a
separator; in the second URL the host is in another script. -/
theorem build_appends_separators :
    (∃ parsed q, Url.parse "https://ada:pw@api.test:8443/a?x=1&#top" = .ok parsed ∧
      build "b" .get "https://ada:pw@api.test:8443/a?x=1&#top"
        { Options.empty with query := .ofList [("q", "a&b=c+d% #é"), ("", "")] } = .ok q ∧
      q.url.queryPairs = [("x", "1"), ("", ""), ("q", "a&b=c+d% #é")] ∧
        q.url.fragment = some "top") ∧
    ∃ parsed q, parseAbroad "https://ada:pw@münchen.de:8443/a?x=1&#top" = .ok parsed ∧
      buildWith parseAbroad "b" .get "https://ada:pw@münchen.de:8443/a?x=1&#top"
        { Options.empty with query := .ofList [("q", "a&b=c+d% #é"), ("", "")] } = .ok q ∧
      q.url.queryPairs = [("x", "1"), ("", ""), ("q", "a&b=c+d% #é")] ∧
      q.url.host = some (.domain "xn--mnchen-3ya.de") := by
  constructor
  · obtain ⟨parsed, hparse, hpairs, hfragment⟩ : ∃ parsed,
        Url.parse "https://ada:pw@api.test:8443/a?x=1&#top" = .ok parsed ∧
          parsed.queryPairs = [("x", "1")] ∧ parsed.fragment = some "top" := by
      refine ⟨_, rfl, ?_, ?_⟩ <;> rfl
    obtain ⟨q, hq⟩ : ∃ q, build "b" .get "https://ada:pw@api.test:8443/a?x=1&#top"
        { Options.empty with query := .ofList [("q", "a&b=c+d% #é"), ("", "")] } = .ok q := ⟨_, rfl⟩
    obtain ⟨hquery, -, -, hsame, -⟩ := (build_appends hparse).2 q hq
    refine ⟨parsed, q, hparse, hq, ?_, hsame.fragment.trans hfragment⟩
    rw [hquery, hpairs]
    rfl
  · obtain ⟨parsed, hparse, hpairs, hhost⟩ : ∃ parsed,
        parseAbroad "https://ada:pw@münchen.de:8443/a?x=1&#top" = .ok parsed ∧
          parsed.queryPairs = [("x", "1")] ∧ parsed.host = some (.domain "xn--mnchen-3ya.de") := by
      refine ⟨_, rfl, ?_, ?_⟩ <;> rfl
    obtain ⟨q, hq⟩ : ∃ q, buildWith parseAbroad "b" .get "https://ada:pw@münchen.de:8443/a?x=1&#top"
        { Options.empty with query := .ofList [("q", "a&b=c+d% #é"), ("", "")] } = .ok q := ⟨_, rfl⟩
    obtain ⟨hquery, -, -, hsame, -⟩ := (build_appends hparse).2 q hq
    refine ⟨parsed, q, hparse, hq, ?_, hsame.host.trans hhost⟩
    rw [hquery, hpairs]
    rfl

end Request

end Courier
