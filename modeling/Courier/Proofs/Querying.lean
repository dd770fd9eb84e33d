import Courier.Proofs.Appending
import Courier.Proofs.Carrying
/-
What data becomes when it is sent in the query. The pairs that the data is
flattened to are put into a map with the query of the draft, so each name comes
once, with the last value that was given under it (`Draft.sendData_query`). Names
that differ all get through.

The data of such a request is in its URL, and is read back from there unless
the request is labelled as one with a body (`Draft.sendData_query_data`), which
drafts that send JSON or forms are.
-/
namespace Courier

/-- Every pair is in the query of the request, as often as it is among the pairs and in their order
under each name. -/
def Request.QueryKeeps (q : Request) (pairs : List (String × String)) : Prop :=
  ∀ name, (pairs.filter (·.1 == name)).Sublist (q.url.queryPairs.filter (·.1 == name))

namespace Draft

variable {d : Draft} {m : Method} {url : String} {data : Json}
  {pairs : List (String × String)} {q : Request}

/-- The query of the options that a draft sends. -/
theorem query_dispatch (d : Draft) (m : Method) (url : String) (o : Options) :
    (d.dispatch m url o).options.query = d.options.query.insertAll o.query.entries := by
  unfold dispatch withStaged
  cases d.format <;> rfl

theorem dataOptions_query {o : Options} (hm : m.sendsDataAsQuery = true)
    (h : d.dataOptions m data = .ok o) :
    ∃ pairs, Form.queryPairs data = .ok pairs ∧
      o = { Options.empty with query := .ofList pairs } := by
  unfold dataOptions at h
  rw [if_pos hm] at h
  cases hpairs : Form.queryPairs data with
  | error flaw =>
    rw [hpairs] at h
    cases h
  | ok pairs =>
    rw [hpairs] at h
    cases h
    exact ⟨pairs, rfl, rfl⟩

/-- What the URL of a request with data in its query holds. -/
theorem Builds.queryPairs_eq (hq : d.Builds m url data q) (hm : m.sendsDataAsQuery = true) :
    ∃ pairs parsed, Form.queryPairs data = .ok pairs ∧
      Url.parse (Url.expand d.urlParameters (Url.underBase d.baseUrl url)) = .ok parsed ∧
      q.url.queryPairs = parsed.queryPairs ++
        (d.options.query.insertAll (SortedMap.ofList pairs).entries).entries := by
  obtain ⟨o, n, ho, hbuild⟩ := hq
  obtain ⟨pairs, hpairs, rfl⟩ := dataOptions_query hm ho
  obtain ⟨parsed, -, hparse, -⟩ := Request.build_ok hbuild
  refine ⟨pairs, parsed, hpairs, hparse, ?_⟩
  rw [Request.url_of_build hparse hbuild, Url.queryPairs_withQuery, query_dispatch]

/-- Data in the query comes after the query that the URL has. Each name comes once, with the last of
its values in the data, or the one that the draft gives it. So where no name is given twice, nothing
is lost. -/
theorem sendData_query (d : Draft) (hm : m.sendsDataAsQuery = true) (url : String) (data : Json) :
    d.Sends m url data fun q => ∃ pairs parsed sent, Form.queryPairs data = .ok pairs ∧
      Url.parse (Url.expand d.urlParameters (Url.underBase d.baseUrl url)) = .ok parsed ∧
      q.url.queryPairs = parsed.queryPairs ++ sent ∧ Entries.Sorted sent ∧
      (∀ name value, (name, value) ∈ sent ↔
        (Entries.last? name pairs).or (d.options.query.get? name) = some value) ∧
      ((pairs.map Prod.fst).Nodup → q.QueryKeeps pairs) := by
  refine sends_of_builds fun q hq => ?_
  obtain ⟨pairs, parsed, hpairs, hparse, hquery⟩ := hq.queryPairs_eq hm
  have hsent : ∀ name value, (name, value) ∈
      (d.options.query.insertAll (SortedMap.ofList pairs).entries).entries ↔
      (Entries.last? name pairs).or (d.options.query.get? name) = some value := by
    intro name value
    rw [SortedMap.mem_entries, SortedMap.get?_insertAll, SortedMap.last?_entries,
      SortedMap.get?_ofList]
  refine ⟨pairs, parsed, _, hpairs, hparse, hquery, SortedMap.sorted _, hsent,
    fun hnodup name => ?_⟩
  cases hfilter : pairs.filter (·.1 == name) with
  | nil => exact List.nil_sublist _
  | cons pair rest =>
    obtain ⟨hmem, hname⟩ :=
      List.mem_filter.mp (hfilter ▸ List.mem_cons_self : pair ∈ pairs.filter (·.1 == name))
    obtain rfl : pair.1 = name := beq_iff_eq.mp hname
    have hone := Entries.filter_eq_singleton hnodup hmem
    have hlast : Entries.last? pair.1 pairs = some pair.2 := by rw [Entries.last?, hone]; rfl
    rw [← hfilter, hone, List.singleton_sublist, hquery]
    refine List.mem_filter.mpr ⟨List.mem_append_right _ ((hsent pair.1 pair.2).mpr ?_), hname⟩
    rw [hlast]
    rfl

/-- A question with a list of one item. -/
def question : Json := .object [("q", .string "rust"), ("tags", .array [.string "a"])]

theorem sendData_query_question :
    (∃ q, (bare.request.1.withQuery [("page", "1")]).Builds .get
      "https://api.test/search?v=2" question q ∧
      q.QueryKeeps [("q", "rust"), ("tags", "a")]) ∧
    ∃ o t out n r,
      ((bare.request.1.withQuery [("page", "1")]).sendData .get "https://api.test/search?v=2"
        question).1.Runs t out ∧
      ((bare.request.1.withQuery [("page", "1")]).dispatch .get
        "https://api.test/search?v=2" o).Made
        ((bare.request.1.withQuery [("page", "1")]).dispatch .get "https://api.test/search?v=2"
          o).options n r := by
  have hsends := sendData_query (m := .get) (bare.request.1.withQuery [("page", "1")]) rfl
    "https://api.test/search?v=2" question
  constructor
  · obtain ⟨q, hq⟩ : ∃ q, (bare.request.1.withQuery [("page", "1")]).Builds .get
      "https://api.test/search?v=2" question q := ⟨_, _, ⟨0, 0⟩, rfl, rfl⟩
    obtain ⟨pairs, parsed, sent, hpairs, -, -, -, -, hkeeps⟩ := hsends.builds q hq
    rw [Form.queryPairs_eq_pairs] at hpairs
    cases hpairs
    exact ⟨q, hq, hkeeps (by decide)⟩
  · obtain ⟨o, ho⟩ : ∃ o, (bare.request.1.withQuery [("page", "1")]).dataOptions .get question =
      .ok o := ⟨_, rfl⟩
    obtain ⟨t, n, r, hruns, hmade, -⟩ :=
      hsends.exists_attempt ho (.initial .default true .unreachable)
    exact ⟨o, t, _, n, r, hruns, hmade⟩

/-- A list with more than one item does not get through. -/
theorem not_builds_queryKeeps : ¬ ∀ (d : Draft) (m : Method) (url : String) (data : Json)
    (pairs : List (String × String)) (q : Request), m.sendsDataAsQuery = true →
      Form.queryPairs data = .ok pairs →
      d.Builds m url data q → q.QueryKeeps pairs := by
  intro h
  let data : Json := .object [("tags", .array [.string "a", .string "b"])]
  have hpairs : Form.queryPairs data = .ok [("tags", "a"), ("tags", "b")] := by
    rw [Form.queryPairs_eq_pairs]; rfl
  obtain ⟨q, hq, hquery⟩ : ∃ q, bare.request.1.Builds .get "https://api.test/search" data q ∧
      q.url.queryPairs = [("tags", "b")] := ⟨_, ⟨_, ⟨0, 0⟩, rfl, rfl⟩, rfl⟩
  have hkeeps := (h _ _ _ _ _ q rfl hpairs hq "tags").length_le
  rw [hquery] at hkeeps
  exact absurd hkeeps (by decide)

end Draft

/-! ## Data that is looked for -/

/-- A map of texts as a value. -/
def Json.ofTexts (texts : SortedMap String) : Json :=
  .object (texts.entries.map fun entry => (entry.1, .string entry.2))

theorem Form.queryPairs_ofTexts (texts : SortedMap String) :
    Form.queryPairs (.ofTexts texts) = .ok texts.entries := by
  have hmembers (entries : List (String × String)) :
      (entries.map fun entry => (entry.1, Json.string entry.2)).mapM Form.member =
        .ok (entries.map ([·])) := by
    induction entries with
    | nil => rfl
    | cons entry entries ih =>
      rw [List.map_cons, List.mapM_cons, ih]
      rfl
  rw [Form.queryPairs_eq_pairs, Json.ofTexts, Form.pairs, hmembers]
  exact congrArg Except.ok (List.flatMap_def.symm.trans (List.flatMap_singleton' texts.entries))

namespace Draft

variable {d : Draft} {m : Method} {url : String} {texts : SortedMap String} {q : Request}

/-- Texts that are sent in the query come after those of the URL. -/
theorem Builds.queryPairs_texts (hq : d.Builds m url (.ofTexts texts) q)
    (hm : m.sendsDataAsQuery = true) :
    ∃ before sent : List (String × String), q.url.queryPairs = before ++ sent ∧
      ∀ name value, texts.get? name = some value → Entries.last? name sent = some value := by
  obtain ⟨pairs, parsed, hpairs, -, hquery⟩ := hq.queryPairs_eq hm
  rw [Form.queryPairs_ofTexts] at hpairs
  cases hpairs
  refine ⟨_, _, hquery, fun name value hvalue => ?_⟩
  rw [SortedMap.ofList_entries, SortedMap.last?_entries, SortedMap.get?_insertAll,
    SortedMap.last?_entries, hvalue]
  rfl

/-- A request that is labelled as none with a body holds the texts of its query. -/
theorem Builds.data_of_query (hq : d.Builds m url (.ofTexts texts) q)
    (hm : m.sendsDataAsQuery = true) (hform : q.isForm = false) (hjson : q.isJson = false)
    (hmultipart : q.isMultipart = false) {name value : String}
    (hvalue : texts.get? name = some value) : q.data.get? name = some (.string value) := by
  obtain ⟨before, sent, hquery, hlast⟩ := hq.queryPairs_texts hm
  have hdata : q.data = Request.textMap q.url.queryPairs := by
    rw [Request.data, hform, hjson, hmultipart]
    rfl
  rw [hdata, Request.get?_textMap, hquery, Entries.last?_append, hlast name value hvalue]
  rfl

/-- A draft that sends JSON or forms has no place for what was staged: with data in its query a
request has no body, and still the label of its draft. -/
theorem Builds.query_bodiless {data : Json} (hq : d.Builds m url data q)
    (hm : m.sendsDataAsQuery = true) (hb : d.options.Bodiless)
    (hformat : d.format = .json ∨ d.format = .form) :
    q.body = [] ∧ q.headers.values? "content-type" = d.options.label?.map fun type =>
      [Utf8.encode type] := by
  obtain ⟨o, n, ho, hbuild⟩ := hq
  obtain ⟨pairs, -, rfl⟩ := dataOptions_query hm ho
  have hoptions : (d.dispatch m url { Options.empty with query := .ofList pairs }).options =
      d.options.merge { Options.empty with query := .ofList pairs } := by
    unfold dispatch withStaged
    obtain hformat | hformat := hformat <;> rw [hformat]
  have hlabel : (d.options.merge { Options.empty with query := .ofList pairs }).label? =
      d.options.label? :=
    Options.label?_merge _ _
  rw [hoptions] at hbuild
  rw [← hlabel]
  obtain ⟨hbody, hlabelled⟩ := Request.build_raw hbuild (congrArg (· ++ []) hb.multipart)
    (congrArg (Options.united Options.mergeMaps · none) hb.formParams)
    (congrArg (Options.united Json.merge · none) hb.json)
  refine ⟨?_, hlabelled⟩
  rw [hbody]
  exact congrArg (fun body => (Options.later body none).getD []) hb.body

/-- What `get` and `head` of a new draft send is in the URL. It is not in the data of the request,
which is labelled as JSON or as a form and has no body. -/
theorem sendData_query_data {c : Client} (hb : c.options.Bodiless)
    (hlabel : c.options.label? = none)
    (hd : d = c.request.1 ∨ d = c.request.1.asJson ∨ d = c.request.1.asForm)
    (hm : m.sendsDataAsQuery = true) (url : String) (texts : SortedMap String) :
    d.Sends m url (.ofTexts texts) fun q =>
      (∀ name value, texts.get? name = some value → (name, value) ∈ q.url.queryPairs) ∧
        q.data = .empty := by
  refine sends_of_builds fun q hq => ⟨fun name value hvalue => ?_, ?_⟩
  · obtain ⟨before, sent, hquery, hlast⟩ := hq.queryPairs_texts hm
    rw [hquery]
    exact List.mem_append_right before (Entries.mem_of_last? (hlast name value hvalue))
  · have hnew : c.request.1.options.Bodiless := bodiless_request hb
    have hdraft : d.options.Bodiless ∧
        (d.format = .json ∧ d.options.label? = some MediaType.json.name ∨
          d.format = .form ∧ d.options.label? = some MediaType.form.name) := by
      obtain rfl | rfl | rfl := hd
      · refine ⟨hnew, .inl ⟨rfl, ?_⟩⟩
        rw [label?_request, hlabel]
        rfl
      · exact ⟨bodiless_contentType hnew _, .inl ⟨rfl, label?_contentType _ _⟩⟩
      · exact ⟨bodiless_contentType hnew _, .inr ⟨rfl, label?_contentType _ _⟩⟩
    obtain ⟨hdb, ⟨hformat, htype⟩ | ⟨hformat, htype⟩⟩ := hdraft
    · obtain ⟨hbody, hlabelled⟩ := hq.query_bodiless hm hdb (.inl hformat)
      rw [htype] at hlabelled
      rw [Request.data_of_json hlabelled, hbody]
      rfl
    · obtain ⟨hbody, hlabelled⟩ := hq.query_bodiless hm hdb (.inr hformat)
      rw [htype] at hlabelled
      rw [Request.data_of_form hlabelled, hbody]
      rfl

theorem sendData_query_data_search :
    (∃ q, bare.request.1.Builds .head "https://api.test/search"
      (.ofTexts (.ofList [("q", "rust")])) q ∧
      ("q", "rust") ∈ q.url.queryPairs ∧ q.data = .empty) ∧
    ∃ o t out n r,
      (bare.request.1.sendData .head "https://api.test/search"
        (.ofTexts (.ofList [("q", "rust")]))).1.Runs t out ∧
      (bare.request.1.dispatch .head "https://api.test/search" o).Made
        (bare.request.1.dispatch .head "https://api.test/search" o).options n r := by
  have hsends :=
    sendData_query_data (c := bare) ⟨rfl, rfl, rfl, rfl⟩ rfl (.inl rfl) (m := .head) rfl
      "https://api.test/search" (.ofList [("q", "rust")])
  constructor
  · obtain ⟨q, hq⟩ : ∃ q,
        bare.request.1.Builds .head "https://api.test/search"
            (.ofTexts (.ofList [("q", "rust")])) q :=
      ⟨_, _, ⟨0, 0⟩, rfl, rfl⟩
    obtain ⟨hquery, hdata⟩ := hsends.builds q hq
    exact ⟨q, hq, hquery "q" "rust" rfl, hdata⟩
  · obtain ⟨o, ho⟩ : ∃ o, bare.request.1.dataOptions .head (.ofTexts (.ofList [("q", "rust")])) =
      .ok o := ⟨_, rfl⟩
    obtain ⟨t, n, r, hruns, hmade, -⟩ :=
      hsends.exists_attempt ho (.initial .default true .unreachable)
    exact ⟨o, t, _, n, r, hruns, hmade⟩

/-- What was sent in the query is not found in the data of a request of a new draft. -/
theorem not_data_of_query :
    ¬ ∀ (c : Client) (d : Draft) (m : Method) (url : String) (texts : SortedMap String)
    (q : Request), d = c.request.1 ∨ d = c.request.1.asJson ∨ d = c.request.1.asForm →
    m.sendsDataAsQuery = true →
      d.Builds m url (.ofTexts texts) q →
      ∀ name value, texts.get? name = some value → q.data.get? name = some (.string value) := by
  intro h
  obtain ⟨q, hq, hdata⟩ : ∃ q,
      bare.request.1.Builds .get "https://api.test/search" (.ofTexts (.ofList [("q", "rust")])) q ∧
      q.data.get? "q" = none := ⟨_, ⟨_, ⟨0, 0⟩, rfl, rfl⟩, rfl⟩
  have hfound := h bare _ _ _ _ q (.inl rfl) rfl hq "q" "rust" rfl
  rw [hdata] at hfound
  cases hfound

end Draft

end Courier
