import Courier.Draft
import Courier.Proofs.Labels
import Courier.Proofs.ReadingBack.Form
import Courier.Proofs.ReadingBack.Json
import Courier.Proofs.Rebuilding
/-
What data becomes when it is sent as a body, and that it is read back from the
request. A draft encodes the data as its format says, and the label that goes
with the format is what the request is taken apart by
(`Draft.sendData_carries`): a JSON body holds the data itself, a form holds it
flattened, and parts hold the text of each value.

`Draft.Builds` is about the request that an attempt builds, and `Draft.Sends`
about the runs in which the data is sent: which attempts there are, and that each
of them hands on such a request. What holds of every request that is built holds
of those that are sent (`Draft.sends_of_builds`).
-/
namespace Courier

/-! ## Requests that carry data -/

/-- The options ask for no body. -/
structure Options.Bodiless (o : Options) : Prop where
  json : o.json = none
  formParams : o.formParams = none
  multipart : o.multipart = []
  body : o.body = none

namespace Draft

variable {d : Draft} {m : Method} {url : String} {data : Json}
  {members : SortedMap Json} {q : Request}

/-- `d.Builds m url data q`: for data that is sent with the draft an attempt builds the request `q`,
with some boundary between its parts. -/
def Builds (d : Draft) (m : Method) (url : String) (data : Json) (q : Request) : Prop :=
  ∃ o n, d.dataOptions m data = .ok o ∧
    Request.build (Multipart.boundary n) m (d.dispatch m url o).url (d.dispatch m url o).options =
      .ok q

/-- However the sending of data goes on, each attempt is made from the options as the attempts
before it left them. -/
theorem sendData_made {t : Trace} {out : Outcome} (hruns : (d.sendData m url data).1.Runs t out)
    (hlife : Act.Lifelike t) :
    (∃ f, d.dataOptions m data = .error f ∧ t = [] ∧ out = .error f) ∨
    ∃ o rounds, d.dataOptions m data = .ok o ∧
      t = (d.dispatch m url o).woven rounds ((d.dispatch m url o).pauses d.mode 1 rounds) ∧
        rounds ≠ [] ∧
      ∀ i r, rounds[i]? = some r → ∃ n, (d.dispatch m url o).Made
        ((d.dispatch m url o).optionsAfter (d.dispatch m url o).options rounds i) n r := by
  unfold sendData at hruns
  cases ho : d.dataOptions m data with
  | error f =>
    rw [ho] at hruns
    obtain ⟨ht, hout⟩ := Act.done_leads.mp hruns
    cases hout
    exact .inl ⟨f, rfl, ht, rfl⟩
  | ok o =>
    rw [ho] at hruns
    obtain ⟨rounds, ht, hne, hmade⟩ := Dispatch.run_made hruns hlife
    exact .inr ⟨o, rounds, rfl, ht, hne, hmade⟩

/-- `d.Sends m url data P`: when data is sent with the draft, `P` holds of the requests. -/
structure Sends (d : Draft) (m : Method) (url : String) (data : Json) (P : Request → Prop) :
    Prop where
  builds : ∀ q, d.Builds m url data q → P q
  /-- Whatever is replied, nothing is done if the data cannot be sent. Else there are attempts, each
  of which builds a request and hands it on, or has none to hand on; and as long as the retry test
  has left the options alone, which it has before the first attempt, `P` holds of the request. -/
  runs : ∀ t out, (d.sendData m url data).1.Runs t out → Act.Lifelike t →
    (∃ f, d.dataOptions m data = .error f ∧ t = [] ∧ out = .error f) ∨
    ∃ o rounds, d.dataOptions m data = .ok o ∧
      t = (d.dispatch m url o).woven rounds ((d.dispatch m url o).pauses d.mode 1 rounds) ∧
        rounds ≠ [] ∧
      ∀ i r, rounds[i]? = some r → ∃ n o',
        o' = (d.dispatch m url o).optionsAfter (d.dispatch m url o).options rounds i ∧
        (d.dispatch m url o).Made o' n r ∧
        (i = 0 ∨ (d.dispatch m url o).KeepsOptions → o' = (d.dispatch m url o).options) ∧
        (o' = (d.dispatch m url o).options → ∀ q,
          Request.build (Multipart.boundary n) m (d.dispatch m url o).url o' = .ok q → P q)

theorem sends_of_builds {P : Request → Prop} (h : ∀ q, d.Builds m url data q → P q) :
    d.Sends m url data P where
  builds := h
  runs := by
    intro t out hruns hlife
    obtain hfails | ⟨o, rounds, ho, ht, hne, hmade⟩ := sendData_made hruns hlife
    · exact .inl hfails
    refine .inr ⟨o, rounds, ho, ht, hne, fun i r hr => ?_⟩
    obtain ⟨n, hn⟩ := hmade i r hr
    refine ⟨n, _, rfl, hn, ?_, fun hoptions q hbuild => h q ⟨o, n, ho, hoptions ▸ hbuild⟩⟩
    rintro (rfl | hkeeps)
    · rfl
    · exact Dispatch.optionsAfter_of_keepsOptions hkeeps i

/-- In each world data that can be sent is sent, and what holds of the requests holds of that of the
first attempt. -/
theorem Sends.exists_attempt {P : Request → Prop} (h : d.Sends m url data P) {o : Options}
    (ho : d.dataOptions m data = .ok o) (w : World) : ∃ t n r,
      (d.sendData m url data).1.Runs t (w.run (d.sendData m url data).1).1 ∧
      (d.dispatch m url o).Made (d.dispatch m url o).options n r ∧
      ∀ q, Request.build (Multipart.boundary n) m (d.dispatch m url o).url
        (d.dispatch m url o).options = .ok q →
        P q := by
  obtain ⟨t, hruns, hlife⟩ := Act.exists_runs w (d.sendData m url data).1
  obtain ⟨f, hf, -⟩ | ⟨o', rounds, ho', -, hne, hmade⟩ := h.runs t _ hruns hlife
  · exact absurd (hf.symm.trans ho) (by simp)
  · obtain rfl : o' = o := Except.ok.inj (ho'.symm.trans ho)
    obtain ⟨r, hr⟩ : ∃ r, rounds[0]? = some r :=
      ⟨_, List.getElem?_eq_getElem (List.length_pos_of_ne_nil hne)⟩
    obtain ⟨n, options, -, hn, hfirst, hholds⟩ := hmade 0 r hr
    obtain rfl := hfirst (.inl rfl)
    exact ⟨t, n, r, hruns, hn, hholds rfl⟩

/-! ## Options that carry data -/

/-- The parts that data is sent as, one for each member. -/
def partsOf (members : SortedMap Json) : List Part :=
  members.entries.map fun entry => Part.ofText entry.1 entry.2.field

/-- The options that carry the members of data in a body of the format. -/
def optionsFor (members : SortedMap Json) : BodyFormat → Options
  | .json => { Options.empty with json := some (.ofMap members) }
  | .form => { Options.empty with formParams := some members }
  | .multipart => { Options.empty with multipart := partsOf members }
  | .raw => { Options.empty with body := some (Json.ofMap members).bytes }

theorem dataOptions_body (d : Draft) (hm : m.sendsDataAsQuery = false) (members : SortedMap Json) :
    d.dataOptions m (.ofMap members) = .ok (optionsFor members d.format) := by
  have hmembers : Draft.members (.ofMap members) = .ok members :=
    congrArg Except.ok (SortedMap.ofList_entries members)
  unfold dataOptions
  rw [hm, hmembers]
  cases d.format <;> rfl

/-- The options of a request with data, if those of the draft ask for no body: what was staged for
another format is not among them. -/
def carrying (d : Draft) (members : SortedMap Json) : Options :=
  match d.format with
  | .json => { d.options with json := some (.ofMap members) }
  | .form => { d.options with formParams := some members }
  | .multipart => { d.options with multipart := partsOf members ++ d.stagedParts }
  | .raw => { d.options with body := d.stagedBody.or (some (Json.ofMap members).bytes) }

theorem withStaged_merge (hb : d.options.Bodiless) (members : SortedMap Json) :
    d.withStaged (d.options.merge (optionsFor members d.format)) = d.carrying members := by
  unfold withStaged carrying
  cases d.format <;>
    simp [Options.merge, optionsFor, Options.empty, Options.later, Options.united,
      SortedMap.insertAll, SortedMap.empty, hb.json, hb.formParams, hb.multipart, hb.body]

/-- From what a request with data is built. -/
theorem Builds.exists_build (hq : d.Builds m url (.ofMap members) q) (hb : d.options.Bodiless)
    (hm : m.sendsDataAsQuery = false) :
    ∃ n url', Request.build (Multipart.boundary n) m url' (d.carrying members) = .ok q := by
  obtain ⟨o, n, ho, hbuild⟩ := hq
  rw [dataOptions_body d hm] at ho
  cases ho
  have ho : (d.dispatch m url (optionsFor members d.format)).options = d.carrying members :=
    withStaged_merge hb members
  exact ⟨n, _, ho ▸ hbuild⟩

theorem Builds.options_eq (hq : d.Builds m url (.ofMap members) q) (hb : d.options.Bodiless)
    (hm : m.sendsDataAsQuery = false) : q.options = d.carrying members := by
  obtain ⟨n, url', hbuild⟩ := hq.exists_build hb hm
  obtain ⟨-, -, -, -, -, -, -, hoptions⟩ := Request.build_ok hbuild
  exact hoptions

/-! ## Drafts that ask for no body -/

theorem bodiless_contentType (hb : d.options.Bodiless) (type : String) :
    (d.contentType type).options.Bodiless :=
  ⟨hb.json, hb.formParams, hb.multipart, hb.body⟩

theorem label?_contentType (d : Draft) (type : String) :
    (d.contentType type).options.label? = some type :=
  Options.label?_setHeader d.options (by decide) type

/-- The options of a new draft are those of its client, with a label that those may replace. -/
theorem bodiless_request {c : Client} (hb : c.options.Bodiless) : c.request.1.options.Bodiless := by
  refine ⟨?_, ?_, ?_, ?_⟩
  · exact congrArg (Options.united Json.merge none) hb.json
  · exact congrArg (Options.united Options.mergeMaps none) hb.formParams
  · exact hb.multipart
  · exact congrArg (Options.later none) hb.body

theorem label?_request (c : Client) :
    c.request.1.options.label? = c.options.label?.or (some "application/json") := by
  have hplain : c.plainDraft.options.label? = some "application/json" := label?_contentType _ _
  rw [← hplain]
  exact Options.label?_merge c.plainDraft.options c.options

/-! ## The body and its label -/

theorem Builds.json (hq : d.Builds m url (.ofMap members) q) (hb : d.options.Bodiless)
    (hm : m.sendsDataAsQuery = false) (hformat : d.format = .json) :
    q.body = (Json.ofMap members).bytes ∧
      q.headers.values? "content-type" =
        some [Utf8.encode (d.options.label?.getD MediaType.json.name)] ∧
      q.options.multipart = [] ∧ q.options.body = none := by
  obtain ⟨n, url', hbuild⟩ := hq.exists_build hb hm
  have hoptions := hq.options_eq hb hm
  rw [carrying, hformat] at hbuild hoptions
  obtain ⟨hbody, hlabel⟩ := Request.build_json hbuild hb.multipart hb.formParams rfl
  rw [hoptions]
  exact ⟨hbody, hlabel, hb.multipart, hb.body⟩

theorem Builds.form (hq : d.Builds m url (.ofMap members) q) (hb : d.options.Bodiless)
    (hm : m.sendsDataAsQuery = false) (hformat : d.format = .form) :
    q.body = Utf8.encode (String.ofList (Form.write (Form.fields members))) ∧
      q.headers.values? "content-type" =
        some [Utf8.encode (d.options.label?.getD MediaType.form.name)] ∧
      q.options.multipart = [] ∧ q.options.body = none := by
  obtain ⟨n, url', hbuild⟩ := hq.exists_build hb hm
  have hoptions := hq.options_eq hb hm
  rw [carrying, hformat] at hbuild hoptions
  obtain ⟨hbody, hlabel⟩ := Request.build_form hbuild hb.multipart rfl
  rw [hoptions]
  exact ⟨hbody, hlabel, hb.multipart, hb.body⟩

theorem Builds.multipart (hq : d.Builds m url (.ofMap members) q) (hb : d.options.Bodiless)
    (hm : m.sendsDataAsQuery = false) (hformat : d.format = .multipart) :
    q.options.multipart = partsOf members ++ d.stagedParts ∧ q.options.body = none ∧
      (partsOf members ++ d.stagedParts = [] → q.body = []) ∧
      (partsOf members ++ d.stagedParts ≠ [] → ∃ n,
        q.body = Multipart.body (Multipart.boundary n) (partsOf members ++ d.stagedParts) ∧
        q.headers.values? "content-type" =
          some [Utf8.encode (Multipart.mediaType (Multipart.boundary n))]) := by
  obtain ⟨n, url', hbuild⟩ := hq.exists_build hb hm
  have hoptions := hq.options_eq hb hm
  rw [carrying, hformat] at hbuild hoptions
  rw [hoptions]
  refine ⟨rfl, hb.body, fun hempty => ?_, fun hne => ⟨n, Request.build_parts hbuild hne⟩⟩
  rw [(Request.build_raw hbuild hempty hb.formParams hb.json).1]
  simp [hb.body]

theorem Builds.raw (hq : d.Builds m url (.ofMap members) q) (hb : d.options.Bodiless)
    (hm : m.sendsDataAsQuery = false) (hformat : d.format = .raw) :
    q.body = d.stagedBody.getD (Json.ofMap members).bytes ∧
      (q.headers.values? "content-type" = d.options.label?.map fun type => [Utf8.encode type]) ∧
      q.options.multipart = [] := by
  obtain ⟨n, url', hbuild⟩ := hq.exists_build hb hm
  have hoptions := hq.options_eq hb hm
  rw [carrying, hformat] at hbuild hoptions
  obtain ⟨hbody, hlabel⟩ := Request.build_raw hbuild hb.multipart hb.formParams hb.json
  rw [hoptions]
  refine ⟨?_, hlabel, hb.multipart⟩
  rw [hbody]
  cases d.stagedBody <;> rfl

/-! ## The data that is read back -/

/-- `Flattened entries pairs`: the pairs stand for the entries in their order, one pair for an
entry, but one for each item of a list. -/
inductive Flattened : List (String × Json) → List (String × String) → Prop
  | nil : Flattened [] []
  | list {key items entries pairs} : Flattened entries pairs →
      Flattened ((key, .array items) :: entries)
        ((items.map fun item => (key, item.field)) ++ pairs)
  | single {key value entries pairs} : (∀ items, value ≠ .array items) → Flattened entries pairs →
      Flattened ((key, value) :: entries) ((key, value.field) :: pairs)

theorem flattened_fields (members : SortedMap Json) :
    Flattened members.entries (Form.fields members) := by
  unfold Form.fields
  induction members.entries with
  | nil => exact .nil
  | cons entry entries ih =>
    obtain ⟨key, value⟩ := entry
    rw [List.flatMap_cons]
    cases value with
    | array items => exact .list ih
    | null | bool _ | number _ | string _ | object _ => exact .single (fun _ h => nomatch h) ih

/-- The text of the parts that data is sent as. -/
theorem text_partsOf (members : SortedMap Json) :
    ((partsOf members).map fun p => (p.name, Utf8.decodeLossy p.contents)) =
      members.entries.map fun entry => (entry.1, entry.2.field) := by
  rw [partsOf, List.map_map]
  refine List.map_congr_left fun entry _ => ?_
  exact congrArg (Prod.mk entry.1) (Utf8.decodeLossy_encode entry.2.field)

/-- Data that is sent as JSON is read back as it is, nested as deep as JSON is read; a form is read
back as the data flattened, and holds under each key the last of its values; and parts hold under
each key the text of its value. -/
theorem sendData_carries (hb : d.options.Bodiless) (hparts : d.stagedParts = [])
    (hm : m.sendsDataAsQuery = false) (url : String) (members : SortedMap Json) :
    (Json.Plain 127 (.ofMap members) →
      d.asJson.Sends m url (.ofMap members) fun q => q.data = members) ∧
    (d.asForm.Sends m url (.ofMap members) fun q => Flattened members.entries (Form.read q.body) ∧
      ∀ key, q.data.get? key = (Entries.last? key (Form.read q.body)).map .string) ∧
    d.asMultipart.Sends m url (.ofMap members) fun q => ∀ key value, members.get? key = some value →
      q.data.get? key = some (.string value.field) := by
  refine ⟨fun hplain => sends_of_builds fun q hq => ?_, sends_of_builds fun q hq => ?_,
    sends_of_builds fun q hq key value hvalue => ?_⟩
  · obtain ⟨hbody, hlabel, -⟩ := hq.json (bodiless_contentType hb _) hm rfl
    rw [show d.asJson.options.label? = some MediaType.json.name from label?_contentType _ _,
      Option.getD_some] at hlabel
    rw [Request.data_of_json hlabel, hbody, Json.parse?_bytes hplain]
    exact SortedMap.ofList_entries members
  · obtain ⟨hbody, hlabel, -⟩ := hq.form (bodiless_contentType hb _) hm rfl
    rw [show d.asForm.options.label? = some MediaType.form.name from label?_contentType _ _,
      Option.getD_some] at hlabel
    have hread : Form.read q.body = Form.fields members := by rw [hbody, Form.read_write]
    refine ⟨hread ▸ flattened_fields members, fun key => ?_⟩
    rw [Request.data_of_form hlabel, Request.get?_textMap]
  · obtain ⟨hoptions, -, -, hsent⟩ := hq.multipart hb hm rfl
    have hnone : d.asMultipart.stagedParts = [] := hparts
    rw [hnone, List.append_nil] at hoptions hsent
    have hne : partsOf members ≠ [] := by
      have hmem := SortedMap.mem_entries.mpr hvalue
      exact List.ne_nil_of_mem (List.mem_map_of_mem hmem)
    obtain ⟨n, -, hlabel⟩ := hsent hne
    rw [Request.data_of_parts hlabel, hoptions, text_partsOf, Request.get?_textMap,
      Entries.last?_map key Json.field members.entries, SortedMap.last?_entries, hvalue]
    rfl

/-- A client with nothing registered, whose requests all succeed. -/
def bare : Client := .new ⟨fun _ => pure (.ok (.ofStatus 200)), false⟩ false

def survey : SortedMap Json where
  entries :=
    [("age", .int 41), ("notes", .object [("a&b", .null), ("n", .array [.int (-1), .bool true])]),
      ("tags", .array [.string "new", .string "50 % off"])]
  sorted := by decide

theorem sendData_carries_survey :
    (∃ q, bare.request.1.asJson.Builds .post "http://a.test/" (.ofMap survey) q ∧ q.data = survey) ∧
    (∃ q, bare.request.1.asForm.Builds .put "http://a.test/" (.ofMap survey) q ∧
      Flattened survey.entries (Form.read q.body)) ∧
    (∃ q, bare.request.1.asMultipart.Builds .patch "http://a.test/" (.ofMap survey) q ∧
      q.data.get? "tags" = some (.string "[\"new\",\"50 % off\"]")) ∧
    ∃ t out n r,
      (bare.request.1.asJson.sendData .post "http://a.test/" (.ofMap survey)).1.Runs t out ∧
      (bare.request.1.asJson.dispatch .post "http://a.test/" (optionsFor survey .json)).Made
        (bare.request.1.asJson.dispatch .post "http://a.test/" (optionsFor survey .json)).options n
          r := by
  have hb : bare.request.1.options.Bodiless := ⟨rfl, rfl, rfl, rfl⟩
  have hplain : Json.Plain 127 (.ofMap survey) := by
    refine ⟨?_, ?_, by decide⟩
    · simp only [Json.ofMap, survey, Json.Whole, Json.WholeEntries, Json.WholeItems, Json.int]
      decide
    · have hnotes : Entries.Sorted [("a&b", Json.null), ("n", .array [.int (-1), .bool true])] := by
        decide
      refine ⟨survey.sorted, ?_⟩
      simpa [survey, Json.Ordered, Json.OrderedEntries, Json.OrderedItems, Json.int] using hnotes
  have hjson : ∃ q, bare.request.1.asJson.Builds .post "http://a.test/" (.ofMap survey) q :=
    ⟨_, _, ⟨0, 0⟩, rfl, rfl⟩
  have hform : ∃ q, bare.request.1.asForm.Builds .put "http://a.test/" (.ofMap survey) q :=
    ⟨_, _, ⟨0, 0⟩, rfl, rfl⟩
  have hparts : ∃ q, bare.request.1.asMultipart.Builds .patch "http://a.test/" (.ofMap survey) q :=
    ⟨_, _, ⟨0, 0⟩, rfl, rfl⟩
  obtain ⟨q, hq⟩ := hjson
  obtain ⟨q', hq'⟩ := hform
  obtain ⟨q'', hq''⟩ := hparts
  have hsends := (sendData_carries hb rfl (m := .post) rfl "http://a.test/" survey).1 hplain
  refine ⟨⟨q, hq, hsends.builds q hq⟩, ⟨q', hq', ?_⟩, ⟨q'', hq'', ?_⟩, ?_⟩
  · exact ((sendData_carries hb rfl rfl "http://a.test/" survey).2.1.builds q' hq').1
  · exact (sendData_carries hb rfl rfl "http://a.test/" survey).2.2.builds q'' hq'' "tags" _ rfl
  · obtain ⟨t, n, r, hruns, hmade, -⟩ :=
      hsends.exists_attempt (dataOptions_body _ rfl survey) (.initial .default true .unreachable)
    exact ⟨t, _, n, r, hruns, hmade⟩

end Draft

end Courier
