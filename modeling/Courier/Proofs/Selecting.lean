import Courier.Proofs.Carrying
/-
Which body data becomes after the body format was chosen several times over.
The calls that choose it write to four places of a draft (the format, the
staged body, the staged parts and the label), and some leave there what they
do not need. What a request is built from is nevertheless decided by the last
of them (`Draft.selectAll_sends`): only the format that it chose looks at what
was staged, and each format that has a label of its own sets it anew.
-/
namespace Courier

/-- The header fields of the request give it this one label. -/
def Request.LabelledAs (q : Request) (type : String) : Prop :=
  q.headers.getAll "Content-Type" = [Utf8.encode type]

theorem Request.labelledAs_of_values {q : Request} {type : String}
    (h : q.headers.values? "content-type" = some [Utf8.encode type]) : q.LabelledAs type := by
  have hname : Header.name? "Content-Type" = some "content-type" := by decide
  simp only [LabelledAs, Headers.getAll, hname, Headers.valuesOf_eq, h, Option.getD_some]

namespace Draft

/-! ## Choosing a format -/

/-- A call that chooses how data becomes a body. -/
inductive Selector
  | asJson
  | asForm
  | asMultipart
  | attach (part : Part)
  | withBody (body : Bytes) (type : String)

def select (d : Draft) : Selector → Draft
  | .asJson => d.asJson
  | .asForm => d.asForm
  | .asMultipart => d.asMultipart
  | .attach part => d.attach part
  | .withBody body type => d.withBody body type

/-- One call after another. -/
def selectAll (d : Draft) (selectors : List Selector) : Draft := selectors.foldl select d

/-- The part that a call attaches. -/
def Selector.part? : Selector → Option Part
  | .attach part => some part
  | _ => none

/-- The parts that some calls attach, in their order. -/
def attached (selectors : List Selector) : List Part := selectors.filterMap Selector.part?

variable {d : Draft} {m : Method} {url : String} {members : SortedMap Json} {q : Request}

theorem selectAll_snoc (d : Draft) (selectors : List Selector) (s : Selector) :
    d.selectAll (selectors ++ [s]) = (d.selectAll selectors).select s := by
  simp [selectAll]

theorem bodiless_select (hb : d.options.Bodiless) (s : Selector) :
    (d.select s).options.Bodiless := by
  cases s with
  | asJson | asForm | withBody _ _ => exact bodiless_contentType hb _
  | asMultipart | attach _ => exact hb

theorem bodiless_selectAll (hb : d.options.Bodiless) (selectors : List Selector) :
    (d.selectAll selectors).options.Bodiless := by
  induction selectors generalizing d with
  | nil => exact hb
  | cons s selectors ih => exact ih (bodiless_select hb s)

theorem stagedParts_select (d : Draft) (s : Selector) :
    (d.select s).stagedParts = d.stagedParts ++ s.part?.toList := by
  cases s <;> simp [select, Selector.part?, asJson, asForm, asMultipart, attach, withBody,
    contentType, withHeader]

/-- No call forgets a part. -/
theorem stagedParts_selectAll (d : Draft) (selectors : List Selector) :
    (d.selectAll selectors).stagedParts = d.stagedParts ++ attached selectors := by
  induction selectors generalizing d with
  | nil => exact (List.append_nil _).symm
  | cons s selectors ih =>
    have hstep : (d.selectAll (s :: selectors)).stagedParts =
        (d.select s).stagedParts ++ attached selectors := ih _
    rw [hstep, stagedParts_select, List.append_assoc]
    cases s <;> rfl

/-! ## What is chosen in the end -/

/-- What a request with data is by the last of the calls before it. The client gives requests the
label `own?`, and the parts `parts` were attached. -/
def Follows (members : SortedMap Json) (own? : Option String) (parts : List Part) (q : Request) :
    Option Selector → Prop
  | none =>
    q.body = (Json.ofMap members).bytes ∧ q.LabelledAs (own?.getD "application/json") ∧
      q.options.multipart = [] ∧ q.options.body = none
  | some .asJson =>
    q.body = (Json.ofMap members).bytes ∧ q.LabelledAs "application/json" ∧
      q.options.multipart = [] ∧ q.options.body = none
  | some .asForm =>
    q.body = Utf8.encode (String.ofList (Form.write (Form.fields members))) ∧
      q.LabelledAs "application/x-www-form-urlencoded" ∧ q.options.multipart = [] ∧
        q.options.body = none
  | some .asMultipart | some (.attach _) =>
    q.options.multipart = partsOf members ++ parts ∧ q.options.body = none ∧
      (partsOf members ++ parts = [] → q.body = []) ∧
      (partsOf members ++ parts ≠ [] → ∃ n,
        q.body = Multipart.body (Multipart.boundary n) (partsOf members ++ parts) ∧
        q.LabelledAs ("multipart/form-data; boundary=" ++ Multipart.boundary n))
  | some (.withBody body type) => q.body = body ∧ q.LabelledAs type ∧ q.options.multipart = []

theorem follows_json (hq : d.Builds m url (.ofMap members) q) (hb : d.options.Bodiless)
    (hm : m.sendsDataAsQuery = false) (hformat : d.format = .json) {type : String}
    (hlabel : d.options.label? = some type) :
    q.body = (Json.ofMap members).bytes ∧ q.LabelledAs type ∧ q.options.multipart = [] ∧
      q.options.body = none := by
  obtain ⟨hbody, hlabelled, hstaged⟩ := hq.json hb hm hformat
  rw [hlabel] at hlabelled
  exact ⟨hbody, Request.labelledAs_of_values hlabelled, hstaged⟩

theorem follows_form (hq : d.asForm.Builds m url (.ofMap members) q) (hb : d.options.Bodiless)
    (hm : m.sendsDataAsQuery = false) (own? : Option String) (parts : List Part) :
    Follows members own? parts q (some .asForm) := by
  have hlabel : d.asForm.options.label? = some MediaType.form.name := label?_contentType _ _
  obtain ⟨hbody, hlabelled, hstaged⟩ := hq.form (bodiless_contentType hb _) hm rfl
  rw [hlabel] at hlabelled
  exact ⟨hbody, Request.labelledAs_of_values hlabelled, hstaged⟩

theorem follows_parts (hq : d.Builds m url (.ofMap members) q) (hb : d.options.Bodiless)
    (hm : m.sendsDataAsQuery = false) (hformat : d.format = .multipart) (own? : Option String) :
    Follows members own? d.stagedParts q (some .asMultipart) := by
  obtain ⟨hparts, hstaged, hempty, hsent⟩ := hq.multipart hb hm hformat
  refine ⟨hparts, hstaged, hempty, fun hne => ?_⟩
  obtain ⟨n, hbody, hlabelled⟩ := hsent hne
  exact ⟨n, hbody, Request.labelledAs_of_values hlabelled⟩

theorem follows_body {body : Bytes} {type : String}
    (hq : (d.withBody body type).Builds m url (.ofMap members) q) (hb : d.options.Bodiless)
    (hm : m.sendsDataAsQuery = false) (own? : Option String) (parts : List Part) :
    Follows members own? parts q (some (.withBody body type)) := by
  have hlabel : (d.withBody body type).options.label? = some type := label?_contentType _ _
  obtain ⟨hbody, hlabelled, hstaged⟩ := hq.raw (bodiless_contentType hb _) hm rfl
  rw [hlabel] at hlabelled
  exact ⟨hbody, Request.labelledAs_of_values hlabelled, hstaged⟩

/-- However the body format of a new draft was chosen, the last call decides what data is sent as,
and the request is labelled to match. -/
theorem selectAll_sends {c : Client} (hb : c.options.Bodiless) (hm : m.sendsDataAsQuery = false)
    (selectors : List Selector) (url : String) (members : SortedMap Json) :
    (c.request.1.selectAll selectors).Sends m url (.ofMap members) fun q =>
      Follows members c.options.label? (attached selectors) q selectors.getLast? := by
  refine sends_of_builds fun q hq => ?_
  have hnew : c.request.1.options.Bodiless := bodiless_request hb
  rcases List.eq_nil_or_concat selectors with rfl | ⟨front, s, rfl⟩
  · refine follows_json (d := c.request.1) hq hnew hm rfl ?_
    rw [label?_request]
    cases c.options.label? <;> rfl
  rw [List.concat_eq_append] at hq ⊢
  have hfront : (c.request.1.selectAll front).options.Bodiless := bodiless_selectAll hnew front
  have hparts : (c.request.1.selectAll (front ++ [s])).stagedParts = attached (front ++ [s]) :=
    stagedParts_selectAll c.request.1 (front ++ [s])
  rw [List.getLast?_concat]
  rw [selectAll_snoc] at hq hparts
  cases s with
  | asJson => exact follows_json hq (bodiless_contentType hfront _) hm rfl (label?_contentType _ _)
  | asForm => exact follows_form hq hfront hm c.options.label? _
  | asMultipart | attach part =>
    rw [← hparts]
    exact follows_parts hq hfront hm rfl c.options.label?
  | withBody body type => exact follows_body hq hfront hm c.options.label? _

/-- A body is staged, and two parts around a choice that looks at neither. -/
def wavering : List Selector :=
  [.withBody [0x68, 0x69] "text/plain", .attach (.ofText "first" "1"), .asForm,
    .attach (.ofText "second" "2")]

theorem selectAll_sends_wavering :
    (∃ q, (bare.request.1.selectAll wavering).Builds .post "http://a.test/" (.ofMap survey) q ∧
      Follows survey none [.ofText "first" "1", .ofText "second" "2"] q
        (some (.attach (.ofText "second" "2")))) ∧
    ∃ t out n r,
      ((bare.request.1.selectAll wavering).sendData .post "http://a.test/" (.ofMap survey)).1.Runs t
        out ∧
      ((bare.request.1.selectAll wavering).dispatch .post "http://a.test/"
        (optionsFor survey .multipart)).Made
        ((bare.request.1.selectAll wavering).dispatch .post "http://a.test/"
          (optionsFor survey .multipart)).options n r := by
  have hbuilds : ∃ q, (bare.request.1.selectAll wavering).Builds .post "http://a.test/"
      (.ofMap survey) q :=
    ⟨_, _, ⟨0, 0⟩, rfl, rfl⟩
  obtain ⟨q, hq⟩ := hbuilds
  have hsends :=
    selectAll_sends (c := bare) (m := .post) ⟨rfl, rfl, rfl, rfl⟩ rfl wavering
      "http://a.test/" survey
  obtain ⟨t, n, r, hruns, hmade, -⟩ :=
    hsends.exists_attempt (dataOptions_body _ rfl survey) (.initial .default true .unreachable)
  exact ⟨⟨q, hq, hsends.builds q hq⟩, t, _, n, r, hruns, hmade⟩

end Draft

end Courier
