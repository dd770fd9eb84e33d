import Courier.Proofs.Carrying
/-
Labels that nobody set. Options without a label get the one of their body
(`Request.build_describes`): parts always, form fields and JSON unless something
else is said. A draft says something else from the start, for each choice of a
format sets a label (`Draft.label?_setAll`), JSON to begin with; and what it says
counts whatever the body comes from. So the label describes the body if that is
made of parts, or is of the format that was chosen last, and else it does not
(`Draft.send_labels`).
-/
namespace Courier

namespace Request

variable {url : String} {m : Method} {o : Options} {q : Request} {n : Multipart.Stamp}

/-! ## What a body is -/

/-- `q.Holds boundary type`: the body is a value of the options, encoded as the media type says: the
parts if there are any, else the form fields, else the JSON value. Any other body is bytes that may
be of any type. -/
inductive Holds (q : Request) (boundary : String) : String → Prop
  | parts : q.options.multipart ≠ [] → q.body = Multipart.body boundary q.options.multipart →
      Holds q boundary (Multipart.mediaType boundary)
  | form {fields} : q.options.multipart = [] → q.options.formParams = some fields →
      q.body = Utf8.encode (String.ofList (Form.write (Form.fields fields))) →
        Holds q boundary MediaType.form.name
  | json {value} :
      q.options.multipart = [] → q.options.formParams = none → q.options.json = some value →
      q.body = value.bytes → Holds q boundary MediaType.json.name

/-- A body that does not come from bytes is of one type. -/
theorem build_holds (h : build (Multipart.boundary n) m url o = .ok q)
    (hsource : o.multipart ≠ [] ∨ o.formParams.isSome ∨ o.json.isSome) :
    ∃ type, q.Holds (Multipart.boundary n) type := by
  obtain ⟨-, -, -, -, -, -, -, rfl⟩ := build_ok h
  by_cases hparts : q.options.multipart = []
  · cases hform : q.options.formParams with
    | some fields => exact ⟨_, .form hparts hform (build_form h hparts hform).1⟩
    | none =>
      have hjson : q.options.json.isSome := by simpa [hparts, hform] using hsource
      obtain ⟨value, hvalue⟩ := Option.isSome_iff_exists.mp hjson
      exact ⟨_, .json hparts hform hvalue (build_json h hparts hform hvalue).1⟩
  · exact ⟨_, .parts hparts (build_parts h hparts).1⟩

/-! ## The label of a body -/

theorem Holds.isPrintable {type : String} (h : q.Holds (Multipart.boundary n) type) :
    type.toList.all Ascii.isPrintable = true := by
  cases h with
  | parts => exact Multipart.isPrintable_mediaType n
  | form => decide
  | json => decide

/-- Options without a label get the one of their body. -/
theorem build_describes (h : build (Multipart.boundary n) m url o = .ok q)
    (hlabel : o.label? = none) {type : String} (hholds : q.Holds (Multipart.boundary n) type) :
    q.header? "content-type" = some type := by
  refine header?_label ?_ hholds.isPrintable
  obtain ⟨-, -, -, -, -, -, -, rfl⟩ := build_ok h
  cases hholds with
  | parts hparts => exact (build_parts h hparts).2
  | form hparts hform => simpa only [hlabel, Option.getD] using (build_form h hparts hform).2
  | json hparts hform hjson =>
    simpa only [hlabel, Option.getD] using (build_json h hparts hform hjson).2

/-- With a label of the options, parts have their own all the same, and every other body has that
one. -/
theorem build_labelled (h : build (Multipart.boundary n) m url o = .ok q) {label : String}
    (hlabel : o.label? = some label) (hprintable : label.toList.all Ascii.isPrintable = true) :
    q.header? "content-type" =
      some (if o.multipart = [] then label else Multipart.mediaType (Multipart.boundary n)) := by
  split
  · next hparts =>
    refine header?_label ?_ hprintable
    cases hform : o.formParams with
    | some fields => simpa only [hlabel, Option.getD] using (build_form h hparts hform).2
    | none =>
      cases hjson : o.json with
      | some value => simpa only [hlabel, Option.getD] using (build_json h hparts hform hjson).2
      | none => simpa only [hlabel, Option.map] using (build_raw h hparts hform hjson).2
  · next hparts => exact header?_label (build_parts h hparts).2 (Multipart.isPrintable_mediaType n)

end Request

namespace Draft

variable {d : Draft} {m : Method} {url : String} {o : Options}

/-! ## Drafts whose label is not set -/

/-- What may be done to a draft while its label is not set: a format is chosen, options without a
label are merged in, a header of another name is set, or the label is left alone, as it is when
parts are attached or a request is sent. -/
inductive Setting
  | json
  | form
  | options (o : Options) (unlabelled : o.label? = none)
  | header (name value : String) (other : Ascii.lower name ≠ "content-type")
  | other (change : Draft → Draft) (keeps : ∀ d, (change d).options.label? = d.options.label?)

/-- The media type of a format that is chosen. -/
def Setting.chosen? : Setting → Option MediaType
  | json => some .json
  | form => some .form
  | _ => none

/-- The draft after a setting. -/
def set (d : Draft) : Setting → Draft
  | .json => d.asJson
  | .form => d.asForm
  | .options o _ => d.withOptions o
  | .header name value _ => d.withHeader name value
  | .other change _ => change d

/-- The draft after several settings. -/
def setAll (d : Draft) (settings : List Setting) : Draft := settings.foldl set d

/-- The media type of the format that was chosen last; it is JSON to begin with. -/
def chosen (settings : List Setting) : MediaType :=
  (settings.filterMap Setting.chosen?).getLast?.getD .json

theorem label?_set (d : Draft) (setting : Setting) : (d.set setting).options.label? =
    (setting.chosen?.map MediaType.name).or d.options.label? := by
  cases setting with
  | json => exact label?_contentType _ _
  | form => exact label?_contentType _ _
  | options o unlabelled =>
    refine (Options.label?_merge d.options o).trans ?_
    rw [unlabelled]
    rfl
  | header name value other =>
    refine (Options.spelt?_putHeader d.options.headers name value "content-type").trans ?_
    rw [if_neg (Ne.symm other)]
    rfl
  | other change keeps => exact keeps d

/-- The label of a draft is that of the format that was chosen last, else what it was. -/
theorem label?_setAll (d : Draft) (settings : List Setting) : (d.setAll settings).options.label? =
    ((settings.filterMap Setting.chosen?).getLast?.map MediaType.name).or d.options.label? := by
  unfold setAll
  induction settings generalizing d with
  | nil => rfl
  | cons setting settings ih =>
    rw [List.foldl_cons, ih, label?_set]
    cases hchosen : setting.chosen? with
    | none => rw [List.filterMap_cons_none hchosen]; rfl
    | some type =>
      rw [List.filterMap_cons_some hchosen, List.getLast?_cons]
      cases (settings.filterMap Setting.chosen?).getLast? <;> rfl

theorem label?_setAll_request {c : Client} (hc : c.options.label? = none)
    (settings : List Setting) :
    (c.request.1.setAll settings).options.label? = some (chosen settings).name := by
  rw [label?_setAll, label?_request, hc, chosen]
  cases (settings.filterMap Setting.chosen?).getLast? <;> rfl

/-! ## What is sent -/

/-- The label of what is sent is that of the draft, if the options of the call have none. -/
theorem label?_dispatch (ho : o.label? = none) :
    (d.dispatch m url o).options.label? = d.options.label? := by
  have hmerged : (d.options.merge o).label? = d.options.label? := by
    rw [Options.label?_merge, ho]
    rfl
  rw [← hmerged, dispatch, withStaged]
  cases d.format <;> rfl

/-- The retry test leaves the label alone. -/
def KeepsLabel (d : Draft) : Prop :=
  ∀ test, d.retry.test? = some test → ∀ f o, (test f o).2.label? = o.label?

theorem label?_optionsAfter (hkeeps : d.KeepsLabel) (rounds : List Round) (i : Nat) :
    ((d.dispatch m url o).optionsAfter (d.dispatch m url o).options rounds i).label? =
      (d.dispatch m url o).options.label? :=
  Dispatch.optionsAfter_keeps (P := fun o' => o'.label? = (d.dispatch m url o).options.label?)
    (fun test htest f o' ho' => (hkeeps test htest f o').trans ho') rfl rounds i

theorem isPrintable_chosen (settings : List Setting) :
    (chosen settings).name.toList.all Ascii.isPrintable = true := by
  cases chosen settings <;> decide

/-- Each attempt to send a request of a draft whose label was not set is made from options of which
this holds: parts get their own label, and every other body that of the format chosen last, whatever
it comes from. So a body that does not come from bytes is described exactly if it is made of parts
or of that format; and without the draft it is in any case. -/
theorem send_labels {c : Client} {settings : List Setting} (hc : c.options.label? = none)
    (ho : o.label? = none) (hkeeps : (c.request.1.setAll settings).KeepsLabel) {t : Trace}
    {out : Outcome}
    (hruns : ((c.request.1.setAll settings).send m url o).1.Runs t out) (hlife : Act.Lifelike t) :
    let d := (c.request.1.setAll settings).dispatch m url o
    (∃ rounds, t = d.woven rounds (d.pauses d.mode 1 rounds) ∧ rounds ≠ [] ∧
      ∀ r ∈ rounds, ∃ n o', d.Made o' n r ∧
      ∀ q, Request.build (Multipart.boundary n) d.method d.url o' = .ok q →
        q.header? "content-type" = some (if q.options.multipart = [] then (chosen settings).name
          else Multipart.mediaType (Multipart.boundary n)) ∧
        ((q.options.multipart ≠ [] ∨ q.options.formParams.isSome ∨ q.options.json.isSome) →
          ∃ type, q.Holds (Multipart.boundary n) type) ∧
        ∀ type, q.Holds (Multipart.boundary n) type → (q.header? "content-type" = some type ↔
          q.options.multipart ≠ [] ∨ type = (chosen settings).name)) ∧
    ∀ n m' url' o' q, o'.label? = none → Request.build (Multipart.boundary n) m' url' o' = .ok q →
      ∀ type, q.Holds (Multipart.boundary n) type → q.header? "content-type" = some type := by
  intro d
  refine ⟨?_, fun n m' url' o' q ho' hbuild type hholds => Request.build_describes
    hbuild ho' hholds⟩
  obtain ⟨rounds, ht, hne, hmade⟩ := Dispatch.run_made hruns hlife
  refine ⟨rounds, ht, hne, fun r hr => ?_⟩
  obtain ⟨i, hi, hget⟩ := List.getElem_of_mem hr
  obtain ⟨n, hn⟩ := hmade i r (List.getElem?_eq_some_iff.mpr ⟨hi, hget⟩)
  refine ⟨n, _, hn, fun q hbuild => ?_⟩
  have hlabel : (d.optionsAfter d.options rounds i).label? = some (chosen settings).name := by
    rw [label?_optionsAfter hkeeps, label?_dispatch ho, label?_setAll_request hc]
  have hheader := Request.build_labelled hbuild hlabel (isPrintable_chosen settings)
  obtain ⟨-, -, -, -, -, -, -, hoptions⟩ := Request.build_ok hbuild
  rw [← hoptions] at hheader
  refine ⟨hheader, hoptions ▸ Request.build_holds hbuild, fun type hholds => ?_⟩
  rw [hheader, Option.some.injEq]
  cases hholds with
  | parts hparts => simp [hparts]
  | form hparts => simp [hparts, eq_comm]
  | json hparts => simp [hparts, eq_comm]

/-- One form field. -/
def field : SortedMap Json := ⟨[("a", .string "1")], by decide⟩

/-- A form of a draft that was set to send forms, and parts of one that was set to send JSON after
that. -/
theorem send_labels_chosen :
    let o : Options := { Options.empty with formParams := some field }
    bare.options.label? = none ∧ o.label? = none ∧ (bare.request.1.setAll [.form]).KeepsLabel ∧
      (∃ t out rounds, ((bare.request.1.setAll [.form]).send .post "http://a.test/" o).1.Runs t
        out ∧ rounds ≠ [] ∧
        ∀ r ∈ rounds, ∃ n o', ((bare.request.1.setAll [.form]).dispatch .post "http://a.test/"
          o).Made o' n r) ∧
      ∃ q, Request.build (Multipart.boundary ⟨0, 0⟩) .post "http://a.test/" o = .ok q ∧
        q.header? "content-type" = some "application/x-www-form-urlencoded" := by
  intro o
  have hbare : bare.options.label? = none := by decide
  have ho : o.label? = none := by decide
  have hkeeps : (bare.request.1.setAll [.form]).KeepsLabel := fun test htest => nomatch htest
  obtain ⟨t, hruns, hlife⟩ := Act.exists_runs (.initial .default true .unreachable)
    ((bare.request.1.setAll [.form]).send .post "http://a.test/" o).1
  obtain ⟨⟨rounds, -, hne, hmade⟩, hbuilt⟩ := send_labels hbare ho hkeeps hruns hlife
  refine ⟨hbare, ho, hkeeps, ⟨t, _, rounds, hruns, hne, fun r hr => ?_⟩, ?_⟩
  · obtain ⟨n, o', hn, -⟩ := hmade r hr
    exact ⟨n, o', hn⟩
  · obtain ⟨q, hbuild⟩ : ∃ q, Request.build (Multipart.boundary ⟨0, 0⟩) .post "http://a.test/" o =
      .ok q := ⟨_, rfl⟩
    obtain ⟨-, -, -, -, -, -, -, hoptions⟩ := Request.build_ok hbuild
    have hparts : o.multipart = [] := rfl
    have hform : o.formParams = some field := rfl
    have hholds : q.Holds (Multipart.boundary ⟨0, 0⟩) MediaType.form.name :=
      .form (hoptions ▸ hparts) (hoptions ▸ hform) (Request.build_form hbuild hparts hform).1
    exact ⟨q, hbuild, hbuilt ⟨0, 0⟩ .post "http://a.test/" o q ho hbuild _ hholds⟩

/-- A form that a new draft sends is labelled as JSON. -/
theorem not_send_describes :
    ¬ ∀ (c : Client) (settings : List Setting) (m : Method) (url : String) (o : Options)
    (n : Multipart.Stamp) (q : Request) (type : String), c.options.label? = none → o.label? = none →
      Request.build (Multipart.boundary n) m ((c.request.1.setAll settings).dispatch m url o).url
        ((c.request.1.setAll settings).dispatch m url o).options = .ok q →
      q.Holds (Multipart.boundary n) type → q.header? "content-type" = some type := by
  intro h
  have hform :=
    h bare [] .post "http://a.test/" { Options.empty with formParams := some field } ⟨0, 0⟩ _ _
      (by decide) (by decide) rfl (.form rfl rfl rfl)
  exact absurd hform (by decide +kernel)

end Draft

end Courier
