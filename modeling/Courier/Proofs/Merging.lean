import Courier.Client
import Courier.Proofs.Spellings
/-
Merging several option sets in a row. What is replaced as a whole is that of
the last set to have it, parts are appended, maps and headers are united key by
key: how the sets are bracketed does not matter there. For JSON values it does
where a value of another kind stands between two objects or two arrays, for it
parts what would have been united. Where nothing stands between
(`Json.Clear`), merging is associative (`Json.merge_assoc`), key by key down
the objects. Their members are in key order, as those of every document, and
merging keeps them so (`Json.Ordered.merge`).

A draft starts with neither a JSON value nor form fields, so options that are
registered with the client and options that are given to the draft itself come
to the same (`Client.options_request`).
-/
namespace Courier

namespace Options

/-- Unions that can be bracketed either way can be so too where some of the values are missing. -/
theorem united_assoc {α : Type} {union : α → α → α} {a b c : Option α}
    (h : ∀ x ∈ a, ∀ y ∈ b, ∀ z ∈ c, union (union x y) z = union x (union y z)) :
    united union (united union a b) c = united union a (united union b c) := by
  cases a with
  | none => cases b <;> cases c <;> rfl
  | some x =>
    cases b with
    | none => cases c <;> rfl
    | some y =>
      cases c with
      | none => rfl
      | some z => exact congrArg some (h x rfl y rfl z rfl)

theorem united_none {α : Type} (union : α → α → α) (a : Option α) : united union a none = a := by
  cases a <;> rfl

theorem forall_united {α : Type} {union : α → α → α} {a b : Option α} {P : α → Prop}
    (ha : ∀ x ∈ a, P x) (hb : ∀ y ∈ b, P y) (hunion : ∀ x ∈ a, ∀ y ∈ b, P (union x y)) :
    ∀ v ∈ united union a b, P v := by
  cases a with
  | none => cases b <;> exact hb
  | some x =>
    cases b with
    | none => exact ha
    | some y =>
      rintro v ⟨⟩
      exact hunion x rfl y rfl

end Options

namespace Json

variable {a b c x y z : Json} {key : String} {entries members : List (String × Json)}

/-! ## Values that are united -/

/-- The kinds of values that hold others. -/
inductive Container
  | object
  | array

/-- What holds the values inside, if this is an object or an array. -/
def container? : Json → Option Container
  | .object _ => some .object
  | .array _ => some .array
  | _ => none

/-- Both are objects or both are arrays: merging unites them, while all else is replaced. -/
def Alike (a b : Json) : Prop := ∃ kind, a.container? = some kind ∧ b.container? = some kind

theorem alike_iff : a.Alike b ↔
    (∃ entries members, a = .object entries ∧ b = .object members) ∨
      ∃ items more, a = .array items ∧ b = .array more := by
  cases a <;> cases b <;> simp [Alike, container?]

theorem Alike.trans (hab : a.Alike b) (hbc : b.Alike c) : a.Alike c := by
  obtain ⟨kind, ha, hb⟩ := hab
  obtain ⟨kind', hb', hc⟩ := hbc
  exact ⟨kind, ha, hc.trans (hb'.symm.trans hb)⟩

theorem container?_merge (a b : Json) : (merge a b).container? = b.container? := by
  cases a <;> cases b <;> rfl

theorem merge_of_not_alike (h : ¬ a.Alike b) : merge a b = b := by
  cases a <;> cases b <;> first | rfl | exact absurd ⟨_, rfl, rfl⟩ h

/-! ## Values at paths -/

/-- The value that a path of keys leads to. -/
def reach? (path : List String) (v : Json) : Option Json := path.foldlM (fun v key => v.get? key) v

/-- Nowhere do values of `a` and `c` that would be united have one of `b` between them that parts
them. -/
def Clear (a b c : Json) : Prop :=
  ∀ path x y z, a.reach? path = some x → b.reach? path = some y → c.reach? path = some z →
    x.Alike z → x.Alike y

theorem Clear.root (h : Clear a b c) (hac : a.Alike c) : a.Alike b :=
  h [] a b c rfl rfl rfl hac

theorem reach?_cons {v : Json} {path : List String} (h : v.get? key = some x) :
    v.reach? (key :: path) = x.reach? path := by
  rw [reach?, List.foldlM_cons, h]
  rfl

theorem Clear.member (h : Clear a b c) (ha : a.get? key = some x) (hb : b.get? key = some y)
    (hc : c.get? key = some z) : Clear x y z := fun path x' y' z' hx hy hz =>
  h (key :: path) x' y' z' ((reach?_cons ha).trans hx) ((reach?_cons hb).trans hy)
    ((reach?_cons hc).trans hz)

theorem clear_of_members (hroot : a.Alike c → a.Alike b)
    (h : ∀ key x y z, a.get? key = some x → b.get? key = some y → c.get? key = some z →
      Clear x y z) :
    Clear a b c := by
  intro path x y z hx hy hz
  cases path with
  | nil =>
    cases hx
    cases hy
    cases hz
    exact hroot
  | cons key path =>
    obtain ⟨x', ha, hx⟩ := Option.bind_eq_some_iff.mp hx
    obtain ⟨y', hb, hy⟩ := Option.bind_eq_some_iff.mp hy
    obtain ⟨z', hc, hz⟩ := Option.bind_eq_some_iff.mp hz
    exact h key x' y' z' ha hb hc path x y z hx hy hz

/-! ## Members of merged objects -/

theorem sorted_mergeEntries (members : List (String × Json)) (hs : Entries.Sorted entries) :
    Entries.Sorted (mergeEntries members entries) := by
  induction members generalizing entries with
  | nil => exact hs
  | cons member members ih => exact ih (Entries.sorted_insert _ _ hs)

/-- Under each key the members of both are merged. -/
theorem get?_mergeEntries (hs : Entries.Sorted members) (entries : List (String × Json))
    (key : String) :
    Entries.get? key (mergeEntries members entries) =
      Options.united merge (Entries.get? key entries) (Entries.get? key members) := by
  induction members generalizing entries with
  | nil => exact (Options.united_none merge _).symm
  | cons member members ih =>
    obtain ⟨hfirst, hrest⟩ := List.pairwise_cons.mp hs
    rw [mergeEntries, ih hrest]
    by_cases hkey : key = member.1
    · have hnone : Entries.get? key members = none :=
        Entries.get?_eq_none_of_forall fun e he heq =>
          String.lt_irrefl key (by simpa [heq, ← hkey] using hfirst e he)
      rw [hnone, hkey, Entries.get?_insert_self, Options.united_none, Entries.get?, if_pos rfl]
      cases Entries.get? member.1 entries <;> rfl
    · rw [Entries.get?_insert_other hkey, Entries.get?, if_neg hkey]

/-- So what is found in values that are united is what is found in each of them, merged. -/
theorem get?_merge (h : a.Alike b) (hb : b.Ordered) (key : String) :
    (merge a b).get? key = Options.united merge (a.get? key) (b.get? key) := by
  obtain ⟨entries, members, rfl, rfl⟩ | ⟨items, more, rfl, rfl⟩ := alike_iff.mp h
  · exact get?_mergeEntries hb.1 entries key
  · rfl

theorem ordered_of_get? (h : OrderedEntries entries) (hkey : Entries.get? key entries = some x) :
    x.Ordered := by
  induction entries with
  | nil => cases hkey
  | cons entry entries ih =>
    rw [Entries.get?] at hkey
    split at hkey
    · cases hkey
      exact h.1
    · exact ih h.2 hkey

theorem sizeOf_lt_of_get? (hkey : Entries.get? key entries = some x) :
    sizeOf x < sizeOf (Json.object entries) := by
  have hmem := List.sizeOf_lt_of_mem (Entries.mem_of_get? hkey)
  rw [Prod.mk.sizeOf_spec] at hmem
  rw [Json.object.sizeOf_spec]
  omega

theorem orderedEntries_of_get? (hs : Entries.Sorted entries)
    (h : ∀ key x, Entries.get? key entries = some x → x.Ordered) : OrderedEntries entries := by
  have hmem : ∀ entry ∈ entries, entry.2.Ordered :=
    fun entry hentry => h _ _ (Entries.get?_of_mem hs hentry)
  clear hs h
  induction entries with
  | nil => trivial
  | cons entry entries ih =>
    rw [List.forall_mem_cons] at hmem
    exact ⟨hmem.1, ih hmem.2⟩

theorem orderedItems_append {items more : List Json} (h : OrderedItems items)
    (hmore : OrderedItems more) :
    OrderedItems (items ++ more) := by
  induction items with
  | nil => exact hmore
  | cons item items ih => exact ⟨h.1, ih h.2⟩

/-- Values in key order stay so when they are merged. -/
theorem Ordered.merge {a b : Json} (ha : a.Ordered) (hb : b.Ordered) : (merge a b).Ordered := by
  by_cases h : a.Alike b
  · obtain ⟨entries, members, rfl, rfl⟩ | ⟨items, more, rfl, rfl⟩ := alike_iff.mp h
    · have hs := sorted_mergeEntries members ha.1
      refine ⟨hs, orderedEntries_of_get? hs fun key v hv => ?_⟩
      rw [get?_mergeEntries hb.1] at hv
      refine Options.forall_united (fun x hx => ordered_of_get? ha.2 hx)
        (fun y hy => ordered_of_get? hb.2 hy) (fun x hx y hy => ?_) v hv
      have hsize := sizeOf_lt_of_get? hy
      exact Ordered.merge (ordered_of_get? ha.2 hx) (ordered_of_get? hb.2 hy)
    · exact orderedItems_append ha hb
  · rwa [merge_of_not_alike h]
termination_by sizeOf b

/-- Merging can be bracketed either way where nothing stands between what would be united. -/
theorem merge_assoc {a b c : Json} (ha : a.Ordered) (hb : b.Ordered) (hc : c.Ordered)
    (h : Clear a b c) :
    merge (merge a b) c = merge a (merge b c) := by
  by_cases hac : a.Alike c
  · have hab : a.Alike b := h.root hac
    obtain ⟨entries, members, rfl, rfl⟩ | ⟨items, more, rfl, rfl⟩ := alike_iff.mp hac
    · obtain ⟨_, between, -, rfl⟩ | ⟨_, _, harray, -⟩ := alike_iff.mp hab
      · refine congrArg Json.object
          (Entries.ext_get? (sorted_mergeEntries _ (sorted_mergeEntries _ ha.1))
            (sorted_mergeEntries _ ha.1) fun key => ?_)
        rw [get?_mergeEntries hc.1, get?_mergeEntries hb.1,
          get?_mergeEntries (sorted_mergeEntries _ hb.1), get?_mergeEntries hc.1]
        refine Options.united_assoc fun x hx y hy z hz => ?_
        have hsize := sizeOf_lt_of_get? hz
        exact merge_assoc (ordered_of_get? ha.2 hx) (ordered_of_get? hb.2 hy)
          (ordered_of_get? hc.2 hz) (h.member hx hy hz)
      · cases harray
    · obtain ⟨_, _, hobject, -⟩ | ⟨_, between, -, rfl⟩ := alike_iff.mp hab
      · cases hobject
      · exact congrArg Json.array (List.append_assoc items between more)
  · by_cases hbc : b.Alike c
    · have hab : ¬ a.Alike b := fun hab => hac (hab.trans hbc)
      have hright : ¬ a.Alike (merge b c) := by rwa [Alike, container?_merge]
      rw [merge_of_not_alike hab, merge_of_not_alike hright]
    · have hleft : ¬ (merge a b).Alike c := by rwa [Alike, container?_merge]
      rw [merge_of_not_alike hleft, merge_of_not_alike hbc, merge_of_not_alike hac]
termination_by sizeOf c

-- What stands between the two objects parts them.
example : merge (merge (.object [("kept", .null)]) .null) (.object []) = .object [] ∧
    merge (.object [("kept", .null)]) (merge .null (.object [])) = .object [("kept", .null)] :=
      ⟨rfl, rfl⟩

end Json

namespace Options

variable {a b c : Options}

/-! ## Merging options -/

/-- The objects in the JSON value and in the form fields are in key order. -/
structure Ordered (o : Options) : Prop where
  json : ∀ v ∈ o.json, v.Ordered
  formParams : ∀ form ∈ o.formParams, (Json.ofMap form).Ordered

/-- Nothing in the JSON value or the form fields of `b` parts what those of `a` and `c` would
unite. -/
structure Clear (a b c : Options) : Prop where
  json : ∀ x ∈ a.json, ∀ y ∈ b.json, ∀ z ∈ c.json, Json.Clear x y z
  formParams : ∀ x ∈ a.formParams, ∀ y ∈ b.formParams, ∀ z ∈ c.formParams,
    Json.Clear (.ofMap x) (.ofMap y) (.ofMap z)

theorem ofMap_mergeMaps (base overlay : SortedMap Json) :
    Json.ofMap (mergeMaps base overlay) = Json.merge (.ofMap base) (.ofMap overlay) := by
  refine congrArg Json.object ?_
  unfold mergeMaps
  generalize overlay.entries = members
  induction members generalizing base with
  | nil => rfl
  | cons member members ih => exact ih _

/-- Options in key order stay so when they are merged. -/
theorem Ordered.merge (ha : a.Ordered) (hb : b.Ordered) : (a.merge b).Ordered where
  json := forall_united ha.json hb.json fun x hx y hy => (ha.json x hx).merge (hb.json y hy)
  formParams := forall_united ha.formParams hb.formParams fun x hx y hy => by
    rw [ofMap_mergeMaps]
    exact (ha.formParams x hx).merge (hb.formParams y hy)

theorem mergeMaps_assoc {x y z : SortedMap Json} (hx : (Json.ofMap x).Ordered)
    (hy : (Json.ofMap y).Ordered) (hz : (Json.ofMap z).Ordered)
    (h : Json.Clear (.ofMap x) (.ofMap y) (.ofMap z)) :
    mergeMaps (mergeMaps x y) z = mergeMaps x (mergeMaps y z) := by
  have hmerged := Json.merge_assoc hx hy hz h
  rw [← ofMap_mergeMaps, ← ofMap_mergeMaps, ← ofMap_mergeMaps, ← ofMap_mergeMaps] at hmerged
  exact SortedMap.ext (Json.object.inj hmerged)

/-- Only the JSON value and the form fields can stand in the way of bracketing a merge otherwise. -/
theorem merge_merge (hjson : united Json.merge (united Json.merge a.json b.json) c.json =
      united Json.merge a.json (united Json.merge b.json c.json))
    (hform : united mergeMaps (united mergeMaps a.formParams b.formParams) c.formParams =
      united mergeMaps a.formParams (united mergeMaps b.formParams c.formParams)) :
    (a.merge b).merge c = a.merge (b.merge c) := by
  simp only [merge, mk.injEq]
  refine ⟨putHeaders_putHeaders a.headers b.headers c.headers,
    SortedMap.insertAll_insertAll a.query b.query c.query,
    SortedMap.insertAll_insertAll a.cookies b.cookies c.cookies, hjson, hform,
      List.append_assoc _ _ _, ?_⟩
  simp only [later, Option.or_assoc, and_self]

theorem merge_of_clear (ha : a.Ordered) (hb : b.Ordered) (hc : c.Ordered) (h : Clear a b c) :
    (a.merge b).merge c = a.merge (b.merge c) :=
  merge_merge
    (united_assoc fun x hx y hy z hz =>
      Json.merge_assoc (ha.json x hx) (hb.json y hy) (hc.json z hz) (h.json x hx y hy z hz))
    (united_assoc fun x hx y hy z hz =>
      mergeMaps_assoc (ha.formParams x hx) (hb.formParams y hy) (hc.formParams z hz)
        (h.formParams x hx y hy z hz))

theorem merge_empty (o : Options) : o.merge .empty = o := by
  cases o
  simp only [merge, mk.injEq]
  refine ⟨rfl, rfl, rfl, united_none _ _, united_none _ _, List.append_nil _, ?_⟩
  simp [later, empty]

/-- Options over none for JSON and form fields can be merged first among themselves. -/
theorem merge_foldl {o : Options} (hjson : o.json = none) (hform : o.formParams = none)
    (first : Options) (os : List Options) :
    o.merge (os.foldl merge first) = os.foldl merge (o.merge first) := by
  induction os generalizing first with
  | nil => rfl
  | cons next os ih =>
    have hstep : (o.merge first).merge next = o.merge (first.merge next) :=
      merge_merge (united_assoc (by simp [hjson])) (united_assoc (by simp [hform]))
    rw [List.foldl_cons, List.foldl_cons, ih, hstep]

end Options

namespace Client

theorem options_foldl (c : Client) (os : List Options) :
    (os.foldl globalOptions c).options = os.foldl Options.merge c.options :=
  (List.foldl_hom Client.options fun _ _ => rfl).symm

end Client

theorem Draft.options_foldl (d : Draft) (os : List Options) :
    (os.foldl withOptions d).options = os.foldl Options.merge d.options :=
  (List.foldl_hom Draft.options fun _ _ => rfl).symm

namespace Client

/-- Options count the same whether they are registered with the client or given to the draft. -/
theorem options_request (c : Client) (os : List Options) :
    (os.foldl globalOptions c).request.1.options =
      (os.foldl Draft.withOptions c.request.1).options := by
  calc (os.foldl globalOptions c).request.1.options
    _ = c.plainDraft.options.merge (os.foldl globalOptions c).options := rfl
    _ = c.plainDraft.options.merge (os.foldl Options.merge c.options) := by rw [options_foldl]
    _ = os.foldl Options.merge (c.plainDraft.options.merge c.options) :=
      Options.merge_foldl rfl rfl c.options os
    _ = (os.foldl Draft.withOptions c.request.1).options :=
      (Draft.options_foldl c.request.1 os).symm

end Client

namespace Options

/-- Merging can be bracketed either way where nothing stands between what would be united, and no
options at all change nothing; so a draft has the same options from its client as from merging them
itself. Merging is no mere choice of one side: of a header, in any spelling, the later value is
left, and values are united member by member or replaced. -/
theorem merge_bracketing :
    (∀ a b c : Options, a.Ordered → b.Ordered → c.Ordered → Clear a b c →
      (a.merge b).merge c = a.merge (b.merge c)) ∧
    (∀ a : Options, a.merge .empty = a) ∧
    (∀ a b c : Json, a.Ordered → b.Ordered → c.Ordered → Json.Clear a b c →
      Json.merge (Json.merge a b) c = Json.merge a (Json.merge b c)) ∧
    (∀ (c : Client) (os : List Options), (os.foldl Client.globalOptions c).request.1.options =
      (os.foldl Draft.withOptions c.request.1).options) ∧
    (∀ (a b : Options) (name : String), spelt? name (a.merge b).headers.entries =
      (spelt? name b.headers.entries).or (spelt? name a.headers.entries)) ∧
    ∀ a b : Json, (¬ a.Alike b → Json.merge a b = b) ∧
      (a.Alike b → b.Ordered → ∀ key, (Json.merge a b).get? key =
        united Json.merge (a.get? key) (b.get? key)) :=
  ⟨fun _ _ _ ha hb hc h => merge_of_clear ha hb hc h, merge_empty,
    fun _ _ _ ha hb hc h => Json.merge_assoc ha hb hc h, Client.options_request,
    fun a b => spelt?_putHeaders a.headers b.headers.entries,
    fun _ _ => ⟨Json.merge_of_not_alike, Json.get?_merge⟩⟩

theorem merge_bracketing_spellings :
    let a : Options := { empty with
      headers := .ofList [("X-Mode", "plain"), ("x-mode", "quick")]
      json := some (.object [("kept", .object [("x", .int 1)])]) }
    let b : Options := { empty with
      headers := .ofList [("X-MODE", "slow")]
      json := some (.object [("kept", .object [("y", .array [])])]) }
    let c : Options :=
      { empty with json := some (.object [("kept", .object [("y", .array [.null])])]) }
    (a.Ordered ∧ b.Ordered ∧ c.Ordered ∧ Clear a b c) ∧
      (a.merge b).merge c = a.merge (b.merge c) := by
  intro a b c
  have ha : a.Ordered :=
    ⟨by simp [a, Json.Ordered, Json.OrderedEntries, Entries.Sorted, Json.int], by simp [a, empty]⟩
  have hb : b.Ordered :=
    ⟨by simp [b, Json.Ordered, Json.OrderedEntries, Json.OrderedItems,
      Entries.Sorted], by simp [b, empty]⟩
  have hc : c.Ordered :=
    ⟨by simp [c, Json.Ordered, Json.OrderedEntries, Json.OrderedItems,
      Entries.Sorted], by simp [c, empty]⟩
  have hclear : Clear a b c := by
    refine ⟨?_, by simp [a, empty]⟩
    simp only [a, b, c, Option.mem_some_iff, forall_eq']
    refine Json.clear_of_members (fun _ => ⟨.object, rfl, rfl⟩) fun key x y z hx hy hz => ?_
    simp only [Json.get?, Entries.get?, Option.ite_none_right_eq_some,
      Option.some.injEq] at hx hy hz
    obtain ⟨-, rfl⟩ := hx
    obtain ⟨-, rfl⟩ := hy
    obtain ⟨-, rfl⟩ := hz
    refine Json.clear_of_members (fun _ => ⟨.object, rfl, rfl⟩) fun key x y z hx hy hz => ?_
    -- No key is in all three.
    simp only [Json.get?, Entries.get?, Option.ite_none_right_eq_some, Option.some.injEq] at hx hy
    exact absurd (hx.1.symm.trans hy.1) (by decide)
  exact ⟨⟨ha, hb, hc, hclear⟩, merge_bracketing.1 a b c ha hb hc hclear⟩

end Options

end Courier
