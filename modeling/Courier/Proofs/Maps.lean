import Courier.SortedMap
import Mathlib.Data.List.Sort
/-
What is found in a sorted map after several pairs were put into it: under each
key the last value that was given under it (`Entries.last?`), else what the
map had (`SortedMap.get?_insertAll`). What is found under each key is all there
is to a map (`SortedMap.ext_get?`), so entries that are in order already are put
together again as they are (`Entries.ofList_of_sorted`), and maps that are put in
one after another can be put together first (`SortedMap.insertAll_insertAll`).
-/
namespace Courier

namespace Entries

variable {α β : Type} {key : String} {value : α} {entries : List (String × α)}

/-! ## Looking up -/

theorem get?_eq_none_of_forall (h : ∀ e ∈ entries, e.1 ≠ key) : get? key entries = none := by
  induction entries with
  | nil => rfl
  | cons e rest ih =>
    have hhead : key ≠ e.1 := Ne.symm (h e List.mem_cons_self)
    rw [get?, if_neg hhead, ih fun e' he' => h e' (List.mem_cons_of_mem e he')]

theorem mem_of_get? (h : get? key entries = some value) : (key, value) ∈ entries := by
  induction entries with
  | nil => simp [get?] at h
  | cons e rest ih =>
    obtain ⟨k, v⟩ := e
    by_cases hkey : key = k
    · subst hkey
      simp only [get?, if_true, Option.some.injEq] at h
      rw [h]
      exact List.mem_cons_self
    · rw [get?, if_neg hkey] at h
      exact List.mem_cons_of_mem _ (ih h)

theorem get?_of_mem (hs : Sorted entries) (h : (key, value) ∈ entries) :
    get? key entries = some value := by
  induction entries with
  | nil => simp at h
  | cons e rest ih =>
    obtain ⟨k, v⟩ := e
    obtain ⟨hfirst, hrest⟩ := List.pairwise_cons.mp hs
    rcases List.mem_cons.mp h with h | h
    · obtain ⟨rfl, rfl⟩ := Prod.mk.inj h
      simp [get?]
    · have hne : key ≠ k := fun heq => String.lt_irrefl k (heq ▸ hfirst _ h)
      rw [get?, if_neg hne, ih hrest h]

/-- Entries in order are determined by what is found under each key. -/
theorem ext_get? {entries entries' : List (String × α)} (hs : Sorted entries)
    (hs' : Sorted entries') (h : ∀ key, get? key entries = get? key entries') :
    entries = entries' := by
  have : Std.Irrefl fun e e' : String × α => e.1 < e'.1 := ⟨fun e => String.lt_irrefl e.1⟩
  have : Std.Antisymm fun e e' : String × α => e.1 < e'.1 :=
    ⟨fun e _ hlt hgt => absurd (String.lt_trans hlt hgt) (String.lt_irrefl e.1)⟩
  refine List.Pairwise.eq_of_mem_iff hs hs' fun e => ?_
  constructor
  · exact fun he => mem_of_get? ((h e.1).symm.trans (get?_of_mem hs he))
  · exact fun he => mem_of_get? ((h e.1).trans (get?_of_mem hs' he))

/-! ## Putting pairs in -/

/-- The last value that is given under a key. -/
def last? (key : String) (pairs : List (String × α)) : Option α :=
  (pairs.filter (·.1 == key)).getLast?.map (·.2)

theorem last?_cons (key : String) (pair : String × α) (pairs : List (String × α)) :
    last? key (pair :: pairs) =
      (last? key pairs).or (if key = pair.1 then some pair.2 else none) := by
  unfold last?
  by_cases hkey : key = pair.1
  · rw [List.filter_cons_of_pos (by simp [hkey]), List.getLast?_cons, if_pos hkey]
    cases (pairs.filter (·.1 == key)).getLast? <;> rfl
  · rw [List.filter_cons_of_neg (by simp [Ne.symm hkey]), if_neg hkey, Option.or_none]

theorem last?_append (key : String) (pairs pairs' : List (String × α)) :
    last? key (pairs ++ pairs') = (last? key pairs').or (last? key pairs) := by
  induction pairs with
  | nil =>
    rw [List.nil_append, last?, last?, List.filter_nil, List.getLast?_nil, Option.map_none,
      Option.or_none]
  | cons pair pairs ih => rw [List.cons_append, last?_cons, last?_cons, ih, Option.or_assoc]

theorem last?_map (key : String) (f : α → β) (pairs : List (String × α)) :
    last? key (pairs.map fun pair => (pair.1, f pair.2)) = (last? key pairs).map f := by
  induction pairs with
  | nil => rfl
  | cons pair pairs ih =>
    rw [List.map_cons, last?_cons, last?_cons, ih]
    cases last? key pairs with
    | some v => rfl
    | none => split <;> rfl

theorem mem_of_last? {pairs : List (String × α)} (h : last? key pairs = some value) :
    (key, value) ∈ pairs := by
  induction pairs with
  | nil => cases h
  | cons pair pairs ih =>
    rw [last?_cons, Option.or_eq_some_iff] at h
    obtain h | ⟨-, h⟩ := h
    · exact List.mem_cons_of_mem pair (ih h)
    · split at h
      · next hkey =>
        cases h
        exact hkey ▸ List.mem_cons_self
      · cases h

/-- The pairs of a name that comes once are a single one. -/
theorem filter_eq_singleton {pairs : List (String × α)} (hnodup : (pairs.map Prod.fst).Nodup)
    {pair : String × α} (hmem : pair ∈ pairs) : pairs.filter (·.1 == pair.1) = [pair] := by
  induction pairs with
  | nil => cases hmem
  | cons first rest ih =>
    rw [List.map_cons, List.nodup_cons] at hnodup
    cases hmem with
    | head =>
      have hrest : rest.filter (·.1 == pair.1) = [] := by
        refine List.filter_eq_nil_iff.mpr fun other hother heq => hnodup.1 ?_
        exact List.mem_map.mpr ⟨other, hother, by simpa using heq⟩
      rw [List.filter_cons_of_pos (by simp), hrest]
    | tail _ hmem =>
      have hne : (first.1 == pair.1) = false := by
        refine beq_eq_false_iff_ne.mpr fun heq => hnodup.1 ?_
        rw [heq]
        exact List.mem_map_of_mem hmem
      rw [List.filter_cons_of_neg (by simp [hne]), ih hnodup.2 hmem]

/-- In entries that are in order there is but one value under a key. -/
theorem last?_of_sorted (hs : Sorted entries) (key : String) :
    last? key entries = get? key entries := by
  induction entries with
  | nil => rfl
  | cons e rest ih =>
    obtain ⟨hfirst, hrest⟩ := List.pairwise_cons.mp hs
    rw [last?_cons, ih hrest, get?]
    by_cases hkey : key = e.1
    · have hnone : get? key rest = none :=
        get?_eq_none_of_forall fun e' he' heq =>
          String.lt_irrefl e.1 (by simpa [heq, hkey] using hfirst e' he')
      simp [hkey ▸ hnone, hkey]
    · simp [hkey]

/-- After pairs were put in, the last of them under a key is what is found there. -/
theorem get?_foldl_insert (key : String) (pairs entries : List (String × α)) :
    get? key (pairs.foldl (fun entries pair => insert pair.1 pair.2 entries) entries) =
      (last? key pairs).or (get? key entries) := by
  induction pairs generalizing entries with
  | nil => rfl
  | cons pair pairs ih =>
    rw [List.foldl_cons, ih, last?_cons, Option.or_assoc]
    by_cases hkey : key = pair.1
    · rw [hkey, get?_insert_self, if_pos rfl]
      rfl
    · rw [get?_insert_other hkey, if_neg hkey]
      rfl

/-- Entries in order are put together again as they are. -/
theorem ofList_of_sorted (hs : Sorted entries) : ofList entries = entries := by
  refine ext_get? (sorted_ofList entries) hs fun key => ?_
  rw [ofList, get?_foldl_insert, last?_of_sorted hs]
  exact Option.or_none

end Entries

namespace SortedMap

variable {α : Type}

theorem ext_get? {a b : SortedMap α} (h : ∀ key, a.get? key = b.get? key) : a = b :=
  ext (Entries.ext_get? a.sorted b.sorted h)

theorem mem_entries {m : SortedMap α} {key : String} {value : α} :
    (key, value) ∈ m.entries ↔ m.get? key = some value :=
  ⟨Entries.get?_of_mem m.sorted, Entries.mem_of_get?⟩

theorem entries_insertAll (m : SortedMap α) (pairs : List (String × α)) :
    (m.insertAll pairs).entries =
    pairs.foldl (fun entries pair => Entries.insert pair.1 pair.2 entries) m.entries := by
  unfold insertAll
  induction pairs generalizing m with
  | nil => rfl
  | cons pair pairs ih =>
    rw [List.foldl_cons, List.foldl_cons, ih]
    rfl

theorem entries_ofList (pairs : List (String × α)) :
    (ofList pairs).entries = Entries.ofList pairs :=
  entries_insertAll empty pairs

/-- A map is put together again from its entries. -/
theorem ofList_entries (m : SortedMap α) : ofList m.entries = m :=
  ext ((entries_ofList m.entries).trans (Entries.ofList_of_sorted m.sorted))

theorem get?_insertAll (m : SortedMap α) (pairs : List (String × α)) (key : String) :
    (m.insertAll pairs).get? key = (Entries.last? key pairs).or (m.get? key) := by
  rw [get?, entries_insertAll, Entries.get?_foldl_insert]
  rfl

theorem get?_ofList (pairs : List (String × α)) (key : String) :
    (ofList pairs).get? key = Entries.last? key pairs :=
  (get?_insertAll empty pairs key).trans Option.or_none

theorem last?_entries (m : SortedMap α) (key : String) : Entries.last? key m.entries = m.get? key :=
  Entries.last?_of_sorted m.sorted key

/-- Entries that are inserted one map after another can be put together first. -/
theorem insertAll_insertAll (a b c : SortedMap α) :
    (a.insertAll b.entries).insertAll c.entries = a.insertAll (b.insertAll c.entries).entries := by
  refine ext_get? fun key => ?_
  calc ((a.insertAll b.entries).insertAll c.entries).get? key
    _ = (c.get? key).or ((b.get? key).or (a.get? key)) := by
      rw [get?_insertAll, get?_insertAll, last?_entries, last?_entries]
    _ = ((b.insertAll c.entries).get? key).or (a.get? key) := by
      rw [get?_insertAll, last?_entries, Option.or_assoc]
    _ = (a.insertAll (b.insertAll c.entries).entries).get? key := by
      rw [get?_insertAll a, last?_entries]

end SortedMap

end Courier
