/-
Maps from text to values, kept as entries in strictly increasing key order.
The order is that of Unicode scalar values, which is also the order of the
UTF-8 bytes. `Entries` holds the operations on plain entry lists (the objects
of a JSON document are such lists); `SortedMap` bundles a list with the proof
that it is in order, so that equal maps are equal values.

* `Entries.get?_insert_self`, `Entries.get?_insert_other`: looking up after an
  insertion.
* `Entries.sorted_insert`, `Entries.sorted_ofList`: the order is kept.
-/
namespace Courier

/-! ## Entry lists -/

namespace Entries

variable {α β : Type}

/-- The keys are strictly increasing. -/
def Sorted (entries : List (String × α)) : Prop :=
  entries.Pairwise (fun a b => a.1 < b.1)

instance (entries : List (String × α)) : Decidable (Sorted entries) :=
  inferInstanceAs (Decidable (entries.Pairwise (fun a b => a.1 < b.1)))

/-- Puts a value under a key, in place of the value that stood there. -/
def insert (key : String) (value : α) : List (String × α) → List (String × α)
  | [] => [(key, value)]
  | (k, v) :: rest =>
    if key < k then (key, value) :: (k, v) :: rest
    else if key = k then (key, value) :: rest
    else (k, v) :: insert key value rest

/-- The value under a key. -/
def get? (key : String) : List (String × α) → Option α
  | [] => none
  | (k, v) :: rest => if key = k then some v else get? key rest

/-- The entries of a list of pairs; of several values under one key the last counts. -/
def ofList (pairs : List (String × α)) : List (String × α) :=
  pairs.foldl (fun entries pair => insert pair.1 pair.2 entries) []

theorem get?_insert_self (key : String) (value : α) (entries : List (String × α)) :
    get? key (insert key value entries) = some value := by
  induction entries with
  | nil => simp [insert, get?]
  | cons e rest ih =>
    simp only [insert]
    split
    · simp [get?]
    · split
      · simp [get?]
      · rename_i hlt hne
        simp [get?, hne, ih]

theorem get?_insert_other {key other : String} (h : other ≠ key) (value : α)
    (entries : List (String × α)) : get? other (insert key value entries) = get? other entries := by
  induction entries with
  | nil => simp [insert, get?, h]
  | cons e rest ih =>
    simp only [insert]
    split
    · simp [get?, h]
    · split
      · rename_i hlt heq
        subst heq
        simp [get?, h]
      · simp [get?, ih]

theorem mem_insert {key : String} {value : α} {entries : List (String × α)} {e : String × α}
    (h : e ∈ insert key value entries) : e = (key, value) ∨ e ∈ entries := by
  induction entries with
  | nil => simpa [insert] using h
  | cons x rest ih =>
    simp only [insert] at h
    split at h
    · simpa using h
    · split at h
      · rcases List.mem_cons.1 h with h | h
        · exact .inl h
        · exact .inr (List.mem_cons_of_mem _ h)
      · rcases List.mem_cons.1 h with h | h
        · exact .inr (h ▸ List.mem_cons_self)
        · exact (ih h).imp_right (List.mem_cons_of_mem _)

theorem sorted_insert (key : String) (value : α) {entries : List (String × α)}
    (h : Sorted entries) : Sorted (insert key value entries) := by
  induction entries with
  | nil => simp [insert, Sorted]
  | cons x rest ih =>
    obtain ⟨hx, hrest⟩ := List.pairwise_cons.1 h
    simp only [insert]
    split
    · rename_i hlt
      refine List.pairwise_cons.2 ⟨fun e he => ?_, h⟩
      rcases List.mem_cons.1 he with rfl | he
      · exact hlt
      · exact String.lt_trans hlt (hx e he)
    · split
      · rename_i heq
        exact List.pairwise_cons.2 ⟨fun e he => heq ▸ hx e he, hrest⟩
      · rename_i hlt hne
        refine List.pairwise_cons.2 ⟨fun e he => ?_, ih hrest⟩
        rcases mem_insert he with rfl | he
        · by_cases hk : x.1 < key
          · exact hk
          · exact absurd (String.le_antisymm (String.not_lt.1 hk) (String.not_lt.1 hlt)) hne
        · exact hx e he

theorem sorted_foldl_insert (pairs : List (String × α)) {entries : List (String × α)}
    (h : Sorted entries) :
    Sorted (pairs.foldl (fun entries pair => insert pair.1 pair.2 entries) entries) := by
  induction pairs generalizing entries with
  | nil => exact h
  | cons p rest ih => exact ih (sorted_insert p.1 p.2 h)

theorem sorted_ofList (pairs : List (String × α)) : Sorted (ofList pairs) :=
  sorted_foldl_insert pairs .nil

end Entries

/-! ## Bundled maps -/

/-- Entries in strictly increasing key order. -/
structure SortedMap (α : Type) where
  entries : List (String × α)
  sorted : Entries.Sorted entries

namespace SortedMap

variable {α : Type}

instance [DecidableEq α] : DecidableEq (SortedMap α) := fun a b =>
  decidable_of_iff (a.entries = b.entries) (by cases a; cases b; simp)

/-- The map without entries. -/
def empty : SortedMap α := ⟨[], .nil⟩

instance : Inhabited (SortedMap α) := ⟨empty⟩

def isEmpty (m : SortedMap α) : Bool := m.entries.isEmpty

def keys (m : SortedMap α) : List String := m.entries.map Prod.fst

/-- The value under a key. -/
def get? (m : SortedMap α) (key : String) : Option α := Entries.get? key m.entries

/-- Puts a value under a key, in place of the value that stood there. -/
def insert (m : SortedMap α) (key : String) (value : α) : SortedMap α :=
  ⟨Entries.insert key value m.entries, Entries.sorted_insert key value m.sorted⟩

/-- Inserts pairs one after another. -/
def insertAll (m : SortedMap α) (pairs : List (String × α)) : SortedMap α :=
  pairs.foldl (fun m pair => m.insert pair.1 pair.2) m

/-- The map of a list of pairs; of several values under one key the last counts. -/
def ofList (pairs : List (String × α)) : SortedMap α := insertAll empty pairs

/-- Keeps the entries that pass a test. -/
def filter (p : String → α → Bool) (m : SortedMap α) : SortedMap α :=
  ⟨m.entries.filter (fun e => p e.1 e.2), List.Pairwise.filter _ m.sorted⟩

@[ext] theorem ext {a b : SortedMap α} (h : a.entries = b.entries) : a = b := by
  cases a; cases b; simp_all

theorem get?_insert_self (m : SortedMap α) (key : String) (value : α) :
    (m.insert key value).get? key = some value :=
  Entries.get?_insert_self key value m.entries

theorem get?_insert_other (m : SortedMap α) {key other : String} (h : other ≠ key) (value : α) :
    (m.insert key value).get? other = m.get? other :=
  Entries.get?_insert_other h value m.entries

end SortedMap

end Courier
