import Courier.Json.Basic
/-
Deep merging: objects are merged member by member, arrays are concatenated,
and anything else is replaced by what is merged over it.
-/
namespace Courier.Json

mutual
/-- Merges `overlay` over a base value. -/
def mergeOver : (overlay base : Json) → Json
  | .object members, .object entries => .object (mergeEntries members entries)
  | .array items, .array existing => .array (existing ++ items)
  | overlay, _ => overlay

/-- Merges the members of an overlay, one after another, into the entries of an object. -/
def mergeEntries : (members entries : List (String × Json)) → List (String × Json)
  | [], entries => entries
  | (key, value) :: rest, entries =>
    let merged :=
      match Entries.get? key entries with
      | some existing => mergeOver value existing
      | none => value
    mergeEntries rest (Entries.insert key merged entries)
end

/-- The base with an overlay merged over it. -/
def merge (base overlay : Json) : Json := mergeOver overlay base

end Courier.Json
