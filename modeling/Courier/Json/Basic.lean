import Courier.Decimal.Binary64
import Courier.SortedMap
/-
JSON values. A number is an integer or a double: `1` and `1.0` are different
values. An object is a list of entries; `Json.Ordered` says that the entries
of every object in a document are in strictly increasing key order, which all
operations of this library keep and which gives each document one form.
-/
namespace Courier

/-- A number that was written as an integer within 64 bits, or a double. -/
inductive Number
  | int (i : Int)
  | double (x : Binary64)
  deriving DecidableEq

inductive Json
  | null
  | bool (b : Bool)
  | number (n : Number)
  | string (s : String)
  | array (items : List Json)
  | object (entries : List (String × Json))

namespace Json

instance : Inhabited Json := ⟨null⟩

/-- An integer as a value. -/
def int (i : Int) : Json := .number (.int i)

/-- A natural number as a value. -/
def nat (n : Nat) : Json := .number (.int n)

/-- An object of these entries, put in order. -/
def ofEntries (entries : List (String × Json)) : Json := .object (Entries.ofList entries)

/-- The object with the entries of a map. -/
def ofMap (m : SortedMap Json) : Json := .object m.entries

/-- The member of an object under a key. -/
def get? (key : String) : Json → Option Json
  | .object entries => Entries.get? key entries
  | _ => none

mutual
/-- Every object in the document is in key order. -/
def Ordered : Json → Prop
  | .array items => OrderedItems items
  | .object entries => Entries.Sorted entries ∧ OrderedEntries entries
  | _ => True

/-- Every object in the items is in key order. -/
def OrderedItems : List Json → Prop
  | [] => True
  | item :: rest => Ordered item ∧ OrderedItems rest

/-- Every object in the values of the entries is in key order. -/
def OrderedEntries : List (String × Json) → Prop
  | [] => True
  | (_, value) :: rest => Ordered value ∧ OrderedEntries rest
end

mutual
/-- Equal as values: integers and doubles differ, and both zeros are one double. -/
def same : Json → Json → Bool
  | .null, .null => true
  | .bool a, .bool b => a == b
  | .number (.int i), .number (.int j) => i == j
  | .number (.double x), .number (.double y) => x.same y
  | .string s, .string t => s == t
  | .array xs, .array ys => sameItems xs ys
  | .object xs, .object ys => sameEntries xs ys
  | _, _ => false

/-- The items are pairwise equal as values. -/
def sameItems : List Json → List Json → Bool
  | [], [] => true
  | x :: xs, y :: ys => same x y && sameItems xs ys
  | _, _ => false

/-- The entries are pairwise equal, keys and values. -/
def sameEntries : List (String × Json) → List (String × Json) → Bool
  | [], [] => true
  | (j, x) :: xs, (k, y) :: ys => j == k && same x y && sameEntries xs ys
  | _, _ => false
end

end Json

end Courier
