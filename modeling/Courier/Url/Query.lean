import Courier.Url.Basic
import Courier.Form
/-
The query of a URL as name and value pairs.
-/
namespace Courier.Url

/-- The pairs of the query; a URL without a query has none. -/
def queryPairs (u : Url) : List (String × String) :=
  match u.query with
  | some query => Form.read (Utf8.encode query)
  | none => []

/-- The URL with pairs appended to its query, after an ampersand if there is a query text. -/
def appendQuery (u : Url) (pairs : List (String × String)) : Url :=
  let existing := u.query.getD ""
  let added := String.ofList (Form.write pairs)
  let separator := if existing.isEmpty || pairs.isEmpty then "" else "&"
  { u with query := some (existing ++ separator ++ added) }

end Courier.Url
