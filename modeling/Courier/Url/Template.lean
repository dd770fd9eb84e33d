import Courier.Text.Percent
import Courier.Text.Utf8
import Courier.Text.Split
import Courier.SortedMap
/-
URL templates and base URLs. In a template `{name}` stands for the
percent-encoded value of a parameter and `{+name}` for the value as it
is. A placeholder whose name is unknown stays as it is, and so does a tail
that opens a brace and never closes it. Inserted values are not looked at
again.
-/
namespace Courier.Url

/-- The text begins with `http://` or `https://` in any case. The longer one takes eight bytes, so
no more are looked at, or all of the text where it cannot be cut there. -/
def isAbsolute (url : String) : Bool :=
  let characters := url.toList
  let text := ((Utf8.front? 8 characters).getD characters).map Ascii.lowerChar
  "http://".toList.isPrefixOf text || "https://".toList.isPrefixOf text

/-- A URL under a base: one slash joins them, however many stood at either side. An absolute
URL does not need the base. -/
def underBase (base url : String) : String :=
  if base.isEmpty || isAbsolute url then url
  else
    let front := (base.toList.reverse.dropWhile (· = '/')).reverse
    String.ofList (front ++ ['/'] ++ url.toList.dropWhile (· = '/'))

/-- What a placeholder with this name is replaced by. -/
def placeholder (parameters : SortedMap String) (name : List Char) : List Char :=
  match name with
  | '+' :: raw =>
    match parameters.get? (String.ofList raw) with
    | some value => value.toList
    | none => ['\x7b'] ++ name ++ ['\x7d']
  | _ =>
    match parameters.get? (String.ofList name) with
    | some value => Percent.encode Percent.isUnreserved (Utf8.encode value)
    | none => ['\x7b'] ++ name ++ ['\x7d']

/-- Expands a text; `open_` is the name read so far of a placeholder that is still open, last
character first. -/
def expandFrom (parameters : SortedMap String) : Option (List Char) → List Char → List Char
  | none, [] => []
  | some name, [] => '\x7b' :: name.reverse
  | none, c :: rest =>
    if c = '\x7b' then expandFrom parameters (some []) rest
    else c :: expandFrom parameters none rest
  | some name, c :: rest =>
    if c = '\x7d' then placeholder parameters name.reverse ++ expandFrom parameters none rest
    else expandFrom parameters (some (c :: name)) rest

/-- The text of a template with its placeholders replaced. -/
def expand (parameters : SortedMap String) (template : String) : String :=
  String.ofList (expandFrom parameters none template.toList)

end Courier.Url
