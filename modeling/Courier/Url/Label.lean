import Courier.Text.Direction
import Courier.Text.Folding
import Courier.Text.Joining
import Courier.Url.Punycode
/-
Labels of a domain. A label that begins with `xn--` stands for one in any
script: what follows is Punycode of a folded and composed label, which does not
begin with a mark, in which every joiner does something, and which is not all
ASCII, since then it would stand for itself. The labels that are meant have to
keep their shapes beside each other.
-/
namespace Courier.Label

/-- Characters that may stand in a label as they are: the ASCII ones, those that folding keeps,
and four that it would change, sharp s, final sigma and the joiners. -/
def isPlain (c : Char) : Bool :=
  c.toNat < 128 || ['ß', 'ς', Joining.separator, Joining.joiner].contains c || Folding.keeps c

/-- The longest Punycode text that is read, and the longest label that it may stand for. -/
def maxCodeLength : Nat := 2000

def maxLength : Nat := 1000

/-- Whether a label may be written in Punycode. -/
def isInternational (label : List Char) : Bool :=
  label.length ≤ maxLength && label.all isPlain && !label.head?.any Mark.isMark &&
    Composition.isComposed label && Joining.joinersWork [] label

/-- The label that a text in Punycode stands for. -/
def decode? (code : List Char) : Option (List Char) :=
  if code.isEmpty || code.getLast? = some '-' || maxCodeLength < code.length then none
  else (Punycode.decode? code).filter isInternational

/-- The label that a label in lower case means, itself unless it stands for another. -/
def meant? (label : List Char) : Option (List Char) :=
  match label with
  | 'x' :: 'n' :: '-' :: '-' :: code => decode? code
  | _ => some label

/-- Whether labels in lower case make a domain. -/
def areValid (labels : List (List Char)) : Bool := (labels.mapM meant?).any Direction.fitTogether

end Courier.Label
