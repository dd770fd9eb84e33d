import Courier.Failure
/-
What a connection can be made to. The text of a URL is read once more under
narrower rules: a scheme before `://`, then an authority of allowed characters
up to the path. Without a scheme the authority is all there may be, and no
connection can be made to it.
-/
namespace Courier

/-- What a URL names: a server, something under a scheme that is not spoken here, or nothing
that a connection could be made to. -/
inductive Target
  | server
  | foreign (scheme : String)
  | nowhere
  deriving DecidableEq

namespace Target

/-- The longest text, in bytes. -/
def maxLength : Nat := 65534

/-- The longest scheme other than `http` and `https`. -/
def maxSchemeLength : Nat := 64

def isSchemeCharacter (c : Char) : Bool := Ascii.isAlphanumeric c || ['+', '-', '.'].contains c

/-- The characters of a scheme before `://`, and what follows. -/
def scheme? (text : List Char) : Option (List Char × List Char) :=
  match text.span isSchemeCharacter with
  | (scheme, ':' :: '/' :: '/' :: rest) => some (scheme, rest)
  | _ => none

/-- Characters of an authority. -/
def isAuthorityCharacter (c : Char) : Bool :=
  Ascii.isAlphanumeric c ||
    ['-', '.', '_', '~', ':', '[', ']', '@', '!', '$', '&', '\x27', '(', ')', '*', '+', ',', ';',
      '='].contains c

/-- A character that ends an authority. -/
def endsAuthority (c : Char) : Bool := c = '/' || c = '?' || c = '#'

/-- What has been met of an authority: colons and escapes since the last at sign or bracket,
brackets, and whether an at sign stands last. -/
structure Met where
  colons : Nat
  opened : Bool
  closed : Bool
  escaped : Bool
  atSign : Bool

namespace Met

def nothing : Met := ⟨0, false, false, false, false⟩

/-- After one more character. -/
def next (m : Met) (c : Char) : Except TargetFlaw Met :=
  let m := { m with atSign := false }
  if c = ':' then
    if m.colons < 8 then .ok { m with colons := m.colons + 1 } else .error .invalidAuthority
  else if c = '[' then
    if m.escaped || m.opened then .error .invalidAuthority else .ok { m with opened := true }
  else if c = ']' then
    if !m.opened || m.closed then .error .invalidAuthority
    else .ok { m with closed := true, colons := 0, escaped := false }
  else if c = '@' then .ok { m with atSign := true, colons := 0, escaped := false }
  else if c = '%' then .ok { m with escaped := true }
  else if isAuthorityCharacter c then .ok m
  else .error .invalidCharacter

/-- Whether an authority may end here. -/
def complete (m : Met) : Bool :=
  m.opened == m.closed && m.colons ≤ 1 && !m.atSign && !m.escaped

end Met

/-- Splits a text into an authority and what follows it. -/
def authority (text : List Char) : Except TargetFlaw (List Char × List Char) := do
  let found := text.takeWhile (!endsAuthority ·)
  let met ← found.foldlM Met.next Met.nothing
  if met.complete then .ok (found, text.dropWhile (!endsAuthority ·))
  else .error .invalidAuthority

/-- The target that the text of a URL names. -/
def ofText (url : String) : Except TargetFlaw Target := do
  let text := url.toList
  if maxLength < text.length then .error .tooLong
  else
    match scheme? text with
    | some (scheme, rest) =>
      let known := scheme = "http".toList || scheme = "https".toList
      if !known && maxSchemeLength < scheme.length then .error .schemeTooLong
      else if rest.isEmpty then .error .nothing
      else
        let (found, _) ← authority rest
        if found.isEmpty then .error .invalidFormat
        else .ok (if known then .server else .foreign (String.ofList scheme))
    | none =>
      let (_, rest) ← authority text
      if rest.isEmpty then .ok .nowhere else .error .invalidFormat

end Target

end Courier
