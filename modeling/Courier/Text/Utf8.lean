/-
Bytes and text. Text is written as UTF-8. Reading bytes as text finds one
piece after another: a well-formed character, or the longest run of bytes
that starts a character and is then broken off. The strict reading accepts
only characters; the lossy one puts U+FFFD for every broken piece.
-/
namespace Courier

/-- A body, a header value or any other string of bytes. -/
abbrev Bytes := List UInt8

namespace Utf8

/-- The bytes of a text. -/
def encode (s : String) : Bytes := s.toList.flatMap String.utf8EncodeChar

/-- The characters that make up the first `n` bytes of a text. There are none to be had of a text
with fewer bytes, or where the last of these bytes stands within a character. -/
def front? : Nat → List Char → Option (List Char)
  | 0, _ => some []
  | _ + 1, [] => none
  | n + 1, c :: rest =>
    if c.utf8Size ≤ n + 1 then (front? (n + 1 - c.utf8Size) rest).map (c :: ·) else none

/-- A character of which some bytes are still owed: how many, the bits read so far, and the
least and the greatest byte that may come next. -/
structure Unfinished where
  owed : Nat
  bits : Nat
  low : UInt8
  high : UInt8

/-- What a byte is at the start of a piece. -/
inductive Lead
  | char (c : Char)
  | opens (u : Unfinished)
  | broken

/-- No overlong form, no surrogate and nothing past U+10FFFF passes the ranges given here. -/
def lead (b : UInt8) : Lead :=
  if b < 0x80 then .char (Char.ofNat b.toNat)
  else if b < 0xC2 then .broken
  else if b < 0xE0 then .opens ⟨1, b.toNat % 32, 0x80, 0xBF⟩
  else if b < 0xF0 then
    .opens ⟨2, b.toNat % 16, if b = 0xE0 then 0xA0 else 0x80, if b = 0xED then 0x9F else 0xBF⟩
  else if b < 0xF5 then
    .opens ⟨3, b.toNat % 8, if b = 0xF0 then 0x90 else 0x80, if b = 0xF4 then 0x8F else 0xBF⟩
  else .broken

/-- The pieces of a byte string that continues an unfinished character, if one is given: a
character, or `none` for a broken piece. -/
def piecesFrom : Option Unfinished → Bytes → List (Option Char)
  | none, [] => []
  | some _, [] => [none]
  | none, b :: rest =>
    match lead b with
    | .char c => some c :: piecesFrom none rest
    | .opens u => piecesFrom (some u) rest
    | .broken => none :: piecesFrom none rest
  | some u, b :: rest =>
    if u.low ≤ b && b ≤ u.high then
      let bits := u.bits * 64 + b.toNat % 64
      if u.owed ≤ 1 then some (Char.ofNat bits) :: piecesFrom none rest
      else piecesFrom (some ⟨u.owed - 1, bits, 0x80, 0xBF⟩) rest
    else
      none ::
        match lead b with
        | .char c => some c :: piecesFrom none rest
        | .opens u => piecesFrom (some u) rest
        | .broken => none :: piecesFrom none rest

/-- The pieces of a byte string: a character, or `none` for a broken piece. -/
def pieces (bytes : Bytes) : List (Option Char) := piecesFrom none bytes

/-- The character that stands for what could not be read. -/
def replacement : Char := '\uFFFD'

/-- The text of a byte string, broken pieces replaced by U+FFFD. -/
def decodeLossy (bytes : Bytes) : String :=
  String.ofList ((pieces bytes).map (·.getD replacement))

/-- The text of a byte string that is UTF-8 throughout. -/
def decode? (bytes : Bytes) : Option String :=
  let found := pieces bytes
  if found.all Option.isSome then some (String.ofList (found.map (·.getD replacement))) else none

end Utf8

end Courier
