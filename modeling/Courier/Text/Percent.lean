import Courier.Text.Utf8
import Courier.Text.Ascii
/-
Percent-encoding: a byte that may not stand for itself is written `%XX` with
upper-case hexadecimal digits. Which bytes may stand for themselves is a
parameter of the encoder. Decoding reads either case of digit and leaves a
percent sign that starts no escape alone.
-/
namespace Courier.Percent

/-- The escape of one byte. -/
def escape (b : UInt8) : List Char :=
  ['%', Ascii.hexUpper (b.toNat / 16), Ascii.hexUpper (b.toNat % 16)]

/-- Writes each byte as itself or as its escape. -/
def encode (keeps : UInt8 → Bool) (bytes : Bytes) : List Char :=
  bytes.flatMap fun b => if keeps b then [Char.ofNat b.toNat] else escape b

/-- The text of the bytes of `s`, escaped where `keeps` says no. -/
def encodeText (keeps : UInt8 → Bool) (s : String) : String :=
  String.ofList (encode keeps (Utf8.encode s))

/-- The value of a hexadecimal digit given as a byte. -/
def hexByte? (b : UInt8) : Option Nat := Ascii.hexValue? (Char.ofNat b.toNat)

/-- Reads every escape as the byte it stands for. -/
def decode : Bytes → Bytes
  | [] => []
  | 0x25 :: a :: b :: rest =>
    match hexByte? a, hexByte? b with
    | some high, some low => UInt8.ofNat (high * 16 + low) :: decode rest
    | _, _ => 0x25 :: decode (a :: b :: rest)
  | b :: rest => b :: decode rest

/-- An ASCII letter or digit. -/
def isAlphanumeric (b : UInt8) : Bool := Ascii.isAlphanumeric (Char.ofNat b.toNat)

/-- The byte of an ASCII character. -/
def isOneOf (characters : List Char) (b : UInt8) : Bool :=
  characters.contains (Char.ofNat b.toNat)

/-- Letters, digits and `-._~`, which mean nothing anywhere in a URL. -/
def isUnreserved (b : UInt8) : Bool := isAlphanumeric b || isOneOf ['-', '.', '_', '~'] b

end Courier.Percent
