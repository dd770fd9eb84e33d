/-
The ASCII characters and what texts are asked about them: letters, digits,
hexadecimal digits, lower and upper case, and the blanks that are trimmed.
Case maps touch ASCII letters only and leave every other character alone.
-/
namespace Courier.Ascii

def isDigit (c : Char) : Bool := '0' ≤ c && c ≤ '9'

def isLetter (c : Char) : Bool := ('a' ≤ c && c ≤ 'z') || ('A' ≤ c && c ≤ 'Z')

def isAlphanumeric (c : Char) : Bool := isLetter c || isDigit c

def lowerChar (c : Char) : Char :=
  if 'A' ≤ c && c ≤ 'Z' then Char.ofNat (c.toNat + 32) else c

def upperChar (c : Char) : Char :=
  if 'a' ≤ c && c ≤ 'z' then Char.ofNat (c.toNat - 32) else c

/-- A text with its ASCII letters in lower case. -/
def lower (s : String) : String := String.ofList (s.toList.map lowerChar)

/-- A text with its ASCII letters in upper case. -/
def upper (s : String) : String := String.ofList (s.toList.map upperChar)

/-- Equal but for the case of ASCII letters. -/
def sameIgnoringCase (a b : String) : Bool := lower a == lower b

/-- The value of a hexadecimal digit of either case. -/
def hexValue? (c : Char) : Option Nat :=
  if '0' ≤ c && c ≤ '9' then some (c.toNat - 48)
  else if 'a' ≤ c && c ≤ 'f' then some (c.toNat - 87)
  else if 'A' ≤ c && c ≤ 'F' then some (c.toNat - 55)
  else none

/-- A hexadecimal digit in lower case. -/
def hexLower (n : Nat) : Char :=
  if n < 10 then Char.ofNat (48 + n) else Char.ofNat (87 + n)

/-- A hexadecimal digit in upper case. -/
def hexUpper (n : Nat) : Char :=
  if n < 10 then Char.ofNat (48 + n) else Char.ofNat (55 + n)

/-- The decimal digits of a number, no sign and no leading zeros. -/
def decimal (n : Nat) : List Char := Nat.toDigits 10 n

/-- The number that a run of decimal digits writes. -/
def ofDecimal (digits : List Char) : Nat :=
  digits.foldl (fun n c => n * 10 + (c.toNat - 48)) 0

/-- The decimal digits of a number as text. -/
def showNat (n : Nat) : String := String.ofList (decimal n)

/-- The decimal digits of an integer as text, a minus before negative ones. -/
def showInt (i : Int) : String :=
  if i < 0 then "-" ++ showNat i.natAbs else showNat i.natAbs

end Courier.Ascii
