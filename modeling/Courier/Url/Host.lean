import Courier.Text.Percent
import Courier.Text.Split
import Courier.Url.Label
/-
The host of a URL: a domain, an IPv4 or an IPv6 address. A domain whose last
label is a number has to be an IPv4 address, whose parts may be written in
octal and hexadecimal and may be left out from the middle. The longest run of
two or more zero pieces of an IPv6 address is written as `::`.

Domains are ASCII here. The URL standard, and with it the client, also accepts
hosts in other scripts, such as `münchen.de`, and maps them to labels in
Punycode. That mapping is left out: `Host.read` refuses a domain with other
characters, written as they are or as escapes. A domain that is in Punycode
already is read, unless a label is only made to look as if it stood for one in
another script. What must hold for all hosts that the standard accepts takes the
reader of URLs as a parameter, see `Request.buildWith` and `Redirect.next`.
-/
namespace Courier

/-- What is wrong with a URL. -/
inductive UrlFlaw
  | emptyHost
  | invalidDomain
  | invalidPort
  | invalidIpv4
  | invalidIpv6
  | invalidHostCharacter
  | relativeWithoutBase
  | relativeWithRootlessBase
  deriving DecidableEq

def UrlFlaw.message : UrlFlaw → String
  | emptyHost => "empty host"
  | invalidDomain => "invalid international domain name"
  | invalidPort => "invalid port number"
  | invalidIpv4 => "invalid IPv4 address"
  | invalidIpv6 => "invalid IPv6 address"
  | invalidHostCharacter => "invalid domain character"
  | relativeWithoutBase => "relative URL without a base"
  | relativeWithRootlessBase => "relative URL with a cannot-be-a-base base"

/-- The empty domain stands for the empty host of a URL that has an authority. -/
inductive Host
  | domain (name : String)
  | ipv4 (address : Nat)
  | ipv6 (pieces : List Nat)
  deriving DecidableEq

namespace Host

/-! ## IPv4 -/

/-- The number that digits write in a base, if all of them are digits of that base. -/
def inBase? (base : Nat) (digits : List Char) : Option Nat :=
  digits.foldlM (fun n c =>
    match Ascii.hexValue? c with
    | some d => if d < base then some (n * base + d) else none
    | none => none) 0

/-- A part of an IPv4 address: hexadecimal after `0x`, octal after a leading zero. -/
def ipv4Part? : List Char → Option Nat
  | [] => none
  | '0' :: 'x' :: digits => inBase? 16 digits
  | '0' :: 'X' :: digits => inBase? 16 digits
  | '0' :: d :: digits => inBase? 8 (d :: digits)
  | digits => inBase? 10 digits

/-- The labels of a domain without the empty one after a final dot. -/
def labels (name : List Char) : List (List Char) :=
  let parts := Split.segments '.' name
  if parts.getLast? = some [] then parts.dropLast else parts

/-- Whether the last label is a number, which no name ends in. -/
def endsInNumber (name : List Char) : Bool :=
  match (labels name).getLast? with
  | none => false
  | some label => (!label.isEmpty && label.all Ascii.isDigit) || (ipv4Part? label).isSome

/-- The address of dotted parts: the last part fills all bytes that the others leave. -/
def ipv4? (name : List Char) : Option Nat := do
  let numbers ← (labels name).mapM ipv4Part?
  let last ← numbers.getLast?
  let leading := numbers.dropLast
  if 3 < leading.length || leading.any (255 < ·) || Nat.pow 256 (4 - leading.length) ≤ last
  then none
  else some (leading.zipIdx.foldl (fun sum part => sum + part.1 * Nat.pow 256 (3 - part.2)) last)

/-! ## IPv6 -/

/-- One piece of an IPv6 address: one to four hexadecimal digits. -/
def piece? (digits : List Char) : Option Nat :=
  if digits.isEmpty || 4 < digits.length then none else inBase? 16 digits

/-- A decimal number up to 255 without zeros in front. -/
def octet? (digits : List Char) : Option Nat :=
  if digits.isEmpty || !digits.all Ascii.isDigit || 3 < digits.length then none
  else if 1 < digits.length && digits.head? = some '0' then none
  else
    let n := Ascii.ofDecimal digits
    if n ≤ 255 then some n else none

/-- An IPv4 address at the end of an IPv6 address, as its two pieces. -/
def dottedPieces? (digits : List Char) : Option (List Nat) :=
  match (Split.segments '.' digits).mapM octet? with
  | some [a, b, c, d] => some [a * 256 + b, c * 256 + d]
  | _ => none

/-- Pieces between colons; the last one may be an IPv4 address if `dotted` allows it. -/
def pieces? (dotted : Bool) : List (List Char) → Option (List Nat)
  | [] => some []
  | [last] =>
    match piece? last with
    | some n => some [n]
    | none => if dotted then dottedPieces? last else none
  | digits :: rest => do (← piece? digits) :: (← pieces? dotted rest)

/-- The pieces of a run between colons; an empty run has none. -/
def run? (dotted : Bool) (run : List Char) : Option (List Nat) :=
  if run.isEmpty then some [] else pieces? dotted (Split.segments ':' run)

/-- What stands before the first double colon and what stands after it. -/
def atDoubleColon? : List Char → Option (List Char × List Char)
  | ':' :: ':' :: rest => some ([], rest)
  | c :: rest => (atDoubleColon? rest).map fun parts => (c :: parts.1, parts.2)
  | [] => none

/-- The eight pieces of an IPv6 address; a double colon stands for one or more zeros. -/
def ipv6? (text : List Char) : Option (List Nat) :=
  match atDoubleColon? text with
  | some (left, right) => do
    let before ← run? false left
    let after ← run? true right
    let given := before.length + after.length
    if 7 < given then none else some (before ++ List.replicate (8 - given) 0 ++ after)
  | none => do
    let all ← pieces? true (Split.segments ':' text)
    if all.length = 8 then some all else none

/-! ## Reading a host -/

/-- A byte that no domain may hold. -/
def isForbiddenInDomain (b : UInt8) : Bool :=
  b ≤ 0x20 || 0x7F ≤ b ||
    Percent.isOneOf ['%', '#', '/', ':', '<', '>', '?', '@', '[', '\\', ']', '^', '|'] b

/-- A character that the host of a URL with an unknown scheme may not hold. -/
def isForbiddenInHost (c : Char) : Bool :=
  ['\x00', '\t', '\n', '\r', ' ', '#', '/', ':', '<', '>', '?', '@', '[', '\\', ']', '^',
    '|'].contains c

/-- The inside of square brackets around a host. -/
def bracketed? (text : List Char) : Option (Except UrlFlaw Host) :=
  match text with
  | '[' :: inside =>
    if inside.getLast? = some ']' then
      match ipv6? inside.dropLast with
      | some pieces => some (.ok (.ipv6 pieces))
      | none => some (.error .invalidIpv6)
    else some (.error .invalidIpv6)
  | _ => none

/-- The host of a URL whose scheme is known: escapes are read, letters get lower case. -/
def read (text : List Char) : Except UrlFlaw Host :=
  match bracketed? text with
  | some result => result
  | none =>
    let bytes := Percent.decode (Utf8.encode (String.ofList text))
    if bytes.any isForbiddenInDomain then .error .invalidDomain
    else
      let name := bytes.map fun b => Ascii.lowerChar (Char.ofNat b.toNat)
      if name.isEmpty then .error .emptyHost
      else if !Label.areValid (Split.segments '.' name) then .error .invalidDomain
      else if endsInNumber name then
        match ipv4? name with
        | some address => .ok (.ipv4 address)
        | none => .error .invalidIpv4
      else .ok (.domain (String.ofList name))

/-- The host of a URL whose scheme is not known: kept as it is, controls escaped. -/
def readUnknown (text : List Char) : Except UrlFlaw Host :=
  match bracketed? text with
  | some result => result
  | none =>
    if text.any isForbiddenInHost then .error .invalidHostCharacter
    else
      .ok (.domain (Percent.encodeText (fun b => 0x20 ≤ b && b < 0x7F) (String.ofList text)))

/-! ## Writing a host -/

/-- The length of the run of zeros at the front. -/
def zeros (pieces : List Nat) : Nat := (pieces.takeWhile (· = 0)).length

/-- Where the longest run of zeros begins and how long it is; of equally long runs the first. -/
def longestZeros : Nat → List Nat → Nat × Nat
  | i, [] => (i, 0)
  | i, n :: rest =>
    let here := zeros (n :: rest)
    let later := longestZeros (i + 1) rest
    if later.2 ≤ here then (i, here) else later

/-- Pieces between colons. -/
def writePieces (pieces : List Nat) : List Char :=
  Split.join [':'] (pieces.map (Nat.toDigits 16))

def writeIpv6 (pieces : List Nat) : List Char :=
  let (start, length) := longestZeros 0 pieces
  if length < 2 then writePieces pieces
  else writePieces (pieces.take start) ++ [':', ':'] ++ writePieces (pieces.drop (start + length))

def writeIpv4 (address : Nat) : List Char :=
  let octets := [address / 16777216, address / 65536 % 256, address / 256 % 256, address % 256]
  Split.join ['.'] (octets.map Ascii.decimal)

def write : Host → String
  | domain name => name
  | ipv4 address => String.ofList (writeIpv4 address)
  | ipv6 pieces => "[" ++ String.ofList (writeIpv6 pieces) ++ "]"

end Host

end Courier
