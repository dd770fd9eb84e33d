import Courier.Json.Basic
import Courier.Text.Utf8
import Courier.Text.Ascii
/-
The tokens of a JSON text, read from the front of a byte string: blanks,
literals, numbers, strings, and whole values that nobody wants. Each reader
returns what follows the token, or the flaw that it met first.

A string is read byte by byte with a state that says what the next byte
belongs to. Escapes that write surrogates have to pair up, and the bytes of
the finished string have to be UTF-8. A value that is skipped is not held to
these two rules.
-/
namespace Courier.Json

/-- What makes a text no JSON. -/
inductive Flaw
  | endOfList
  | endOfObject
  | endOfString
  | endOfValue
  | expectedColon
  | expectedCommaOrBracket
  | expectedCommaOrBrace
  | expectedLiteral
  | expectedValue
  | invalidEscape
  | invalidNumber
  | numberOutOfRange
  | invalidUnicode
  | controlCharacter
  | keyNotString
  | loneSurrogate
  | trailingComma
  | trailingCharacters
  | brokenSurrogatePair
  | tooDeep
  deriving DecidableEq

def Flaw.message : Flaw → String
  | endOfList => "EOF while parsing a list"
  | endOfObject => "EOF while parsing an object"
  | endOfString => "EOF while parsing a string"
  | endOfValue => "EOF while parsing a value"
  | expectedColon => "expected `:`"
  | expectedCommaOrBracket => "expected `,` or `]`"
  | expectedCommaOrBrace => "expected `,` or `\x7d`"
  | expectedLiteral => "expected ident"
  | expectedValue => "expected value"
  | invalidEscape => "invalid escape"
  | invalidNumber => "invalid number"
  | numberOutOfRange => "number out of range"
  | invalidUnicode => "invalid unicode code point"
  | controlCharacter => "control character (\\u0000-\\u001F) found while parsing a string"
  | keyNotString => "key must be a string"
  | loneSurrogate => "lone leading surrogate in hex escape"
  | trailingComma => "trailing comma"
  | trailingCharacters => "trailing characters"
  | brokenSurrogatePair => "unexpected end of hex escape"
  | tooDeep => "recursion limit exceeded"

namespace Reader

/-- The byte of an ASCII character. -/
def byte (c : Char) : UInt8 := UInt8.ofNat c.toNat

/-- Blanks between tokens. -/
def isBlank (b : UInt8) : Bool := b = 0x20 || b = 0x0A || b = 0x0D || b = 0x09

def skipBlanks (bytes : Bytes) : Bytes := bytes.dropWhile isBlank

def isDigit (b : UInt8) : Bool := 0x30 ≤ b && b ≤ 0x39

/-- Reads the rest of a literal whose first letter has been read. -/
def literal : List Char → Bytes → Except Flaw Bytes
  | [], rest => .ok rest
  | _ :: _, [] => .error .endOfValue
  | c :: cs, b :: rest => if b = byte c then literal cs rest else .error .expectedLiteral

/-! ## Numbers -/

/-- Adds digits to a number as long as it stays below 2^64; returns it with the digits left. -/
def fitting : Nat → Bytes → Nat × Bytes
  | n, [] => (n, [])
  | n, d :: ds =>
    let next := n * 10 + (d.toNat - 48)
    if next < UInt64.size then fitting next ds else (n, d :: ds)

/-- The value of a run of digits. -/
def digitsValue (ds : Bytes) : Nat := ds.foldl (fun n d => n * 10 + (d.toNat - 48)) 0

/-- The double `± significand * 10^exponent`. -/
def toDouble (negative : Bool) (significand : Nat) (exponent : Int) : Except Flaw Number :=
  match Binary64.ofDecimal negative significand exponent with
  | some x => .ok (.double x)
  | none => .error .numberOutOfRange

/-- Reads the exponent after its letter; `exponent` is what the digits before it call for. -/
def exponentPart (negative : Bool) (significand : Nat) (exponent : Int) (bytes : Bytes) :
    Except Flaw (Number × Bytes) :=
  let (down, bytes) := match bytes with
    | b :: rest => if b = byte '+' then (false, rest) else if b = byte '-' then (true, rest)
      else (false, bytes)
    | [] => (false, [])
  match bytes with
  | [] => .error .endOfValue
  | b :: _ =>
    if !isDigit b then .error .invalidNumber
    else
      let power : Int := digitsValue (bytes.takeWhile isDigit)
      (toDouble negative significand (exponent + if down then -power else power)).map
        (·, bytes.dropWhile isDigit)

/-- Reads the fraction after its point. -/
def fractionPart (negative : Bool) (significand : Nat) (exponent : Int) (bytes : Bytes) :
    Except Flaw (Number × Bytes) :=
  let ds := bytes.takeWhile isDigit
  let rest := bytes.dropWhile isDigit
  if ds.isEmpty then .error (if rest.isEmpty then .endOfValue else .invalidNumber)
  else
    let (significand, left) := fitting significand ds
    let exponent := exponent - (ds.length - left.length : Nat)
    match rest with
    | b :: more =>
      if b = byte 'e' || b = byte 'E' then exponentPart negative significand exponent more
      else (toDouble negative significand exponent).map (·, rest)
    | [] => (toDouble negative significand exponent).map (·, rest)

/-- An integer of 64 bits, or the double nearest to one that is too small for that; minus zero
is a double as well. -/
def integer (negative : Bool) (n : Nat) : Except Flaw Number :=
  if !negative then .ok (.int n)
  else if 0 < n && n ≤ Nat.pow 2 63 then .ok (.int (-n))
  else toDouble true n 0

/-- Reads a number whose minus, if any, has been read. Digits beyond 2^64 only count as powers
of ten. -/
def number (negative : Bool) (bytes : Bytes) : Except Flaw (Number × Bytes) :=
  let ds := bytes.takeWhile isDigit
  let rest := bytes.dropWhile isDigit
  match ds with
  | [] => .error (if rest.isEmpty then .endOfValue else .invalidNumber)
  | d :: more =>
    if d = byte '0' && !more.isEmpty then .error .invalidNumber
    else
      let (significand, left) := fitting 0 ds
      let whole := fun rest : Bytes =>
        if left.isEmpty then (integer negative significand).map (·, rest)
        else (toDouble negative significand left.length).map (·, rest)
      match rest with
      | b :: after =>
        if b = byte '.' then fractionPart negative significand left.length after
        else if b = byte 'e' || b = byte 'E' then
          exponentPart negative significand left.length after
        else whole rest
      | [] => whole rest

/-! ## Strings -/

/-- What the next byte of a string belongs to. After the first half of a surrogate pair the
states carry it along. -/
inductive Within
  | plain
  | escape
  | hex (digits : Bytes) (high : Option Nat)
  | high (n : Nat)
  | highEscape (n : Nat)

/-- The byte that a one-letter escape stands for. -/
def shortEscape? (b : UInt8) : Option UInt8 :=
  if b = byte '\x22' then some (byte '\x22')
  else if b = byte '\\' then some (byte '\\')
  else if b = byte '/' then some (byte '/')
  else if b = byte 'b' then some 0x08
  else if b = byte 'f' then some 0x0C
  else if b = byte 'n' then some 0x0A
  else if b = byte 'r' then some 0x0D
  else if b = byte 't' then some 0x09
  else none

/-- The number that hexadecimal digits write. -/
def hexNumber? (digits : Bytes) : Option Nat :=
  digits.foldlM (fun n d => (Ascii.hexValue? (Char.ofNat d.toNat)).map (n * 16 + ·)) 0

/-- The bytes of a character given by its code point, last byte first. -/
def reversedChar (code : Nat) : Bytes := (String.utf8EncodeChar (Char.ofNat code)).reverse

/-- Reads a string up to its closing quote; `done` holds the bytes read so far, last first. -/
def stringFrom : Within → Bytes → Bytes → Except Flaw (String × Bytes)
  | _, _, [] => .error .endOfString
  | .plain, done, b :: rest =>
    if b = byte '\x22' then
      match Utf8.decode? done.reverse with
      | some s => .ok (s, rest)
      | none => .error .invalidUnicode
    else if b = byte '\\' then stringFrom .escape done rest
    else if b < 0x20 then .error .controlCharacter
    else stringFrom .plain (b :: done) rest
  | .escape, done, b :: rest =>
    match shortEscape? b with
    | some e => stringFrom .plain (e :: done) rest
    | none => if b = byte 'u' then stringFrom (.hex [] none) done rest else .error .invalidEscape
  | .hex digits high, done, b :: rest =>
    if digits.length < 3 then stringFrom (.hex (digits ++ [b]) high) done rest
    else
      match hexNumber? (digits ++ [b]), high with
      | none, _ => .error .invalidEscape
      | some n, none =>
        if 0xDC00 ≤ n && n ≤ 0xDFFF then .error .loneSurrogate
        else if 0xD800 ≤ n && n ≤ 0xDBFF then stringFrom (.high n) done rest
        else stringFrom .plain (reversedChar n ++ done) rest
      | some n, some first =>
        if 0xDC00 ≤ n && n ≤ 0xDFFF then
          stringFrom .plain
            (reversedChar ((first - 0xD800) * 1024 + (n - 0xDC00) + 0x10000) ++ done) rest
        else .error .loneSurrogate
  | .high n, done, b :: rest =>
    if b = byte '\\' then stringFrom (.highEscape n) done rest else .error .brokenSurrogatePair
  | .highEscape n, done, b :: rest =>
    if b = byte 'u' then stringFrom (.hex [] (some n)) done rest else .error .brokenSurrogatePair

/-- Reads a string whose opening quote has been read. -/
def string (bytes : Bytes) : Except Flaw (String × Bytes) := stringFrom .plain [] bytes

/-! ## Members and items -/

/-- Where the next item of a list begins; none at its closing bracket. -/
def nextItem (first : Bool) (bytes : Bytes) : Except Flaw (Option Bytes) :=
  match skipBlanks bytes with
  | [] => .error .endOfList
  | b :: rest =>
    if b = byte ']' then .ok none
    else if first then .ok (some (b :: rest))
    else if b = byte ',' then
      match skipBlanks rest with
      | [] => .error .endOfValue
      | c :: more => if c = byte ']' then .error .trailingComma else .ok (some (c :: more))
    else .error .expectedCommaOrBracket

/-- What follows the closing bracket of a list that should end here. -/
def closeList (bytes : Bytes) : Except Flaw Bytes :=
  match skipBlanks bytes with
  | [] => .error .endOfList
  | b :: rest =>
    if b = byte ']' then .ok rest
    else if b = byte ',' then
      match skipBlanks rest with
      | c :: _ => if c = byte ']' then .error .trailingComma else .error .trailingCharacters
      | [] => .error .trailingCharacters
    else .error .trailingCharacters

/-- What follows the opening quote of the next key of an object; none at its closing brace. -/
def nextKey (first : Bool) (bytes : Bytes) : Except Flaw (Option Bytes) :=
  match skipBlanks bytes with
  | [] => .error .endOfObject
  | b :: rest =>
    if b = byte '\x7d' then .ok none
    else if first then if b = byte '\x22' then .ok (some rest) else .error .keyNotString
    else if b = byte ',' then
      match skipBlanks rest with
      | [] => .error .endOfValue
      | c :: more =>
        if c = byte '\x22' then .ok (some more)
        else if c = byte '\x7d' then .error .trailingComma
        else .error .keyNotString
    else .error .expectedCommaOrBrace

/-- What follows the closing brace of an object that ends here. -/
def closeObject (bytes : Bytes) : Bytes := (skipBlanks bytes).drop 1

/-- What follows the colon after a key. -/
def colon (bytes : Bytes) : Except Flaw Bytes :=
  match skipBlanks bytes with
  | [] => .error .endOfObject
  | b :: rest => if b = byte ':' then .ok rest else .error .expectedColon

/-! ## Values that are skipped -/

/-- Skips a string up to its closing quote. -/
def skipStringFrom : Within → Bytes → Except Flaw Bytes
  | _, [] => .error .endOfString
  | .escape, b :: rest =>
    if (shortEscape? b).isSome then skipStringFrom .plain rest
    else if b = byte 'u' then skipStringFrom (.hex [] none) rest
    else .error .invalidEscape
  | .hex digits high, b :: rest =>
    if digits.length < 3 then skipStringFrom (.hex (digits ++ [b]) high) rest
    else if (hexNumber? (digits ++ [b])).isSome then skipStringFrom .plain rest
    else .error .invalidEscape
  | _, b :: rest =>
    if b = byte '\x22' then .ok rest
    else if b = byte '\\' then skipStringFrom .escape rest
    else if b < 0x20 then .error .controlCharacter
    else skipStringFrom .plain rest

/-- Skips the exponent of a number after its letter. -/
def skipExponent (bytes : Bytes) : Except Flaw Bytes :=
  let unsigned := match bytes with
    | b :: rest => if b = byte '+' || b = byte '-' then rest else bytes
    | [] => []
  let rest := unsigned.dropWhile isDigit
  if rest.length = unsigned.length then .error .invalidNumber else .ok rest

/-- Skips a number whose minus, if any, has been skipped. -/
def skipNumber (bytes : Bytes) : Except Flaw Bytes :=
  let afterWhole := fun rest : Bytes =>
    match rest with
    | b :: more =>
      if b = byte '.' then
        let afterFraction := more.dropWhile isDigit
        if afterFraction.length = more.length then .error .invalidNumber
        else
          match afterFraction with
          | c :: tail =>
            if c = byte 'e' || c = byte 'E' then skipExponent tail else .ok afterFraction
          | [] => .ok []
      else if b = byte 'e' || b = byte 'E' then skipExponent more
      else .ok rest
    | [] => .ok []
  match bytes.takeWhile isDigit with
  | [] => .error .invalidNumber
  | d :: more =>
    if d = byte '0' && !more.isEmpty then .error .invalidNumber
    else afterWhole (bytes.dropWhile isDigit)

/-- A bracket that is open while a value is skipped. -/
inductive Bracket
  | list
  | object
  deriving DecidableEq

/-- Reads the key and colon that stand before a value in an object. -/
def skipKey (bytes : Bytes) : Except Flaw Bytes :=
  match skipBlanks bytes with
  | [] => .error .endOfObject
  | b :: rest =>
    if b = byte '\x22' then (skipStringFrom .plain rest).bind colon else .error .keyNotString

/-- What has to come next while a value is skipped: a value, or, after an opening bracket
(`fresh`) or a value, the closing bracket or a comma. -/
inductive Awaited
  | value
  | close (fresh : Bool)

/-- Skips one value with everything in it, however deep; `open_` lists the brackets still
open. Of two rounds at least one takes a byte off, so twice as many rounds as bytes suffice. -/
def skipFrom : Nat → Awaited → List Bracket → Bytes → Except Flaw Bytes
  | 0, _, _, _ => .error .endOfValue
  | _ + 1, .close _, [], bytes => .ok bytes
  | fuel + 1, .value, open_, bytes =>
    match skipBlanks bytes with
    | [] => .error .endOfValue
    | b :: rest =>
      if b = byte 'n' then
        (literal ['u', 'l', 'l'] rest).bind (skipFrom fuel (.close false) open_)
      else if b = byte 't' then
        (literal ['r', 'u', 'e'] rest).bind (skipFrom fuel (.close false) open_)
      else if b = byte 'f' then
        (literal ['a', 'l', 's', 'e'] rest).bind (skipFrom fuel (.close false) open_)
      else if b = byte '-' then (skipNumber rest).bind (skipFrom fuel (.close false) open_)
      else if isDigit b then (skipNumber (b :: rest)).bind (skipFrom fuel (.close false) open_)
      else if b = byte '\x22' then
        (skipStringFrom .plain rest).bind (skipFrom fuel (.close false) open_)
      else if b = byte '[' then skipFrom fuel (.close true) (.list :: open_) rest
      else if b = byte '\x7b' then skipFrom fuel (.close true) (.object :: open_) rest
      else .error .expectedValue
  | fuel + 1, .close fresh, bracket :: open_, bytes =>
    let valueIn := fun bytes : Bytes =>
      if bracket = .object then
        (skipKey bytes).bind (skipFrom fuel .value (bracket :: open_))
      else skipFrom fuel .value (bracket :: open_) bytes
    match skipBlanks bytes with
    | [] => .error (if bracket = .list then .endOfList else .endOfObject)
    | b :: rest =>
      if b = byte ',' && !fresh then valueIn rest
      else if b = byte ']' && bracket = .list || b = byte '\x7d' && bracket = .object then
        skipFrom fuel (.close false) open_ rest
      else if fresh then valueIn (b :: rest)
      else .error (if bracket = .list then .expectedCommaOrBracket else .expectedCommaOrBrace)

/-- Skips one value. -/
def skip (bytes : Bytes) : Except Flaw Bytes := skipFrom (2 * bytes.length + 2) .value [] bytes

end Reader

end Courier.Json
