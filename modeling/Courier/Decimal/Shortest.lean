import Courier.Decimal.Binary64
import Courier.Text.Ascii
/-
The text of a double: the fewest decimal digits that read back as the same
number. For one digit, two digits and so on up to 17, the value's two
neighbours on that decimal grid are tried; the first grid with a hit wins,
of two hits the nearer, and of two equally near ones the even one. The ends
of the interval that rounds to the number belong to it when its significand
is even.

`FloatFormat` holds what the two formats that show doubles decide for
themselves.
-/
namespace Courier

namespace Shortest

/-- The exponent of the leading decimal digit of `num / den`, a positive ratio. -/
def leadingExponent (num den : Nat) : Int :=
  if den ≤ num then (Ascii.decimal (num / den)).length - 1
  else -((Ascii.decimal ((den - 1) / num)).length : Int)

/-- A positive whole number of units of `10^tens * 2^twos`, as a ratio. -/
def scaled (n : Nat) (tens twos : Int) : Nat × Nat :=
  (n * Nat.pow 10 tens.toNat * Nat.pow 2 twos.toNat,
    Nat.pow 10 (-tens).toNat * Nat.pow 2 (-twos).toNat)

/-- The ratio `a` is less than the ratio `b`. -/
def less (a b : Nat × Nat) : Bool := a.1 * b.2 < b.1 * a.2

/-- Whether `candidate * 10^tens` rounds to `x`. -/
def readsBack (x : Binary64) (candidate : Nat) (tens : Int) : Bool :=
  let quarter := x.exponent - 2
  let below := if x.significand = Nat.pow 2 52 && -1074 < x.exponent then 1 else 2
  let value := scaled candidate tens 0
  let low := scaled (4 * x.significand - below) 0 quarter
  let high := scaled (4 * x.significand + 2) 0 quarter
  if x.significand % 2 = 0 then !less value low && !less high value
  else less low value && less value high

/-- Of two candidates next to each other around the value, the one to write. -/
def nearer (x : Binary64) (lower : Nat) (tens : Int) : Nat :=
  let twice := scaled (2 * x.significand) 0 x.exponent
  let middle := scaled (2 * lower + 1) tens 0
  if less twice middle then lower
  else if less middle twice then lower + 1
  else if lower % 2 = 0 then lower else lower + 1

/-- The candidate with `count` digits, if one reads back. -/
def withDigits? (x : Binary64) (count : Nat) : Option (Nat × Int) :=
  let value := x.ratio
  let tens := leadingExponent value.1 value.2 - count + 1
  let step := scaled 1 tens 0
  let lower := value.1 * step.2 / (value.2 * step.1)
  match readsBack x lower tens, readsBack x (lower + 1) tens with
  | true, true => some (nearer x lower tens, tens)
  | true, false => some (lower, tens)
  | false, true => some (lower + 1, tens)
  | false, false => none

/-- Trailing zeros moved from the digits into the exponent. -/
def trimmed : Nat → Nat × Int → Nat × Int
  | 0, d => d
  | fuel + 1, (n, tens) => if n % 10 = 0 then trimmed fuel (n / 10, tens + 1) else (n, tens)

/-- The fewest digits that read back as a number other than zero, and the exponent of the
last of them. -/
def digits (x : Binary64) : Nat × Int :=
  match (List.range 17).findSome? fun n => withDigits? x (n + 1) with
  | some found => trimmed 17 found
  | none => (0, 0)

end Shortest

/-- How a format writes doubles: positionally if the leading digit stands no more than
`maxWhole` digits before the point and fewer than `maxZeros` zeros follow it, else with an
exponent, before which a positive sign is written or not. -/
structure FloatFormat where
  maxWhole : Nat
  maxZeros : Nat
  exponentPlus : Bool

/-- The text of a double. -/
def FloatFormat.write (format : FloatFormat) (x : Binary64) : List Char :=
  let sign := if x.negative then ['-'] else []
  if x.isZero then sign ++ ['0', '.', '0']
  else
    let (n, tens) := Shortest.digits x
    let ds := Ascii.decimal n
    let point : Int := ds.length + tens
    sign ++
      if 0 ≤ tens && point ≤ format.maxWhole then
        ds ++ List.replicate tens.toNat '0' ++ ['.', '0']
      else if 0 < point && point ≤ format.maxWhole then
        ds.take point.toNat ++ ['.'] ++ ds.drop point.toNat
      else if -(format.maxZeros : Int) < point && point ≤ 0 then
        ['0', '.'] ++ List.replicate (-point).toNat '0' ++ ds
      else
        let power := point - 1
        let sign := if power < 0 then ['-'] else if format.exponentPlus then ['+'] else []
        let fraction := if ds.length ≤ 1 then [] else '.' :: ds.drop 1
        ds.take 1 ++ fraction ++ 'e' :: sign ++ Ascii.decimal power.natAbs

end Courier
