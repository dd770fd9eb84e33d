/-
Double-precision numbers as exact values: a sign, a significand below 2^53
and the exponent of its unit. Only finite numbers occur. The result of an
operation is the exact ratio of two natural numbers, rounded once to the
nearest double, a tie going to the even significand; a result that is too
large is no double at all.
-/
namespace Courier

/-- The number `± significand * 2^exponent`. Zero and the subnormal numbers have the exponent
-1074; any other significand is at least 2^52, so each value has one form. -/
structure Binary64 where
  negative : Bool
  significand : Nat
  exponent : Int
  deriving DecidableEq

namespace Binary64

def zero (negative : Bool) : Binary64 := ⟨negative, 0, -1074⟩

instance : Inhabited Binary64 := ⟨zero false⟩

def isZero (x : Binary64) : Bool := x.significand = 0

def neg (x : Binary64) : Binary64 := { x with negative := !x.negative }

/-- The nearest whole number to `num / den`, a tie going to the even one. -/
def roundHalfEven (num den : Nat) : Nat :=
  let q := num / den
  let r := num % den
  if 2 * r < den then q
  else if den < 2 * r then q + 1
  else if q % 2 = 0 then q else q + 1

/-- The ratio `num / den` counted in units of `2^exponent`. -/
def inUnits (num den : Nat) (exponent : Int) : Nat × Nat :=
  if exponent < 0 then (num * Nat.pow 2 (-exponent).toNat, den)
  else (num, den * Nat.pow 2 exponent.toNat)

/-- The exponent of the unit in which `num / den` has 53 binary digits, or that of the
subnormal numbers if it is larger. -/
def unitExponent (num den : Nat) : Int :=
  let guess : Int := (Nat.log2 num : Int) - Nat.log2 den - 52
  let counted := inUnits num den guess
  let exact := if counted.1 / counted.2 < Nat.pow 2 52 then guess - 1 else guess
  if exact < -1074 then -1074 else exact

/-- The double nearest to `± num / den`; none if that is beyond the largest. -/
def ofRatio (negative : Bool) (num den : Nat) : Option Binary64 :=
  if num = 0 then some (zero negative)
  else
    let exponent := unitExponent num den
    let counted := inUnits num den exponent
    let significand := roundHalfEven counted.1 counted.2
    let (significand, exponent) :=
      if significand = Nat.pow 2 53 then (Nat.pow 2 52, exponent + 1)
      else (significand, exponent)
    if 971 < exponent then none else some ⟨negative, significand, exponent⟩

/-- The magnitude as a ratio. -/
def ratio (x : Binary64) : Nat × Nat :=
  if x.exponent < 0 then (x.significand, Nat.pow 2 (-x.exponent).toNat)
  else (x.significand * Nat.pow 2 x.exponent.toNat, 1)

def mul (x y : Binary64) : Option Binary64 :=
  ofRatio (x.negative != y.negative) (x.ratio.1 * y.ratio.1) (x.ratio.2 * y.ratio.2)

/-- The quotient by a number other than zero. -/
def div (x y : Binary64) : Option Binary64 :=
  ofRatio (x.negative != y.negative) (x.ratio.1 * y.ratio.2) (x.ratio.2 * y.ratio.1)

/-- The double nearest to a natural number. -/
def ofNat? (n : Nat) : Option Binary64 := ofRatio false n 1

/-- The double nearest to a power of ten. -/
def powerOfTen? (n : Nat) : Option Binary64 := ofNat? (Nat.pow 10 n)

/-- The double divided by the largest power of ten that is a double. -/
def lowered (x : Binary64) : Option Binary64 := (powerOfTen? 308).bind x.div

/-- The double after so many such divisions; once it is zero it stays zero. -/
def loweredTimes : Nat → Binary64 → Option Binary64
  | 0, x => some x
  | n + 1, x => if x.isZero then some x else x.lowered.bind (loweredTimes n)

/-- A double scaled by a power of ten, in steps of at most 10^308 that each round. A decimal
number is read this way, so its last bit may differ from that of the nearest double. -/
def scaleByTen (x : Binary64) (exponent : Int) : Option Binary64 :=
  if x.isZero then some x
  else if 308 < exponent then none
  else if 0 ≤ exponent then (powerOfTen? exponent.toNat).bind x.mul
  else
    let steps := ((-exponent).toNat - 1) / 308
    let last := (-exponent).toNat - 308 * steps
    (x.loweredTimes steps).bind fun y => (powerOfTen? last).bind y.div

/-- The number `± significand * 10^exponent`, the significand rounded to a double first. -/
def ofDecimal (negative : Bool) (significand : Nat) (exponent : Int) : Option Binary64 :=
  match (ofNat? significand).bind (scaleByTen · exponent) with
  | none => none
  | some x => some { x with negative }

/-- Equal as numbers: both zeros are the same number. -/
def same (x y : Binary64) : Bool := x == y || (x.isZero && y.isZero)

end Binary64

end Courier
