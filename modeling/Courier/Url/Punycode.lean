import Courier.Text.Ascii
/-
Punycode writes a text in ASCII letters, digits and hyphens. The ASCII
characters of the text come first, then a hyphen, then one number for each of
the others, in the order of their code points: how many places and code points
to go on from the one before. The digits of a number go up from its lowest,
and the first digit below its threshold is the last. The thresholds follow the
numbers, so that the usual ones are short.

The characters are put in one by one as their numbers are read (`decode?`).
-/
namespace Courier.Punycode

/-- The value of a digit: letters are 0 to 25, decimal digits 26 to 35. -/
def digit? (c : Char) : Option Nat :=
  if Ascii.isDigit c then some (c.toNat - 48 + 26)
  else if Ascii.isLetter c then some ((Ascii.lowerChar c).toNat - 97)
  else none

/-- The threshold of the digit at a position, counted in steps of 36 from 36. -/
def threshold (bias position : Nat) : Nat := min 26 (max 1 (position - bias))

/-- How often 35 fits into a number until at most 455 is left, in steps of 36, and what is left. -/
def settle (delta : Nat) : Nat × Nat :=
  if 455 < delta then
    let (steps, left) := settle (delta / 35)
    (steps + 36, left)
  else (0, delta)
termination_by delta
decreasing_by omega

/-- The bias after a number, given how many characters there are then. -/
def adapt (isFirst : Bool) (delta count : Nat) : Nat :=
  let delta := if isFirst then delta / 700 else delta / 2
  let (steps, left) := settle (delta + delta / count)
  steps + 36 * left / (left + 38)

/-- Weights of digits stay below this bound. -/
def weightBound : Nat := 4294967296

/-- The number in front of a text, and what follows it. -/
def readNumber? (bias : Nat) : Nat → Nat → List Char → Option (Nat × List Char)
  | _, _, [] => none
  | position, weight, c :: rest =>
    match digit? c with
    | none => none
    | some d =>
      let t := threshold bias position
      if d < t then some (d * weight, rest)
      else if weightBound ≤ weight * (36 - t) then none
      else
        (readNumber? bias (position + 36) (weight * (36 - t)) rest).map fun found =>
          (d * weight + found.1, found.2)

theorem length_of_readNumber? {bias : Nat} {text rest : List Char} {position weight n : Nat}
    (h : readNumber? bias position weight text = some (n, rest)) : rest.length < text.length := by
  induction text generalizing position weight n with
  | nil => simp [readNumber?] at h
  | cons c text ih =>
    simp only [readNumber?] at h
    split at h
    · simp at h
    · split at h
      · simp only [Option.some.injEq, Prod.mk.injEq] at h
        simp [h.2]
      · split at h
        · simp at h
        · obtain ⟨⟨n, rest'⟩, hf, he⟩ := Option.map_eq_some_iff.1 h
          simp only [Prod.mk.injEq] at he
          obtain ⟨-, rfl⟩ := he
          have := ih hf
          simp only [List.length_cons]
          omega

/-- Puts the characters that numbers stand for into a text. The next one has at least the code
point `least`, and if it has just that, at least the position `start`. -/
def insertAll? (bias least start : Nat) (label : List Char) (text : List Char) :
    Option (List Char) :=
  if text.isEmpty then some label
  else
    match h : readNumber? bias 36 1 text with
    | none => none
    | some (delta, rest) =>
      let count := label.length + 1
      let codePoint := least + (start + delta) / count
      let position := (start + delta) % count
      if codePoint.isValidChar then
        insertAll? (adapt (label.all (·.toNat < 128)) delta count) codePoint (position + 1)
          (label.insertIdx position (Char.ofNat codePoint)) rest
      else none
termination_by text.length
decreasing_by exact length_of_readNumber? h

/-- The text that an ASCII text stands for. -/
def decode? (text : List Char) : Option (List Char) :=
  let numbers := (text.reverse.takeWhile (· ≠ '-')).reverse
  let plain := text.take (text.length - numbers.length - 1)
  if plain.isEmpty then insertAll? 72 128 0 [] text else insertAll? 72 128 0 plain numbers

end Courier.Punycode
