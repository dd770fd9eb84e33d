/-
Sets of characters as runs of code points.
-/
namespace Courier

/-- First and last code point of each run, in increasing order. -/
abbrev Runs := List (Nat × Nat)

/-- Whether a run holds the code point of a character. -/
def Runs.hold (runs : Runs) (c : Char) : Bool :=
  runs.any fun run => run.1 ≤ c.toNat && c.toNat ≤ run.2

end Courier
