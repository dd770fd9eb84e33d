import Courier.Text.Utf8
/-
URL patterns, in which a star stands for any run of bytes. A pattern is
matched greedily: only the last star met is remembered, and when a later byte
does not fit, that star takes in one byte more. A pattern may begin anywhere
in the URL, as if a star stood before it.
-/
namespace Courier.Pattern

def star : UInt8 := 0x2A

/-- What comes of matching a pattern at one place. -/
inductive Attempt
  | finished (matched : Bool)
  | reachedStar (pattern text : Bytes)
  | mismatch
  deriving DecidableEq

/-- Matches byte by byte up to the end of the text, the next star or the first mismatch. -/
def attempt : (pattern text : Bytes) → Attempt
  | pattern, [] => .finished (pattern.all (· = star))
  | [], _ :: _ => .mismatch
  | p :: ps, t :: ts =>
    if p = star then .reachedStar ps (t :: ts)
    else if p = t then attempt ps ts
    else .mismatch

theorem length_of_reachedStar {pattern text p t : Bytes}
    (h : attempt pattern text = .reachedStar p t) : p.length < pattern.length := by
  fun_induction attempt pattern text with
  | case1 => simp at h
  | case2 => simp at h
  | case3 =>
    simp only [Attempt.reachedStar.injEq] at h
    simp [← h.1]
  | case4 _ _ _ _ ih => exact Nat.lt_succ_of_lt (ih h)
  | case5 => simp at h

/-- Matches what follows a star that may still take in bytes from the front of the text. -/
def afterStar (pattern text : Bytes) : Bool :=
  match reached : attempt pattern text with
  | .finished matched => matched
  | .reachedStar p t =>
    have := length_of_reachedStar reached
    afterStar p t
  | .mismatch =>
    match text with
    | [] => false
    | _ :: rest => afterStar pattern rest
termination_by (pattern.length, text.length)

/-- The pattern matches all of the text. -/
def matchesAll (pattern text : Bytes) : Bool :=
  match attempt pattern text with
  | .finished matched => matched
  | .reachedStar p t => afterStar p t
  | .mismatch => false

/-- The pattern with a star before it, unless there is one. -/
def loosened (pattern : Bytes) : Bytes :=
  if pattern.head? = some star then pattern else star :: pattern

/-- The pattern matches the text from some place in it on. -/
def matchesUrl (pattern url : String) : Bool :=
  matchesAll (loosened (Utf8.encode pattern)) (Utf8.encode url)

end Courier.Pattern
