/-
Splitting a list at a separator. There is always at least one segment, and
joining the segments with the separator gives the list back.
-/
namespace Courier.Split

variable {α : Type} [DecidableEq α]

/-- The segments between the separators. -/
def segments (separator : α) : List α → List (List α)
  | [] => [[]]
  | a :: rest =>
    if a = separator then [] :: segments separator rest
    else
      match segments separator rest with
      | [] => [[a]]
      | first :: others => (a :: first) :: others

/-- What stands before the first separator and what stands after it, if there is one. -/
def once? (separator : α) : List α → Option (List α × List α)
  | [] => none
  | a :: rest =>
    if a = separator then some ([], rest)
    else (once? separator rest).map fun parts => (a :: parts.1, parts.2)

/-- The segments with the separator between them. -/
def join (separator : List α) : List (List α) → List α
  | [] => []
  | [segment] => segment
  | segment :: others => segment ++ separator ++ join separator others

theorem segments_ne_nil (separator : α) (l : List α) : segments separator l ≠ [] := by
  cases l with
  | nil => simp [segments]
  | cons a rest =>
    simp only [segments]
    split
    · simp
    · split <;> simp

theorem join_segments (separator : α) (l : List α) :
    join [separator] (segments separator l) = l := by
  induction l with
  | nil => rfl
  | cons a rest ih =>
    simp only [segments]
    split
    · rename_i h
      cases hs : segments separator rest with
      | nil => exact absurd hs (segments_ne_nil separator rest)
      | cons first others =>
        rw [hs] at ih
        simp only [join, List.nil_append, ih, List.singleton_append, h]
    · cases hs : segments separator rest with
      | nil => exact absurd hs (segments_ne_nil separator rest)
      | cons first others =>
        rw [hs] at ih
        cases others with
        | nil => simp_all [join]
        | cons second more => simp_all [join]

end Courier.Split
