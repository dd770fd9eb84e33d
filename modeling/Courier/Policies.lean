import Courier.StatusError
/-
Policies for the errors of failed responses. A policy holds the length to which
summaries are cut. It is held by handles, each of them made together with it or
as the copy of another one, and whatever holds it can change it for all: a
handle stands for the policy, not for the length that it had.
-/
namespace Courier

/-- The length of a policy unless something else is set. -/
def Truncation.defaultLength : Nat := 120

theorem Truncation.ofLength_defaultLength : ofLength defaultLength = default := rfl

/-- Policies and what holds them, both numbered in the order in which they were made. -/
structure Policies where
  /-- The length of each policy, zero for no truncation. -/
  lengths : List Nat
  /-- The policy that each handle stands for. -/
  handles : List Nat
  live : ∀ policy ∈ handles, policy < lengths.length

namespace Policies

/-- No policy was made yet. -/
def empty : Policies := ⟨[], [], by simp⟩

/-- The length of a policy; one that was not made yet has the default. -/
def length (p : Policies) (policy : Nat) : Nat := p.lengths[policy]?.getD Truncation.defaultLength

/-- Makes a policy and its first handle. -/
def make (p : Policies) : Policies where
  lengths := p.lengths ++ [Truncation.defaultLength]
  handles := p.handles ++ [p.lengths.length]
  live policy h := by
    rcases List.mem_append.1 h with h | h
    · simpa using Nat.lt_succ_of_lt (p.live policy h)
    · simp [List.mem_singleton.1 h]

/-- Makes another handle of the policy that a handle stands for. -/
def copy (p : Policies) (handle : Nat) : Policies where
  lengths := p.lengths
  handles := p.handles ++ p.handles[handle]?.toList
  live policy h := by
    rcases List.mem_append.1 h with h | h
    · exact p.live policy h
    · exact p.live policy (List.mem_of_getElem? (Option.mem_toList.1 h))

/-- Sets the length of the policy that a handle stands for. -/
def truncateAt (p : Policies) (handle length : Nat) : Policies :=
  match p.handles[handle]? with
  | none => p
  | some policy =>
    { lengths := p.lengths.set policy length
      handles := p.handles
      live := by simpa using p.live }

/-- Sets the default length again. -/
def truncate (p : Policies) (handle : Nat) : Policies :=
  p.truncateAt handle Truncation.defaultLength

/-- Has the whole body shown. -/
def dontTruncate (p : Policies) (handle : Nat) : Policies := p.truncateAt handle 0

/-- What is in force for those who hold a handle. -/
def truncation? (p : Policies) (handle : Nat) : Option Truncation :=
  p.handles[handle]?.map fun policy => Truncation.ofLength (p.length policy)

/-- The error that a response is to those who hold a handle, if it failed. -/
def raise? (p : Policies) (handle : Nat) (r : Response) : Option StatusError :=
  (p.truncation? handle).bind (StatusError.of? r)

/-! ## Calls -/

/-- What is done with policies. -/
inductive Call
  | make
  | copy (handle : Nat)
  | truncate (handle : Nat)
  | truncateAt (handle length : Nat)
  | dontTruncate (handle : Nat)
  | raise (handle : Nat) (r : Response)

/-- The policies after a call. -/
def step (p : Policies) : Call → Policies
  | .make => p.make
  | .copy handle => p.copy handle
  | .truncate handle => p.truncate handle
  | .truncateAt handle length => p.truncateAt handle length
  | .dontTruncate handle => p.dontTruncate handle
  | .raise _ _ => p

/-- The error that a call gives, if it gives one. -/
def reply (p : Policies) : Call → Option StatusError
  | .raise handle r => p.raise? handle r
  | _ => none

/-- What each call gives, one after another, and the policies after all of them. -/
def run (p : Policies) : List Call → List (Option StatusError) × Policies
  | [] => ([], p)
  | call :: calls =>
    let (replies, after) := (p.step call).run calls
    (p.reply call :: replies, after)

end Policies

end Courier
