import Courier.SortedMap
import Courier.Text.Split
import Courier.Text.Utf8
/-
A directory with files. A path goes through directories to a file: a dot stays
where it is, two dots go up, and every other name is that of a file, since no
directory lies in this one. Files above it are kept under the path to them.

* `Directory.read?_write`: what was written under a path is read under it.
-/
namespace Courier

/-- Why a path leads to no file that could be written. -/
inductive PathFlaw
  | missing
  | throughFile
  | directory
  | tooLong
  | nul
  deriving DecidableEq

def PathFlaw.message : PathFlaw → String
  | missing => "No such file or directory (os error 2)"
  | throughFile => "Not a directory (os error 20)"
  | directory => "Is a directory (os error 21)"
  | tooLong => "File name too long (os error 36)"
  | nul => "file name contained an unexpected NUL byte"

structure Directory where
  files : SortedMap Bytes

namespace Directory

def empty : Directory := ⟨.empty⟩

/-- The longest name in a path and the longest path, in bytes. -/
def maxNameLength : Nat := 255

def maxPathLength : Nat := 4095

/-- What a file is kept under: its name, with two dots for each directory it lies above. -/
def key (above : Nat) (name : List Char) : String :=
  String.ofList ((List.replicate above ['.', '.', '/']).flatten ++ name)

def isTooLong (limit : Nat) (text : List Char) : Bool :=
  limit < (String.ofList text).utf8ByteSize

/-- Goes on from a directory, given by how far above this one it is, to a directory. -/
def enter (d : Directory) (above : Nat) (name : List Char) : Except PathFlaw Nat :=
  if isTooLong maxNameLength name then .error .tooLong
  else if name = [] || name = ['.'] then .ok above
  else if name = ['.', '.'] then .ok (above + 1)
  else if (d.files.get? (key above name)).isSome then .error .throughFile
  else .error .missing

/-- What the file at a path is kept under. A path that ends in a slash is that of a directory. -/
def locate (d : Directory) (path : String) : Except PathFlaw String := do
  let names := Split.segments '/' path.toList
  let given := (names.reverse.dropWhile (·.isEmpty)).reverse
  if path.toList.contains '\x00' then .error .nul
  if isTooLong maxPathLength path.toList then .error .tooLong
  let above ← given.dropLast.foldlM d.enter 0
  let name := names.getLast?.getD []
  if isTooLong maxNameLength name then .error .tooLong
  if name = [] || name = ['.'] || name = ['.', '.'] then .error .directory
  .ok (key above name)

/-- Writes a file in place of what it held. -/
def write (d : Directory) (path : String) (bytes : Bytes) : Except PathFlaw Directory :=
  (d.locate path).map fun key => ⟨d.files.insert key bytes⟩

/-- The contents of a file. -/
def read? (d : Directory) (path : String) : Option Bytes :=
  (d.locate path).toOption.bind d.files.get?

/-- Whatever way there is through directories does not depend on the files. -/
theorem enter_eq_ok {d : Directory} {above reached : Nat} {name : List Char}
    (h : d.enter above name = .ok reached) (other : Directory) :
    other.enter above name = .ok reached := by
  revert h
  simp only [enter]
  split
  · simp
  · split
    · exact id
    · split
      · exact id
      · split <;> simp

theorem foldlM_enter_eq_ok {d : Directory} {names : List (List Char)} {above reached : Nat}
    (h : names.foldlM d.enter above = .ok reached) (other : Directory) :
    names.foldlM other.enter above = .ok reached := by
  induction names generalizing above with
  | nil => exact h
  | cons name rest ih =>
    rw [List.foldlM_cons] at h ⊢
    cases first : d.enter above name with
    | error flaw => rw [first] at h; cases h
    | ok next =>
      rw [first] at h
      rw [enter_eq_ok first other]
      exact ih h

theorem locate_eq_ok {d : Directory} {path key : String} (h : d.locate path = .ok key)
    (other : Directory) : other.locate path = .ok key := by
  simp only [locate] at h ⊢
  split at h
  · cases h
  · split at h
    · cases h
    · rename_i hnul hlong
      simp only [hnul, hlong]
      cases way : (((Split.segments '/' path.toList).reverse.dropWhile
          (·.isEmpty)).reverse.dropLast).foldlM d.enter 0 with
      | error flaw => rw [way] at h; cases h
      | ok above =>
        rw [way] at h
        rw [foldlM_enter_eq_ok way other]
        exact h

theorem read?_write {d d' : Directory} {path : String} {bytes : Bytes}
    (h : d.write path bytes = .ok d') : d'.read? path = some bytes := by
  simp only [write] at h
  cases found : d.locate path with
  | error flaw => rw [found] at h; cases h
  | ok key =>
    rw [found] at h
    cases h
    simp only [read?, locate_eq_ok found, Except.toOption, Option.bind_some]
    exact d.files.get?_insert_self key bytes

end Directory

end Courier
