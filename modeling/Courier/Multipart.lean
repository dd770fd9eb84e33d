import Courier.Text.Utf8
import Courier.MediaType
/-
Multipart forms: parts between boundary lines. A part shows its name, its file
name, its media type and its further headers as they are, a blank line, and
its contents byte for byte.
-/
namespace Courier

structure Part where
  name : String
  contents : Bytes
  fileName : Option String
  mediaType : Option String
  headers : List (String × String)
  deriving DecidableEq

namespace Part

/-- A part of bare contents. -/
def ofBytes (name : String) (contents : Bytes) : Part := ⟨name, contents, none, none, []⟩

/-- A part that holds a text. -/
def ofText (name value : String) : Part := ofBytes name (Utf8.encode value)

/-- A part that holds a file; its media type goes by the extension. -/
def ofFile (name fileName : String) (contents : Bytes) : Part :=
  ⟨name, contents, some fileName, some (MediaType.ofFileName fileName), []⟩

/-- The line that names the part. -/
def disposition (p : Part) : String :=
  "Content-Disposition: form-data; name=\"" ++ p.name ++ "\"" ++
    match p.fileName with
    | some fileName => "; filename=\"" ++ fileName ++ "\""
    | none => ""

/-- The lines above the contents. -/
def headerLines (p : Part) : List String :=
  [p.disposition] ++ (p.mediaType.map ("Content-Type: " ++ ·)).toList ++
    p.headers.map fun header => header.1 ++ ": " ++ header.2

/-- A line with its line break. -/
def line (text : String) : Bytes := Utf8.encode text ++ [0x0D, 0x0A]

/-- The bytes of the part, a line break after its contents. -/
def bytes (p : Part) : Bytes :=
  p.headerLines.flatMap line ++ [0x0D, 0x0A] ++ p.contents ++ [0x0D, 0x0A]

end Part

namespace Multipart

/-- The media type of a multipart body, which names the boundary. -/
def mediaType (boundary : String) : String := "multipart/form-data; boundary=" ++ boundary

/-- What boundaries are made from: the nanoseconds of the second in which one is made, and how
many were made before it. -/
structure Stamp where
  nanoseconds : Nat
  earlier : Nat

/-- A number in hexadecimal digits, as many as it takes and at least `width`. -/
def hexDigits (width n : Nat) : List Char :=
  let digits := Nat.toDigits 16 n
  List.replicate (width - digits.length) '0' ++ digits

/-- The boundary with a stamp. -/
def boundary (stamp : Stamp) : String :=
  "VolleyBoundary" ++
    String.ofList (hexDigits 8 stamp.nanoseconds ++ hexDigits 4 stamp.earlier)

/-- The body that holds the parts between boundary lines. -/
def body (boundary : String) (parts : List Part) : Bytes :=
  (parts.flatMap fun p => Part.line ("--" ++ boundary) ++ p.bytes) ++
    Part.line ("--" ++ boundary ++ "--")

end Multipart

end Courier
