import Courier.Text.Ascii
import Courier.Text.Split
/-
The media types that requests are labelled with, and the one that a file has
by the extension of its name.
-/
namespace Courier

inductive MediaType
  | json
  | form
  | plainText
  | octetStream
  deriving DecidableEq

namespace MediaType

def name : MediaType → String
  | json => "application/json"
  | form => "application/x-www-form-urlencoded"
  | plainText => "text/plain"
  | octetStream => "application/octet-stream"

/-- The extension of a file name: what follows its last dot, in lower case. -/
def extension (fileName : String) : String :=
  match Split.once? '.' fileName.toList.reverse with
  | some (last, _) => Ascii.lower (String.ofList last.reverse)
  | none => ""

/-- The media type of a file, by the extension of its name. -/
def ofFileName (fileName : String) : String :=
  match extension fileName with
  | "jpg" | "jpeg" => "image/jpeg"
  | "png" => "image/png"
  | "gif" => "image/gif"
  | "webp" => "image/webp"
  | "svg" => "image/svg+xml"
  | "pdf" => "application/pdf"
  | "txt" => "text/plain"
  | "html" | "htm" => "text/html"
  | "csv" => "text/csv"
  | "json" => "application/json"
  | "xml" => "application/xml"
  | "zip" => "application/zip"
  | "gz" => "application/gzip"
  | _ => "application/octet-stream"

end MediaType

end Courier
