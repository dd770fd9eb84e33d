import Courier.Url.Host
/-
URLs as the URL standard has them: a scheme, the credentials and the host of
an authority, a path, a query and a fragment. Every component is kept in the
escaped form in which it is written.
-/
namespace Courier

/-- A path is a list of segments, or the text after the colon of a URL such as `mailto:a@b`. -/
inductive UrlPath
  | rootless (text : String)
  | segments (list : List String)
  deriving DecidableEq

structure Url where
  scheme : String
  username : String
  password : String
  host : Option Host
  port : Option Nat
  path : UrlPath
  query : Option String
  fragment : Option String
  deriving DecidableEq

namespace Url

/-- Schemes whose URLs always have a host (but for `file`) and a path. -/
def isSpecialScheme (scheme : String) : Bool :=
  ["http", "https", "ws", "wss", "ftp", "file"].contains scheme

/-- The port that a URL of the scheme has when it names none. -/
def defaultPort? (scheme : String) : Option Nat :=
  if scheme = "http" || scheme = "ws" then some 80
  else if scheme = "https" || scheme = "wss" then some 443
  else if scheme = "ftp" then some 21
  else none

def isSpecial (u : Url) : Bool := isSpecialScheme u.scheme

/-- The port that a connection would use. -/
def effectivePort (u : Url) : Option Nat := u.port.or (defaultPort? u.scheme)

/-- The path as it is written. -/
def pathText (u : Url) : String :=
  match u.path with
  | .rootless text => text
  | .segments list => String.join (list.map ("/" ++ ·))

/-- The credentials before the host, with the at sign. -/
def userInfo (u : Url) : String :=
  if u.username.isEmpty && u.password.isEmpty then ""
  else u.username ++ (if u.password.isEmpty then "" else ":" ++ u.password) ++ "@"

/-- The authority with its slashes. A path that would be taken for one is kept apart by a dot
segment. -/
def authorityText (u : Url) : String :=
  match u.host with
  | some host =>
    "//" ++ u.userInfo ++ host.write ++
      match u.port with
      | some port => ":" ++ Ascii.showNat port
      | none => ""
  | none =>
    match u.path with
    | .segments ("" :: _ :: _) => "/."
    | _ => ""

/-- The path and the query, as a request line shows them. -/
def target (u : Url) : String :=
  u.pathText ++
    match u.query with
    | some query => "?" ++ query
    | none => ""

/-- The text of the URL. -/
def text (u : Url) : String :=
  u.scheme ++ ":" ++ u.authorityText ++ u.target ++
    match u.fragment with
    | some fragment => "#" ++ fragment
    | none => ""

end Url

end Courier
