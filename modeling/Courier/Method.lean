import Courier.Text.Ascii
/-
Request methods.
-/
namespace Courier

inductive Method
  | get
  | head
  | post
  | put
  | patch
  | delete
  | options
  deriving DecidableEq

namespace Method

def name : Method → String
  | get => "GET"
  | head => "HEAD"
  | post => "POST"
  | put => "PUT"
  | patch => "PATCH"
  | delete => "DELETE"
  | options => "OPTIONS"

/-- The method of a name in any case. -/
def ofName? (text : String) : Option Method :=
  [get, head, post, put, patch, delete, options].find? fun m => m.name == Ascii.upper text

/-- Data of these methods travels in the query. -/
def sendsDataAsQuery : Method → Bool
  | get | head => true
  | _ => false

/-- Sending the request twice means no more than sending it once. -/
def isIdempotent : Method → Bool
  | post | patch => false
  | _ => true

end Method

end Courier
