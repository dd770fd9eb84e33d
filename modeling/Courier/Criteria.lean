import Courier.Request
import Courier.Url.Pattern
/-
Criteria that requests and responses are picked by. All criteria that are
given must be met; where none is given everything is.
-/
namespace Courier

/-- Criteria on a request and the response to it. -/
structure ExchangeCriteria where
  method? : Option String
  path? : Option String
  url? : Option String
  pattern? : Option String
  text? : Option String
  /-- The name of a header, with its value if one is wanted. -/
  header? : Option (String × Option String)
  /-- The key of a member of the data, and its value. -/
  data? : Option (String × Json)
  /-- The status of the response, or that there is none. -/
  status? : Option (Option Nat)

/-- Criteria on a response. -/
structure ResponseCriteria where
  statuses? : Option (List Nat)
  serverError? : Option Bool
  clientError? : Option Bool
  text? : Option String
  header? : Option (String × String)

/-- A criterion is met, or not given. -/
def met {α : Type} (criterion? : Option α) (test : α → Bool) : Bool :=
  match criterion? with
  | some criterion => test criterion
  | none => true

/-- A text contains another. -/
def containsText (text part : String) : Bool := Request.occursIn part.toList text.toList

def ExchangeCriteria.accepts (c : ExchangeCriteria) (q : Request) (r? : Option Response) : Bool :=
  met c.method? (· == q.method.name) &&
  met c.path? (· == q.url.pathText) &&
  met c.url? (· == q.url.text) &&
  met c.pattern? (Pattern.matchesUrl · q.url.text) &&
  met c.text? (containsText q.text ·) &&
  met c.header? (fun header => q.hasHeader header.1 header.2) &&
  met c.data? (fun member =>
    match q.data.get? member.1 with
    | some value => value.same member.2
    | none => false) &&
  met c.status? (· == r?.map (·.status))

def ResponseCriteria.accepts (c : ResponseCriteria) (r : Response) : Bool :=
  met c.statuses? (·.contains r.status) &&
  met c.serverError? (· == r.serverError) &&
  met c.clientError? (· == r.clientError) &&
  met c.text? (containsText r.text ·) &&
  met c.header? (fun header => r.header? header.1 == some header.2)

end Courier
