import Courier.Effect
/-
Following redirects. A redirect response leads to the URL in its location
header, read relative to the URL that was asked. Most redirects turn the
request into a plain `GET` without a body; those with status 307 and 308 keep
the method and the body, and `HEAD` stays `HEAD`.

A chain of redirects ends with the first response that is no redirect, or
fails when as many redirects as allowed have been followed.

How a location is read relative to a URL is up to `join`. The bundled transport
reads it with `Url.join`, which follows the URL standard but for hosts in other
scripts, see `Host.read`.
-/
namespace Courier

variable (join : Url → String → Except UrlFlaw Url)

namespace Redirect

/-- The statuses of redirects that are followed. -/
def isFollowed (status : Nat) : Bool := [301, 302, 303, 307, 308].contains status

/-- The method after a redirect. -/
def method (status : Nat) (m : Method) : Method :=
  if status = 307 || status = 308 then m
  else if m = .head then .head
  else .get

/-- The request that a redirect response leads to. -/
def next (w : WireRequest) (r : Response) : Except Failure WireRequest :=
  match r.header? "location" with
  | none => .error (.invalidRedirect "redirect response missing Location header")
  | some location =>
    match join w.url location with
    | .error flaw => .error (.invalidUrl flaw)
    | .ok url =>
      let m := method r.status w.method
      if m = w.method then .ok { w with url := url }
      else
        .ok ⟨m, url, (w.headers.erase "content-type").erase "content-length", []⟩

end Redirect

/-- The end of a chain: the last response, the URL it came from and the redirects before it. -/
structure Arrival where
  response : Response
  url : Url
  redirects : Nat

/-- Sends a request and follows up to `left` redirects of `max` in all; `send` is a single
exchange. -/
def follow (send : WireRequest → Act Outcome) (max : Nat) :
    (left : Nat) → WireRequest → Act (Except Failure Arrival)
  | left, w => do
    match ← send w with
    | .error f => pure (.error f)
    | .ok r =>
      if !Redirect.isFollowed r.status then pure (.ok ⟨r, w.url, max - left⟩)
      else
        match left with
        | 0 => pure (.error (.tooManyRedirects max max))
        | left + 1 =>
          match Redirect.next join w r with
          | .error f => pure (.error f)
          | .ok w => follow send max left w

end Courier
