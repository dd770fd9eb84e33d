import Courier.Config
import Courier.Service
import Courier.Wire.Redirect
import Courier.Wire.Target
/-
The bundled transport: it sends requests over connections, follows redirects
within the time limit, writes the body to the sink and reports the transfer
statistics, whatever the outcome. Requests that ask for what it cannot do are
refused before anything is sent.
-/
namespace Courier.Wire

/-- A span of whole milliseconds as messages show it. -/
def showDuration (ms : Nat) : String :=
  if ms = 0 then "0ns"
  else if ms < 1000 then Ascii.showNat ms ++ "ms"
  else
    let thousandths := ((Ascii.decimal (1000 + ms % 1000)).drop 1).reverse.dropWhile (· = '0')
    let fraction := if thousandths.isEmpty then [] else '.' :: thousandths.reverse
    Ascii.showNat (ms / 1000) ++ String.ofList fraction ++ "s"

/-- The failure of a connection that broke before there was an answer. -/
def brokenOff : Failure := .connection ⟨.other, "client error (SendRequest)"⟩

/-- The kind of a failure to connect, by the words in which it is described. -/
def kindOfFailure (description : String) : ConnectionFailureKind :=
  let mentions := fun word : String => Request.occursIn word.toList description.toList
  if ["tls", "certificate", "handshake"].any mentions then .tls
  else if ["timed out", "timeout"].any mentions then .timeout
  else .connect

/-- The failure to connect under a scheme that is not spoken here. -/
def notSpoken (scheme : String) : ConnectionFailure :=
  ⟨kindOfFailure ("unsupported scheme " ++ scheme), "client error (Connect)"⟩

/-- A single exchange. A timeout of zero is no limit: the wait then lasts as long as the
connection. -/
def sendOnce (timeout : Nat) (w : WireRequest) : Act Outcome := do
  match Target.ofText w.url.text with
  | .error flaw => pure (.error (.invalidRequest (.target w.url.text flaw)))
  | .ok .nowhere =>
    pure (.error (.connection ⟨.other, "client error (UserAbsoluteUriRequired)"⟩))
  | .ok (.foreign scheme) => pure (.error (.connection (notSpoken scheme)))
  | .ok .server =>
    match ← Act.effect (.exchange w timeout) with
    | .answered r => pure (.ok r)
    | .lost f => pure (.error (.connection f))
    | .expired =>
      pure <| .error <|
        if timeout = 0 then brokenOff
        else .timedOut ("request timed out after " ++ showDuration timeout)

/-- A request as it is sent first; it names the user agent unless it does so already. -/
def firstRequest (c : Config) (q : Request) : WireRequest :=
  let headers :=
    match Header.value? c.userAgent with
    | some value => q.headers.insertDefault "user-agent" value
    | none => q.headers
  ⟨q.method, q.url, headers, q.body⟩

/-- Sends a request and follows redirects as far as they are allowed; `join` reads where they
lead. -/
def exchange (join : Url → String → Except UrlFlaw Url) (c : Config) (q : Request) :
    Act (Except Failure Arrival) := do
  let timeout := q.options.timeout.getD c.timeout
  let first := firstRequest c q
  match q.options.allowRedirects.getD (.follow c.maxRedirects) with
  | .follow max => follow join (sendOnce timeout) max max first
  | .disabled =>
    match ← sendOnce timeout first with
    | .ok r => pure (.ok ⟨r, q.url, 0⟩)
    | .error f => pure (.error f)

/-- Tells the listener of a request the statistics. -/
def report (q : Request) (stats : TransferStats) : Act Unit :=
  match q.options.onStats with
  | some listener => Act.note (.transferred listener stats)
  | none => pure ()

/-- The response of an arrival, delivered to the sink. -/
def deliver (q : Request) (a : Arrival) : Act Outcome := do
  let written ← match q.options.sink with
    | some sink => Act.effect (.writeSink sink a.response.body)
    | none => pure (.ok ())
  match written with
  | .error message => pure (.error (.sink message))
  | .ok () =>
    let stats : TransferStats := ⟨q.method, a.url, some a.response.status, a.redirects⟩
    report q stats
    pure (.ok (a.response.attachStats stats))

/-- Why a request is refused before it is sent, if it is. -/
def refusal? (o : Options) : Option RequestFlaw :=
  match o.auth, o.verify with
  | some (.digest _ _), _ => some .digestUnsupported
  | _, some false => some .unverifiedUnsupported
  | _, _ => none

/-- The bundled transport. -/
def transport (c : Config) : Transport := fun q => do
  match refusal? q.options with
  | some flaw => pure (.error (.invalidRequest flaw))
  | none =>
    match ← exchange Url.join c q with
    | .ok arrival => deliver q arrival
    | .error f => do
      report q ⟨q.method, q.url, none, 0⟩
      pure (.error f)

end Courier.Wire
