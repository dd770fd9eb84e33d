import Courier.World
/-
What may be expected of the recorded exchanges, and how an expectation that is
not met is reported.
-/
namespace Courier

inductive Unmet
  | notRecorded
  | unexpectedlyRecorded
  | wrongCount (expected recorded : Nat)
  | somethingSent
  | outOfOrder (index : Nat) (method : Method) (url : String)
  deriving DecidableEq

def Unmet.message : Unmet → String
  | notRecorded => "an expected request was not recorded"
  | unexpectedlyRecorded => "an unexpected request was recorded"
  | wrongCount expected recorded =>
    "expected " ++ Ascii.showNat expected ++ " requests to be sent, " ++ Ascii.showNat recorded ++
      " were"
  | somethingSent => "requests were sent unexpectedly"
  | outOfOrder index method url =>
    "request #" ++ Ascii.showNat index ++ " (" ++ method.name ++ " " ++ url ++
      ") was not sent in the expected order"

namespace Expect

/-- The exchanges that pass a test. -/
def recorded (history : List Recorded) (test : Request → Option Response → Bool) :
    List Recorded :=
  history.filter fun exchange => test exchange.request exchange.response

def sent (history : List Recorded) (test : Request → Option Response → Bool) :
    Except Unmet Unit :=
  if (recorded history test).isEmpty then .error .notRecorded else .ok ()

def notSent (history : List Recorded) (test : Request → Option Response → Bool) :
    Except Unmet Unit :=
  if (recorded history test).isEmpty then .ok () else .error .unexpectedlyRecorded

def sentCount (history : List Recorded) (count : Nat) : Except Unmet Unit :=
  if history.length = count then .ok () else .error (.wrongCount count history.length)

def nothingSent (history : List Recorded) : Except Unmet Unit :=
  if history.isEmpty then .ok () else .error .somethingSent

/-- The exchanges pass the tests one by one, the first of them counted as `index`. -/
def sentOneByOne (index : Nat) : List Recorded → List (Request → Bool) → Except Unmet Unit
  | exchange :: history, test :: tests =>
    if test exchange.request then sentOneByOne (index + 1) history tests
    else .error (.outOfOrder index exchange.request.method exchange.request.url.text)
  | _, _ => .ok ()

/-- There are as many exchanges as tests, and they pass them in order. -/
def sentInOrder (history : List Recorded) (tests : List (Request → Bool)) : Except Unmet Unit :=
  if history.length = tests.length then sentOneByOne 0 history tests
  else .error (.wrongCount tests.length history.length)

end Expect

end Courier
