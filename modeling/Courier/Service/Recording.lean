import Courier.Service
/-
The stage that records exchanges: the request as it was sent and, once it is
there, the response.
-/
namespace Courier

/-- Records every exchange with each of the recorders. -/
def recordingStage (recorders : List Recorder) : Stage := Service.above fun _ inner q => do
  let outcome ← inner q
  recorders.forM fun recorder => Run.effect (.record recorder q outcome.toOption)
  pure outcome

end Courier
