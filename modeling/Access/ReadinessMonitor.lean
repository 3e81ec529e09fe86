import Access.BaselineController
import Access.Std.Floats

/-! # The readiness monitor

`readiness_monitor.py`: the evidence for the station, from the status that the controller publishes.
Floats are not rounded; times are nanoseconds. -/

namespace Access

/-- What is read of a message `docking_interfaces/DockingStatus`; the range may be any float. -/
structure StatusMessage where
  state : UInt8
  rangeM : JsonFloat
  transitionPending : Bool

/-- The message of the controller. -/
def StatusMessage.ofStatus (status : BaselineController.DockingStatus) : StatusMessage where
  state := status.state
  rangeM := .finite status.rangeM
  transitionPending := status.transitionPending

namespace ReadinessMonitor

open BaselineController (Stage)
open StationAccess (ReadinessMessage)

structure Monitor where
  scenario : String := "nominal"
  previousRange : Option JsonFloat := none
  previousTime : Option Int := none

def onScenario (data : String) (self : Monitor) : Monitor := { self with scenario := data }

/-- The rate at which the range became smaller since the previous status. -/
def closingRate (observedAt : Int) (status : StatusMessage) (self : Monitor) : JsonFloat :=
  match self.previousRange, self.previousTime with
  | some previousRange, some previousTime =>
    let elapsedS : ℚ := ((observedAt - previousTime : Int) : ℚ) / 10 ^ 9
    if 0 < elapsedS then
      JsonFloat.pyMax (.finite 0) ((previousRange.sub status.rangeM).divBy elapsedS)
    else .finite 0
  | _, _ => .finite 0

/-- `Time.to_msg`, which asserts that the seconds fit in 32 bits. -/
def toMsg (time : Int) : Option (Int32 × UInt32) :=
  let sec := time / 10 ^ 9
  if -2 ^ 31 ≤ sec ∧ sec < 2 ^ 31 then
    some (Int32.ofInt sec, UInt32.ofNat (time % 10 ^ 9).toNat)
  else none

/-- What is published, if the time of the observation can be; otherwise the handler raises. -/
def onStatus (observedAt : Int) (status : StatusMessage) (self : Monitor) :
    Option ReadinessMessage × Monitor :=
  let closingRate := closingRate observedAt status self
  let self := { self with previousRange := some status.rangeM, previousTime := some observedAt }
  let evidence := (toMsg observedAt).map fun (sec, nanosec) =>
    { sec
      nanosec
      rangeM := status.rangeM
      closingRateMps := closingRate
      initialHoldConfirmed :=
        status.state = Stage.hold.number ∧
          (status.rangeM.sub (.finite (332 / 100))).pyAbs.le (.finite (1 / 100)) ∧
          !status.transitionPending
      retreatAvailable := true
      relativeNavigationValid := status.rangeM.isFinite
      approachCorridorClear := self.scenario ≠ "corridor_violation"
      closingRateWithinLimit := closingRate.isFinite
      alignmentWithinLimit := true
      captureSystemReady := true
      softCaptureConfirmed := status.state = Stage.softCapture.number
      latchesReady := self.scenario ≠ "latch_not_ready"
      relativeMotionStable := closingRate.le (.finite (5 / 100)) }
  (evidence, self)

/-! ## Runs -/

/-- A message that is handled; a status at a time. -/
inductive MonitorCall where
  | scenario (data : String)
  | status (observedAt : Int) (status : StatusMessage)

/-- One message, and the evidence that is published; `none` after the handler raised. -/
def step (s : Option Monitor) (call : MonitorCall) : Option ReadinessMessage × Option Monitor :=
  match s, call with
  | none, _ => (none, none)
  | some self, .scenario data => (none, some (onScenario data self))
  | some self, .status observedAt status =>
    match onStatus observedAt status self with
    | (some evidence, self) => (some evidence, some self)
    | (none, _) => (none, none)

abbrev MonitorEvent := Run.Event (Option Monitor) MonitorCall (Option ReadinessMessage)

end ReadinessMonitor

end Access
