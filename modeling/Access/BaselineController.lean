import Mathlib.Algebra.Order.Field.Rat
import Access.ChaserAccess
import Access.StationAccess

/-! # The baseline controller

`baseline_controller.py`: the chaser is moved towards the goal of its stage by one pose request at a
time, and asks for the next stage when it is there. Its numbers are exact. A call to the pose
service is answered when a timer update finds it answered; times are nanoseconds. -/

namespace Access.BaselineController

open StationAccess (TransitionDecision)
open ChaserAccess (TransitionRequest)

/-- The constants of `DockingStatus` that the controller has as its state. -/
inductive Stage where
  | hold
  | approach
  | finalApproach
  | softCapture
  | hardDock
  deriving DecidableEq, Repr

def Stage.number : Stage → UInt8
  | .hold => 0
  | .approach => 1
  | .finalApproach => 2
  | .softCapture => 3
  | .hardDock => 4

/-- `GOAL_X` -/
def goalX : Stage → ℚ
  | .hold => -5
  | .approach => -279 / 100
  | .finalApproach => -199 / 100
  | .softCapture => -171 / 100
  | .hardDock => -168 / 100

/-- `MAX_STAGE_SPEED_MPS` -/
def maxStageSpeedMps : Stage → ℚ
  | .hold => 0
  | .approach => 18 / 100
  | .finalApproach => 8 / 100
  | .softCapture => 2 / 100
  | .hardDock => 1 / 100

/-- `NEXT_STATE` -/
def nextState : Stage → Option Stage
  | .hold => some .approach
  | .approach => some .finalApproach
  | .finalApproach => some .softCapture
  | .softCapture => some .hardDock
  | .hardDock => none

/-- `STATE_NAME` -/
def stateName : Stage → String
  | .hold => "HOLD"
  | .approach => "APPROACH"
  | .finalApproach => "FINAL_APPROACH"
  | .softCapture => "SOFT_CAPTURE"
  | .hardDock => "HARD_DOCK"

structure Parameters where
  updateRateHz : ℚ := 20
  approachSpeedMps : ℚ := 6 / 10
  restartDelayS : ℚ := 3
  initialDelayS : ℚ := 0
  decisionTimeoutS : ℚ := 5

/-- A message `docking_interfaces/DockingStatus`. -/
structure DockingStatus where
  stamp : Int
  state : UInt8
  rangeM : ℚ
  transitionPending : Bool
  detail : String

/-- What the node sends: its two topics, and the requests to the pose service, of which only the
position along the axis differs. -/
inductive Sent where
  | status (message : DockingStatus)
  | transitionRequest (message : TransitionRequest)
  | setPose (x : ℚ)

/-- `_pose_call`, with the `_pending_x` that is assigned and cleared together with it. -/
structure PoseCall where
  pendingX : ℚ

structure Controller where
  state : Stage := .hold
  x : ℚ := goalX .hold
  pending : Bool := false
  requestTime : Option Int := none
  poseCall : Option PoseCall := none
  resetRequested : Bool := false
  resetPosePending : Bool := false
  startAfterReset : Bool := false
  halted : Bool := true
  resumeTime : Option Int := none

/-- `rclpy.duration.Duration(seconds=..)`, which drops what is less than a nanosecond. -/
def duration (seconds : ℚ) : Int :=
  (seconds * 10 ^ 9).num.tdiv (seconds * 10 ^ 9).den

def Controller.init (p : Parameters) (now : Int) : Controller :=
  { resumeTime := if 0 < p.initialDelayS then some (now + duration p.initialDelayS) else none }

/-! ## Messages -/

def requestReset (startAfterReset : Bool) (self : Controller) : Controller :=
  { self with
    resetRequested := true
    startAfterReset
    halted := !startAfterReset
    pending := false
    requestTime := none
    resumeTime := none }

def onReset : Controller → Controller := requestReset true

def onPrepare : Controller → Controller := requestReset false

def onDecision (decision : TransitionDecision) (self : Controller) : Controller :=
  if !self.pending then self
  else
    let self :=
      match nextState self.state with
      | some requested =>
        if decision.approved ∧ decision.resultingState = requested.number then
          { self with state := requested }
        else { self with halted := true }
      | none => { self with halted := true }
    { self with pending := false, requestTime := none }

/-! ## The timer -/

/-- What a timer update finds of the call in flight: no answer yet, a response, or an exception. -/
inductive PoseOutcome where
  | waiting
  | success
  | rejected
  | failed
  deriving DecidableEq, Repr

/-- What a timer update finds: its readings of the clock, in the order it makes them, and the state
of the pose service. -/
structure Tick where
  checked : Int
  settled : Int
  stamped : Int
  resumed : Int
  requested : Int
  serviceIsReady : Bool
  outcome : PoseOutcome

def requestTransition (tick : Tick) (self : Controller) : Controller × List Sent :=
  match nextState self.state with
  | none => (self, [])
  | some requested =>
    ({ self with pending := true, requestTime := some tick.requested },
      [.transitionRequest
        { requestedState := requested.number
          requester := "baseline_controller"
          reason := "range condition met for " ++ stateName requested }])

/-- The call in flight was answered. -/
def settlePose (p : Parameters) (tick : Tick) (call : PoseCall) (self : Controller) : Controller :=
  let self :=
    match tick.outcome with
    | .success =>
      let self := { self with x := call.pendingX }
      if self.resetPosePending then
        { self with
          state := .hold
          resumeTime :=
            if self.startAfterReset then some (tick.settled + duration p.restartDelayS) else none }
      else self
    | .rejected =>
      if self.resetPosePending then { self with resetRequested := true } else self
    | .failed | .waiting => self
  { self with resetPosePending := false, poseCall := none }

/-- `math.copysign`; a difference of equal numbers is a positive zero. -/
def copysign (x y : ℚ) : ℚ := if y < 0 then -|x| else |x|

/-- The longest way of one update. -/
def stepLength (p : Parameters) (state : Stage) : ℚ :=
  min p.approachSpeedMps (maxStageSpeedMps state) / p.updateRateHz

def nextX (p : Parameters) (self : Controller) : ℚ :=
  let goal := goalX self.state
  self.x + copysign (min |goal - self.x| (stepLength p self.state)) (goal - self.x)

/-- The next request, with no call in flight. -/
def sendPose (p : Parameters) (self : Controller) : Controller × List Sent :=
  if self.resetRequested then
    ({ self with
        poseCall := some { pendingX := goalX .hold }
        resetRequested := false
        resetPosePending := true },
      [.setPose (goalX .hold)])
  else
    ({ self with poseCall := some { pendingX := nextX p self } }, [.setPose (nextX p self)])

def advancePose (p : Parameters) (tick : Tick) (self : Controller) : Controller × List Sent :=
  if !tick.serviceIsReady then (self, [])
  else
    match self.poseCall with
    | none => sendPose p self
    | some call =>
      if tick.outcome = .waiting then (self, []) else sendPose p (settlePose p tick call self)

def publishStatus (tick : Tick) (self : Controller) : Sent :=
  .status
    { stamp := tick.stamped
      state := self.state.number
      rangeM := max 0 (-168 / 100 - self.x)
      transitionPending := self.pending
      detail := stateName self.state }

def expireRequest (p : Parameters) (tick : Tick) (self : Controller) : Controller :=
  match self.requestTime with
  | some requestTime =>
    if self.pending ∧ p.decisionTimeoutS < ((tick.checked - requestTime : Int) : ℚ) / 10 ^ 9 then
      { self with halted := true, pending := false, requestTime := none }
    else self
  | none => self

/-- The end of an update, once the time to resume has come. -/
def requestAtGoal (tick : Tick) (goal : ℚ) (self : Controller) : Controller × List Sent :=
  if |goal - self.x| < 1 / 10 ^ 6 ∧ !self.pending ∧ !self.halted then requestTransition tick self
  else (self, [])

def finishUpdate (tick : Tick) (goal : ℚ) (self : Controller) : Controller × List Sent :=
  match self.resumeTime with
  | some resumeTime =>
    if tick.resumed < resumeTime then (self, [])
    else requestAtGoal tick goal { self with resumeTime := none }
  | none => requestAtGoal tick goal self

def update (p : Parameters) (tick : Tick) (self : Controller) : Controller × List Sent :=
  let self := expireRequest p tick self
  let goal := goalX self.state
  let (self, poses) := advancePose p tick self
  if self.resetRequested ∨ self.resetPosePending then (self, poses)
  else
    let status := publishStatus tick self
    let (self, requests) := finishUpdate tick goal self
    (self, poses ++ status :: requests)

/-! ## Runs -/

/-- What the node's executor hands it: `run` and `reset` are two topics with one handler. -/
inductive Input where
  | update (tick : Tick)
  | decision (decision : TransitionDecision)
  | reset
  | run (data : String)
  | prepare

def step (p : Parameters) (self : Controller) : Input → List Sent × Controller
  | .update tick => let (self, sent) := update p tick self; (sent, self)
  | .decision decision => ([], onDecision decision self)
  | .reset | .run _ => ([], onReset self)
  | .prepare => ([], onPrepare self)

abbrev ControllerEvent := Run.Event Controller Input (List Sent)

end Access.BaselineController
