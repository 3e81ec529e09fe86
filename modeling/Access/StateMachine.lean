import Mathlib.Tactic.Common

/-! # The docking state machine

`reduce` of `state_machine.rs`. Apart from an abort, a transition goes one stage forward, and each
stage from `finalApproach` on needs one flag of the authorization context. -/

namespace Access

inductive DockingState where
  | hold
  | approach
  | finalApproach
  | softCapture
  | hardDock
  | aborted
  deriving DecidableEq, Repr

inductive DockingEvent where
  | beginApproach
  | enterFinalApproach
  | engageSoftCapture
  | engageHardDock
  | abort
  deriving DecidableEq, Repr

structure AuthorizationContext where
  identityVerified : Bool := false
  sessionAuthorized : Bool := false
  dockingAuthorized : Bool := false
  deriving DecidableEq, Repr

inductive TransitionError where
  | invalidTransition
  | identityRequired
  | sessionRequired
  | dockingAuthorizationRequired
  deriving DecidableEq, Repr

def TransitionError.display : TransitionError → String
  | invalidTransition => "event is invalid from the current docking state"
  | identityRequired => "verified identity is required for final approach"
  | sessionRequired => "authorized session is required for soft capture"
  | dockingAuthorizationRequired => "docking authorization is required for hard dock"

def reduce (state : DockingState) (event : DockingEvent) (authorization : AuthorizationContext) :
    Except TransitionError DockingState :=
  if event = .abort then .ok .aborted else
  match state, event with
  | .hold, .beginApproach => .ok .approach
  | .approach, .enterFinalApproach =>
    if authorization.identityVerified then .ok .finalApproach else .error .identityRequired
  | .finalApproach, .engageSoftCapture =>
    if authorization.sessionAuthorized then .ok .softCapture else .error .sessionRequired
  | .softCapture, .engageHardDock =>
    if authorization.dockingAuthorized then .ok .hardDock
    else .error .dockingAuthorizationRequired
  | _, _ => .error .invalidTransition

/-- The number a state has outside the engine. -/
def stateNumber : DockingState → UInt8
  | .hold => 0
  | .approach => 1
  | .finalApproach => 2
  | .softCapture => 3
  | .hardDock => 4
  | .aborted => 5

end Access
