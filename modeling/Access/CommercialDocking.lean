import Access.Cedar
import Access.Std.Policies

/-! # Commercial docking

`commercial-docking.cedar`, the policies of the waystation, over the facts of `context`. -/

namespace Access

def CedarValue.value : CedarValue → Policies.Value Int
  | .bool b => .bool b
  | .long i => .number i.toInt

/-- The facts of a context. -/
def CedarContext.facts (context : CedarContext) : Policies.Facts String Int :=
  fun name => (context.lookup name).map CedarValue.value

namespace CommercialDocking

open Policies

abbrev Condition := Expr String Int

abbrev Rule := Policy CedarRequest String Int

/-- `context.name` -/
def fact (name : String) : Condition := .fact name

/-- `context.name <= limit` -/
def atMost (name : String) (limit : Int) : Condition := .le (.fact name) (.lit (.number limit))

/-- `permit (principal is Vehicle, action == .., resource == Station::"waystation-1") when ..` -/
def permit (action : String) (condition : Condition) : Rule where
  effect := .permit
  scope request := request.principal.typeName = "Vehicle" && request.action = ⟨"Action", action⟩ &&
    request.resource = ⟨"Station", "waystation-1"⟩
  condition := condition

def authorizeCommercialSession : Rule :=
  permit "authorize_session" <| (fact "registered_vehicle").all
    [fact "docking_certified",
     fact "holder_proof_valid"]

def enterApproach : Rule :=
  permit "enter_approach" <| (fact "registered_vehicle").all
    [fact "holder_proof_valid",
     fact "readiness_fresh",
     fact "initial_hold_confirmed",
     fact "retreat_available",
     atMost "closing_rate_mmps" 600]

def enterFinalApproach : Rule :=
  permit "enter_final_approach" <| (fact "registered_vehicle").all
    [fact "docking_certified",
     fact "holder_proof_valid",
     fact "session_authorized",
     fact "readiness_fresh",
     fact "relative_navigation_valid",
     fact "approach_corridor_clear",
     fact "closing_rate_within_limit",
     atMost "closing_rate_mmps" 200,
     atMost "range_mm" 1120]

def engageSoftCapture : Rule :=
  permit "engage_soft_capture" <| (fact "docking_certified").all
    [fact "holder_proof_valid",
     fact "session_authorized",
     fact "readiness_fresh",
     fact "alignment_within_limit",
     fact "capture_system_ready",
     atMost "closing_rate_mmps" 100,
     atMost "range_mm" 320]

def engageHardDock : Rule :=
  permit "engage_hard_dock" <| (fact "docking_certified").all
    [fact "holder_proof_valid",
     fact "session_authorized",
     fact "readiness_fresh",
     fact "soft_capture_confirmed",
     fact "latches_ready",
     fact "relative_motion_stable",
     atMost "closing_rate_mmps" 50,
     atMost "range_mm" 40]

/-- `commercial-docking.cedar` -/
def policies : List Rule :=
  [authorizeCommercialSession, enterApproach, enterFinalApproach, engageSoftCapture, engageHardDock]

end CommercialDocking

end Access
