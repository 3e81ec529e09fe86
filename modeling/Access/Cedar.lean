import Access.ProtocolProfile

/-! # The authorization policy

`cedar.rs`: the facts a Cedar policy set is asked about, and what is made of its answer. -/

namespace Access

structure AccessPolicyMetadata where
  bundleId : String
  bundleVersion : UInt64
  policySha256 : String
  deriving DecidableEq

structure AccessDecision where
  gate : String
  decision : String
  diagnostics : String
  policy : AccessPolicyMetadata
  deriving DecidableEq

inductive AccessPolicyError where
  | invalidPolicy (detail : String)
  | invalidRequest (detail : String)
  | denied (gate : String)
  | evaluation (gate detail : String)
  deriving DecidableEq, Repr

def AccessPolicyError.display : AccessPolicyError → String
  | invalidPolicy detail => "ACCESS authorization policy set is invalid: " ++ detail
  | invalidRequest detail => "ACCESS authorization request is invalid: " ++ detail
  | denied gate => "ACCESS authorization policy denied the request at gate " ++ gate
  | evaluation gate detail =>
    "ACCESS authorization evaluation failed at gate " ++ gate ++ ": " ++ detail

structure CedarPolicyEngine where
  policies : PolicySet
  metadata : AccessPolicyMetadata
  deriving DecidableEq

/-- The facts about a request, from verified credentials and readiness evidence. -/
def context (credentials : List VerifiedCredentialEvidence)
    (holderProofValid sessionAuthorized : Bool) (readiness : Option ReadinessEvidence)
    (readinessFresh : Bool) : CedarContext :=
  let hasProfile (name : String) := CedarValue.bool (credentials.any (·.profileId = name))
  let check (name : String) :=
    CedarValue.bool ((readiness.bind fun value => value.checks.lookup name).getD false)
  let rangeMm := (readiness.map fun value => value.rangeM.ceilMilli).getD Int64.maxValue
  let closingRateMmps :=
    (readiness.map fun value => value.closingRateMps.ceilMilli).getD Int64.maxValue
  [("registered_vehicle", hasProfile "registered-vehicle-v1"),
   ("docking_certified", hasProfile "idss-compatible-v1"),
   ("holder_proof_valid", .bool holderProofValid),
   ("session_authorized", .bool sessionAuthorized),
   ("readiness_fresh", .bool readinessFresh),
   ("initial_hold_confirmed", check "initial_hold_confirmed"),
   ("retreat_available", check "retreat_available"),
   ("relative_navigation_valid", check "relative_navigation_valid"),
   ("approach_corridor_clear", check "approach_corridor_clear"),
   ("closing_rate_within_limit", check "closing_rate_within_limit"),
   ("alignment_within_limit", check "alignment_within_limit"),
   ("capture_system_ready", check "capture_system_ready"),
   ("soft_capture_confirmed", check "soft_capture_confirmed"),
   ("latches_ready", check "latches_ready"),
   ("relative_motion_stable", check "relative_motion_stable"),
   ("range_mm", .long rangeMm),
   ("closing_rate_mmps", .long closingRateMmps)]

namespace CedarPolicyEngine

variable (cr : Crates)

def fromSource (bundleId : String) (bundleVersion : UInt64) (source : String) :
    Except AccessPolicyError CedarPolicyEngine := do
  let policies ← (cr.policySetFromStr source).mapError .invalidPolicy
  Except.failIf (cr.policySetIsEmpty policies)
    (.invalidPolicy "policy set must contain at least one policy")
  let policySha256 := "sha-256:" ++ Hex.encode (cr.sha256 source.asBytes)
  pure { policies, metadata := { bundleId, bundleVersion, policySha256 } }

/-- The question a policy set is asked. -/
def request (vehicleId action stationId : String) (facts : CedarContext) :
    Except AccessPolicyError CedarRequest := do
  let principal ← (cr.parseEntityUid "Vehicle" vehicleId).mapError .invalidRequest
  let action ← (cr.parseEntityUid "Action" action).mapError .invalidRequest
  let resource ← (cr.parseEntityUid "Station" stationId).mapError .invalidRequest
  let context ← (cr.contextFromJsonValue facts).mapError .invalidRequest
  (cr.requestNew principal action resource context).mapError .invalidRequest

def authorize (engine : CedarPolicyEngine) (gate vehicleId action stationId : String)
    (facts : CedarContext) : Except AccessPolicyError AccessDecision := do
  let request ← request cr vehicleId action stationId facts
  let response := cr.isAuthorized request engine.policies
  Except.failIf (response.errors ≠ []) (.evaluation gate response.diagnostics)
  Except.failIf (response.decision ≠ .allow) (.denied gate)
  pure { gate, decision := "allow", diagnostics := response.diagnostics,
         policy := engine.metadata }

def authorizeSession (engine : CedarPolicyEngine) (vehicleId stationId : String)
    (credentials : List VerifiedCredentialEvidence) (holderProofValid : Bool) :
    Except AccessPolicyError AccessDecision :=
  engine.authorize cr "initial_claims" vehicleId "authorize_session" stationId
    (context credentials holderProofValid false none false)

def authorizeTransition (engine : CedarPolicyEngine) (vehicleId stationId action : String)
    (credentials : List VerifiedCredentialEvidence)
    (holderProofValid sessionAuthorized : Bool) (readiness : ReadinessEvidence)
    (readinessFresh : Bool) : Except AccessPolicyError AccessDecision :=
  engine.authorize cr "stage_transition" vehicleId action stationId
    (context credentials holderProofValid sessionAuthorized (some readiness) readinessFresh)

end CedarPolicyEngine

end Access
