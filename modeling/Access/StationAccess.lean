import Access.AuthorityClient

/-! # The station's node

`station_access.py`. A handler may raise; what it assigned and published before that stays. Of the
status that the node publishes for display, only what can raise is modelled. -/

namespace Access.StationAccess

open Python

/-- The keys of `SCENARIOS`. -/
def scenarios : List String :=
  ["nominal", "expired_credential", "corridor_violation", "latch_not_ready"]

/-! ## Messages -/

/-- A message `docking_interfaces/ReadinessEvidence`. -/
structure ReadinessMessage where
  sec : Int32
  nanosec : UInt32
  rangeM : JsonFloat
  closingRateMps : JsonFloat
  initialHoldConfirmed : Bool
  retreatAvailable : Bool
  relativeNavigationValid : Bool
  approachCorridorClear : Bool
  closingRateWithinLimit : Bool
  alignmentWithinLimit : Bool
  captureSystemReady : Bool
  softCaptureConfirmed : Bool
  latchesReady : Bool
  relativeMotionStable : Bool

/-- A message `docking_interfaces/TransitionDecision`. -/
structure TransitionDecision where
  approved : Bool
  previousState : UInt8
  resultingState : UInt8
  authority : String
  reason : String
  grantId : String
  grantExpiresAtS : Int64
  signedGrantHex : String
  authorizationPolicyBundleId : String
  authorizationPolicyBundleVersion : UInt64
  authorizationPolicySha256 : String
  deriving DecidableEq

/-! ### Assignments to a field of a message

They assert the type and the range of the field. A Boolean is an integer. -/

def assignBool : Json → Except Error Bool
  | .bool b => .ok b
  | _ => .error { kind := .assertion }

def assignText : Json → Except Error String
  | .str s => .ok s
  | _ => .error { kind := .assertion }

def assignInt (first last : Int) : Json → Except Error Int
  | .bool b => .ok b.toNat
  | .int n => if first ≤ n ∧ n ≤ last then .ok n else .error { kind := .assertion }
  | _ => .error { kind := .assertion }

def assignUInt8 (x : Json) : Except Error UInt8 :=
  (assignInt 0 255 x).map fun n => UInt8.ofNat n.toNat

def assignUInt64 (x : Json) : Except Error UInt64 :=
  (assignInt 0 18446744073709551615 x).map fun n => UInt64.ofNat n.toNat

def assignInt64 (x : Json) : Except Error Int64 :=
  (assignInt (-9223372036854775808) 9223372036854775807 x).map Int64.ofInt

/-! ## The node -/

/-- The value of `_readiness`. -/
structure Readiness where
  observedAtMs : Int
  rangeM : JsonFloat
  closingRateMps : JsonFloat
  checks : List (String × Bool)

def Readiness.toJson (readiness : Readiness) : Json :=
  .obj
    [("observed_at_ms", .int readiness.observedAtMs),
     ("range_m", .float readiness.rangeM),
     ("closing_rate_mps", .float readiness.closingRateMps),
     ("checks", .obj (readiness.checks.map fun check => (check.1, .bool check.2)))]

structure StationNode where
  state : Json := .int 0
  scenarioId : String := "nominal"
  completedSteps : List Json := []
  sessionId : Json := .null
  protocolProfileId : Json := .null
  protocolProfileVersion : Json := .null
  protocolProfile : Json := .null
  sessionReady : Bool := false
  sessionDenialReason : Option String := none
  readiness : Option Readiness := none

/-- `_clear_runtime_state` -/
def StationNode.clearRuntimeState (self : StationNode) : StationNode where
  scenarioId := self.scenarioId
  protocolProfile := self.protocolProfile

/-- What a handler publishes: decisions, with the node at that moment, and the payloads of messages
on `/access/station_to_chaser`; the earliest first. -/
structure Published where
  decisions : List (TransitionDecision × StationNode) := []
  messages : List Json := []

/-- A node in a handler, with its end of the authority. -/
structure StationHost (A : Type) where
  node : StationNode
  authority : A
  published : Published := {}

abbrev StationM (A : Type) := EStateM Error (StationHost A)

def authorityPart : EStateM.Part (StationHost A) A where
  get s := s.authority
  set authority s := { s with authority }

/-- Assigns to fields of the node. -/
def assign (f : StationNode → StationNode) : StationM A PUnit :=
  modify fun s => { s with node := f s.node }

/-- A computation without effects. -/
def eval (x : Except Error α) : StationM A α := EStateM.ofExcept id x

/-- A publication. -/
def publish (f : StationNode → Published → Published) : StationM A PUnit :=
  modify fun s => { s with published := f s.node s.published }

/-! ## Display -/

def displayEvent (event outcome : Json) : Except Error Unit := do
  toDict event
  let _ ← get event "message_type"
  let code ← item event "code"
  let _ ← item event "detail"
  hash code
  if truthy outcome then
    let _ ← get outcome "session_id"
  let source ← get event "from"
  if truthy source then
    let _ ← asText source
  let target ← get event "to"
  if truthy target then
    let _ ← asText target

/-- The events of a reply. -/
def displayEvents (reply : Json) : Except Error Unit := do
  (← iter (← item reply "events")).forM (displayEvent · reply)

def recordProtocolEvent (payload : Json) : Except Error Unit := do
  let _ ← get payload "kind"

/-- `next((item for item in rules if item["rule_id"] == rule_id), None)` -/
def findRule (ruleId : Json) : List Json → Except Error (Option Json)
  | [] => pure none
  | rule :: rules => do
    if eq (← item rule "rule_id") ruleId then pure (some rule) else findRule ruleId rules

def recordAuthorizationAssessment (self : StationNode) (outcome : Json) : Except Error Unit := do
  let ruleId ← get outcome "rule_id"
  let rules ← if truthy self.protocolProfile then get self.protocolProfile "stage_rules" (.arr [])
    else pure (.arr [])
  let some rule ← findRule ruleId (← iter rules) | pure ()
  let reason ← item outcome "reason"
  let authorizationDecision := or (← get outcome "authorization_decision") (.obj [])
  let authorizationPolicy := or (← get authorizationDecision "policy") (.obj [])
  let _ ← Except.okOr self.readiness { kind := .type }
  let maximumAgeMs ← item (← item rule "readiness") "maximum_age_ms"
  let _ ← asText reason
  let _ ← get rule "maximum_proof_age_s"
  -- `evidence_age_ms <= maximum_age_ms`
  let _ ← Except.okOr (number? maximumAgeMs) { kind := .type }
  let _ ← get authorizationPolicy "bundle_id"
  let _ ← item rule "action"
  let _ ← get authorizationDecision "decision"
  let _ ← item rule "entitlement_ttl_s"
  if truthy (← item outcome "approved") then
    let _ ← item outcome "grant_id"
  let _ ← item rule "from_stage"
  let _ ← item rule "to_stage"

def publishStatus (self : StationNode) : Except Error Unit := do
  let trustBundle ← get (or self.protocolProfile (.obj [])) "trust_bundle"
  Except.failIf (self.scenarioId ∉ scenarios) { kind := .key }
  if truthy self.protocolProfile then
    unless truthy self.protocolProfileId do
      let _ ← item self.protocolProfile "profile_id"
    unless truthy self.protocolProfileVersion do
      let _ ← item self.protocolProfile "profile_version"
  if truthy trustBundle then
    let _ ← get trustBundle "bundle_id"

/-! ## Publications -/

def publishStationProtocol (payload : Json) : StationM A Unit := do
  eval (recordProtocolEvent payload)
  publish fun _ published => { published with messages := published.messages ++ [payload] }

/-- A message of the station to the chaser. -/
def stationMessage (kind : String) (fields : List (String × Json)) : Json :=
  .obj
    ([("protocol_version", .str "1.0"), ("kind", .str kind), ("from", .str "WAYSTATION-1"),
      ("to", .str "ODYSSEY-7")] ++ fields ++ [("secure_transport_assumed", .bool true)])

/-- The assignments to a decision. -/
def transitionDecision (outcome approved previous resulting reason grantId : Json) :
    Except Error TransitionDecision := do
  let approved ← assignBool approved
  let previousState ← assignUInt8 previous
  let resultingState ← assignUInt8 resulting
  let reason ← assignText reason
  let grantId ← assignText grantId
  let grantExpiresAtS ← assignInt64 (or (← get outcome "grant_expires_at_s") (.int 0))
  let signedGrantHex ← assignText (or (← get outcome "signed_grant_hex") (.str ""))
  let authorizationDecision := or (← get outcome "authorization_decision") (.obj [])
  let policy := or (← get authorizationDecision "policy") (.obj [])
  let authorizationPolicyBundleId ← assignText (← get policy "bundle_id" (.str ""))
  let authorizationPolicyBundleVersion ← assignUInt64 (← get policy "bundle_version" (.int 0))
  let authorizationPolicySha256 ← assignText (← get policy "policy_sha256" (.str ""))
  pure
    { approved, previousState, resultingState, authority := "waystation-1", reason, grantId,
      grantExpiresAtS, signedGrantHex, authorizationPolicyBundleId,
      authorizationPolicyBundleVersion, authorizationPolicySha256 }

/-- The publication of a decision, the same for a request and for a presentation. -/
def publishDecision (outcome approved previous reason grantId : Json) :
    StationM A TransitionDecision := do
  let node := (← get).node
  let decision ← eval (transitionDecision outcome approved previous node.state reason grantId)
  publish fun node published =>
    { published with decisions := published.decisions ++ [(decision, node)] }
  pure decision

/-- `session_authorized` or `session_denied`, `authorization_grant`, `transition_decision`. -/
def sessionAuthorized (self : StationNode) : Json :=
  stationMessage "session_authorized"
    [("session_id", self.sessionId),
     ("protocol_profile_id", self.protocolProfileId),
     ("protocol_profile_version", self.protocolProfileVersion)]

def sessionDenied (reason : String) : Json :=
  stationMessage "session_denied" [("reason", .str reason)]

/-! ## Handlers -/

section

variable (client : Json → EStateM Error A Json)

/-- The `try` block of `_handle_access_request` after the request. -/
def recordSession (session : Json) : StationM A Unit := do
  let _ ← eval (Python.get session "session_id")
  eval (do len (← Python.get session "events" (.arr [])))
  eval (displayEvents session)
  let completedSteps ← eval (do (← iter (← item session "events")).mapM (item · "code"))
  assign fun node => { node with completedSteps }
  let sessionId ← eval (item session "session_id")
  assign fun node => { node with sessionId }
  let protocolProfileId ← eval (item session "protocol_profile_id")
  assign fun node => { node with protocolProfileId }
  let protocolProfileVersion ← eval (item session "protocol_profile_version")
  assign fun node =>
    { node with protocolProfileVersion, sessionReady := true, sessionDenialReason := none }
  publishStationProtocol (sessionAuthorized (← get).node)

/-- The `try` block of `_handle_access_request`. -/
def establish : StationM A Unit := do
  let node := (← get).node
  let session ← authorityPart.run id <|
    client (.obj [("command", .str "establish"), ("scenario", .str node.scenarioId)])
  recordSession session

/-- The `except` block of `_handle_access_request`. -/
def denySession (error : Error) : StationM A Unit := do
  let reason := if contains error.text "credential is not currently valid" then
    "DENY_CREDENTIAL_EXPIRED" else "DENY_ACCESS_SESSION_UNAVAILABLE"
  assign fun node => { node with sessionReady := false, sessionDenialReason := some reason }
  publishStationProtocol (sessionDenied reason)

/-- `if payload.get("scenario_id") in SCENARIOS: self._scenario_id = payload["scenario_id"]` -/
def setScenario (payload : Json) : StationM A Unit := do
  let scenario ← eval (Python.get payload "scenario_id")
  eval (hash scenario)
  match scenario with
  | .str name =>
    if name ∈ scenarios then assign fun node => { node with scenarioId := name } else pure ()
  | _ => pure ()

def status : StationM A Unit := do eval (publishStatus (← get).node)

def handleAccessRequest (payload : Json) : StationM A Unit := do
  setScenario payload
  match ← EStateM.attempt [.os, .runtime, .value] (establish client) with
  | .ok () => pure ()
  | .error error => denySession error
  status

/-- What the `try` blocks for a transition and a redemption catch. -/
def caught : List ErrorKind := [.os, .runtime, .value, .key]

/-- The `try` block of `_handle_transition_request` until the outcome is assigned. -/
def requestTransition (requestedState : Int) : StationM A Json := do
  let node := (← get).node
  EStateM.failIf (node.sessionReady = false)
    { kind := .runtime, text := "ACCESS session is not authorized" }
  let readiness ← EStateM.okOr node.readiness
    { kind := .runtime, text := "station-local readiness evidence is unavailable" }
  authorityPart.run id <| client <| .obj
    [("command", .str "transition"),
     ("requested_state", .int requestedState),
     ("readiness", readiness.toJson)]

def authorizationGrant (self : StationNode) (outcome reason : Json) (requestedState : Int) :
    Except Error Json := do
  let grantId ← item outcome "grant_id"
  let grantExpiresAtS ← item outcome "grant_expires_at_s"
  let signedGrantHex ← item outcome "signed_grant_hex"
  pure <| stationMessage "authorization_grant"
    [("session_id", self.sessionId),
     ("approved", .bool true),
     ("reason", reason),
     ("requested_state", .int requestedState),
     ("authority_id", .str "waystation-1"),
     ("grant_id", grantId),
     ("grant_expires_at_s", grantExpiresAtS),
     ("signed_grant_hex", signedGrantHex)]

/-- The rest of that block. A grant that was published ends the handler; otherwise there are the
values of `approved` and `reason`. -/
def settleTransition (requestedState : Int) (outcome : Json) :
    StationM A (Option (Json × Json)) := do
  let approved ← eval (item outcome "approved")
  let reason ← eval (item outcome "reason")
  eval (displayEvents outcome)
  eval (recordAuthorizationAssessment (← get).node outcome)
  if truthy approved then
    EStateM.failIf (requestedState ∉ [1, 2, 3, 4]) { kind := .key }
    let _ ← eval (item outcome "grant_id")
    let _ ← eval (item outcome "entitlement_ttl_s")
    let _ ← eval (item outcome "rule_id")
    let grant ← eval (authorizationGrant (← get).node outcome reason requestedState)
    publishStationProtocol grant
    status
    pure none
  else pure (some (approved, reason))

/-- The `except` block of `_handle_transition_request`, with the reason it assigns. -/
def failClosed : StationM A String := do
  match (← get).node.sessionDenialReason with
  | some reason => pure reason
  | none =>
    let reason := "DENY_ACCESS_AUTHORITY_ERROR"
    assign fun node => { node with sessionReady := false, sessionDenialReason := some reason }
    pure reason

/-- The end of `_handle_transition_request`. -/
def answerTransition (outcome previous approved reason : Json) : StationM A Unit := do
  let grantId ← eval (Python.get outcome "grant_id")
  let _ ← publishDecision outcome approved previous reason (or grantId (.str ""))
  let node := (← get).node
  let resultingState ← eval (toInt node.state)
  let grantExpiresAtS ← eval (Python.get outcome "grant_expires_at_s")
  let signedGrantHex ← eval (Python.get outcome "signed_grant_hex")
  let authorizationDecision ← eval (Python.get outcome "authorization_decision")
  publishStationProtocol <| stationMessage "transition_decision"
    [("session_id", node.sessionId),
     ("approved", approved),
     ("reason", reason),
     ("resulting_state", .int resultingState),
     ("authority_id", .str "waystation-1"),
     ("grant_id", grantId),
     ("grant_expires_at_s", grantExpiresAtS),
     ("signed_grant_hex", signedGrantHex),
     ("authorization_decision", authorizationDecision)]
  status

/-- `int(payload.get("requested_state", -1))` -/
def requestedState (payload : Json) : Except Error Int := do
  toInt (← Python.get payload "requested_state" (.int (-1)))

/-- `_handle_transition_request` after its `try` block. -/
def finishTransition (outcome previous : Json) :
    Except Error (Option (Json × Json)) → StationM A Unit
  | .ok none => pure ()
  | .ok (some (approved, reason)) => answerTransition outcome previous approved reason
  | .error _ => do
    let reason ← failClosed
    answerTransition outcome previous (.bool false) (.str reason)

def handleTransitionRequest (payload : Json) : StationM A Unit := do
  let requestedState ← eval (requestedState payload)
  let previous := (← get).node.state
  match ← EStateM.attempt caught (requestTransition client requestedState) with
  | .ok outcome =>
    let settled ← EStateM.attempt caught (settleTransition requestedState outcome)
    finishTransition outcome previous settled
  | .error error => finishTransition (.obj []) previous (.error error)

/-- The `try` block of `_handle_entitlement_presentation` until the outcome is assigned. -/
def redeemEntitlement (requestedState : Int) (payload : Json) : StationM A Json := do
  let readiness ← EStateM.okOr (← get).node.readiness
    { kind := .runtime, text := "station-local readiness evidence is unavailable" }
  let entitlementHex ← eval (item payload "signed_grant_hex")
  authorityPart.run id <| client <| .obj
    [("command", .str "redeem_entitlement"),
     ("requested_state", .int requestedState),
     ("entitlement_hex", entitlementHex),
     ("readiness", readiness.toJson)]

/-- The rest of that block, with the values of `approved` and `reason`. -/
def settleRedemption (outcome : Json) : StationM A (Json × Json) := do
  let approved ← eval (item outcome "approved")
  let reason ← eval (item outcome "reason")
  let state ← eval (item outcome "resulting_state")
  assign fun node => { node with state }
  eval (displayEvents outcome)
  pure (approved, reason)

/-- The end of `_handle_entitlement_presentation`. -/
def answerPresentation (payload outcome previous approved reason : Json) : StationM A Unit := do
  let grantId := or (← eval (Python.get outcome "grant_id"))
    (← eval (Python.get payload "grant_id" (.str "")))
  let decision ← publishDecision outcome approved previous reason grantId
  let node := (← get).node
  let resultingState ← eval (toInt node.state)
  publishStationProtocol <| stationMessage "transition_decision"
    [("session_id", node.sessionId),
     ("approved", approved),
     ("reason", reason),
     ("resulting_state", .int resultingState),
     ("authority_id", .str "waystation-1"),
     ("grant_id", .str decision.grantId)]
  status

/-- `_handle_entitlement_presentation` after its `try` block. -/
def finishPresentation (payload outcome previous : Json) :
    Except Error (Json × Json) → StationM A Unit
  | .ok (approved, reason) => answerPresentation payload outcome previous approved reason
  | .error _ =>
    answerPresentation payload outcome previous (.bool false) (.str "DENY_ENTITLEMENT_REDEMPTION")

def handleEntitlementPresentation (payload : Json) : StationM A Unit := do
  let requestedState ← eval (requestedState payload)
  let previous := (← get).node.state
  match ← EStateM.attempt caught (redeemEntitlement client requestedState payload) with
  | .ok outcome =>
    let settled ← EStateM.attempt caught (settleRedemption outcome)
    finishPresentation payload outcome previous settled
  | .error error => finishPresentation payload (.obj []) previous (.error error)

/-- `data` is what `json.loads` makes of the message. -/
def onChaserProtocol (data : Except Error Json) : StationM A Unit := do
  match ← EStateM.attempt [.jsonDecode, .type] (eval data) with
  | .error _ => pure ()
  | .ok payload =>
    eval (recordProtocolEvent payload)
    match ← eval (Python.get payload "kind") with
    | .str "access_request" => handleAccessRequest client payload
    | .str "transition_request" => handleTransitionRequest client payload
    | .str "entitlement_presentation" => handleEntitlementPresentation client payload
    | _ => pure ()

end

def onPrepare : StationM A Unit := do
  assign StationNode.clearRuntimeState
  status

def onReset : StationM A Unit := do
  assign StationNode.clearRuntimeState
  status

def onRun (data : String) : StationM A Unit := do
  assign fun node => if data ∈ scenarios then { node with scenarioId := data } else node
  assign StationNode.clearRuntimeState
  status

def onScenario (data : String) : StationM A Unit :=
  if data ∈ scenarios then do
    assign fun node => { node with scenarioId := data }
    status
  else pure ()

def ReadinessMessage.readiness (evidence : ReadinessMessage) : Readiness where
  observedAtMs := evidence.sec.toInt * 1000 + evidence.nanosec.toNat / 1000000
  rangeM := evidence.rangeM
  closingRateMps := evidence.closingRateMps
  checks :=
    [("initial_hold_confirmed", evidence.initialHoldConfirmed),
     ("retreat_available", evidence.retreatAvailable),
     ("relative_navigation_valid", evidence.relativeNavigationValid),
     ("approach_corridor_clear", evidence.approachCorridorClear),
     ("closing_rate_within_limit", evidence.closingRateWithinLimit),
     ("alignment_within_limit", evidence.alignmentWithinLimit),
     ("capture_system_ready", evidence.captureSystemReady),
     ("soft_capture_confirmed", evidence.softCaptureConfirmed),
     ("latches_ready", evidence.latchesReady),
     ("relative_motion_stable", evidence.relativeMotionStable)]

def onReadiness (evidence : ReadinessMessage) : StationM A Unit := do
  assign fun node => { node with readiness := some evidence.readiness }
  let node := (← get).node
  let step := Json.str "INITIAL_HOLD_CONFIRMED"
  if node.sessionReady && evidence.initialHoldConfirmed && !node.completedSteps.any (eq step) then
    assign fun node => { node with completedSteps := node.completedSteps ++ [step] }
    status
  else pure ()

/-! ## Runs -/

/-- The node after its constructor. -/
def StationNode.init (client : Json → EStateM Error A Json) : EStateM Error A StationNode := do
  let described ← EStateM.attempt [.os, .runtime, .value]
    (client (.obj [("command", .str "describe")]))
  let node : StationNode := match described with
    | .ok protocolProfile => { protocolProfile }
    | .error _ => {}
  EStateM.ofExcept id (publishStatus node)
  pure node

inductive StationMessage where
  | prepare
  | reset
  | run (data : String)
  | scenario (data : String)
  | readiness (evidence : ReadinessMessage)
  | chaserProtocol (data : Except Error Json)

/-- The handler of a message. -/
def handle (client : Json → EStateM Error A Json) : StationMessage → StationM A Unit
  | .prepare => onPrepare
  | .reset => onReset
  | .run data => onRun data
  | .scenario data => onScenario data
  | .readiness evidence => onReadiness evidence
  | .chaserProtocol data => onChaserProtocol client data

/-- A node in its surroundings; `none` after a handler raised. -/
structure Station (A : Type) where
  node : Option StationNode
  authority : A

/-- The process until it handles its first message. -/
def Station.start (client : Json → EStateM Error A Json) (authority : A) : Station A :=
  match StationNode.init client authority with
  | .ok node authority => { node := some node, authority }
  | .error _ authority => { node := none, authority }

/-- A message that is handled, and what becomes of a request to the authority meanwhile. -/
structure StationCall (ρ : Type) where
  message : StationMessage
  link : ρ

def step (client : ρ → Json → EStateM Error A Json) (s : Station A) (call : StationCall ρ) :
    Published × Station A :=
  match s.node with
  | none => ({}, s)
  | some node =>
    match handle (client call.link) call.message { node, authority := s.authority } with
    | .ok () t => (t.published, { node := some t.node, authority := t.authority })
    | .error _ t => (t.published, { node := none, authority := t.authority })

abbrev StationEvent (A ρ : Type) := Run.Event (Station A) (StationCall ρ) Published

end Access.StationAccess
