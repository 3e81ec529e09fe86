import Access.Std.Python

/-! # The chaser's node

`chaser_access.py`. -/

namespace Access.ChaserAccess

open Python

/-- `SCENARIOS` -/
def scenarios : List String :=
  ["nominal", "expired_credential", "corridor_violation", "latch_not_ready"]

/-- `STAGE_NAME` -/
def stageName : List (Int × String) :=
  [(1, "approach"), (2, "final_approach"), (3, "soft_capture"), (4, "hard_dock")]

/-- A message `docking_interfaces/TransitionRequest`. -/
structure TransitionRequest where
  requestedState : UInt8
  requester : String
  reason : String

structure ChaserNode where
  scenarioId : String := "nominal"
  sessionId : Json := .null
  sequence : Nat := 0
  presentedGrants : List Json := []

/-- A node in a handler, with its end of the verifier and the payloads it has published on
`/access/chaser_to_station`, the earliest first. -/
structure ChaserHost (V : Type) where
  node : ChaserNode
  verifier : V
  messages : List Json := []

abbrev ChaserM (V : Type) := EStateM Error (ChaserHost V)

def verifierPart : EStateM.Part (ChaserHost V) V where
  get s := s.verifier
  set verifier s := { s with verifier }

/-- Assigns to fields of the node. -/
def assign (f : ChaserNode → ChaserNode) : ChaserM V PUnit :=
  modify fun s => { s with node := f s.node }

/-- A computation without effects. -/
def eval (x : Except Error α) : ChaserM V α := EStateM.ofExcept id x

def publishProtocol (payload : Json) : ChaserM V PUnit :=
  modify fun s => { s with messages := s.messages ++ [payload] }

/-- A message of the chaser to the station. -/
def chaserMessage (kind : String) (fields : List (String × Json)) : Json :=
  .obj
    ([("protocol_version", .str "1.0"), ("kind", .str kind), ("from", .str "ODYSSEY-7"),
      ("to", .str "WAYSTATION-1")] ++ fields ++ [("secure_transport_assumed", .bool true)])

/-! ## The start of a session -/

/-- The assignments of `_on_prepare` and `_start_identity_exchange`. -/
def ChaserNode.clear (self : ChaserNode) : ChaserNode where
  scenarioId := self.scenarioId

def credentialPresentationProfile : Json :=
  .obj
    [("model", .str "W3C VC 2.0"),
     ("presentation_format", .str "application/vp+json"),
     ("credential_types",
      .arr [.str "VehicleRegistrationCredential", .str "DockingCertificationCredential"]),
     ("subject", .str "did:web:lunar-logistics.example:spacecraft:odyssey-7")]

def accessRequest (self : ChaserNode) (trigger : String) : Json :=
  chaserMessage "access_request"
    [("scenario_id", .str self.scenarioId),
     ("trigger", .str trigger),
     ("credential_presentation_profile", credentialPresentationProfile)]

def startIdentityExchange (trigger : String) : ChaserM V Unit := do
  assign ChaserNode.clear
  publishProtocol (accessRequest (← get).node trigger)

def onScenario (data : String) : ChaserM V Unit :=
  assign fun node => if data ∈ scenarios then { node with scenarioId := data } else node

def onPrepare : ChaserM V Unit := assign ChaserNode.clear

def onReset : ChaserM V Unit := startIdentityExchange "reset"

def onRun (data : String) : ChaserM V Unit := do
  onScenario data
  startIdentityExchange "run"

/-! ## Requests -/

def transitionRequest (self : ChaserNode) (request : TransitionRequest) : Json :=
  chaserMessage "transition_request"
    [("sequence", .int self.sequence),
     ("session_id", self.sessionId),
     ("requested_state", .int request.requestedState.toNat),
     ("requester", .str request.requester),
     ("reason", .str request.reason)]

def onTransitionRequest (request : TransitionRequest) : ChaserM V Unit := do
  assign fun node => { node with sequence := node.sequence + 1 }
  publishProtocol (transitionRequest (← get).node request)

/-! ## Messages of the station -/

section

variable (client : Json → EStateM Error V Json)

/-- The `try` block of `_on_station_protocol`, with the values it assigns. -/
def verifyEntitlement (payload : Json) : ChaserM V (Int × Json) := do
  let requestedState ← eval (do toInt (← item payload "requested_state"))
  let expectedStage ← eval (Except.okOr (stageName.lookup requestedState) { kind := .key })
  let entitlementHex ← eval (item payload "signed_grant_hex")
  let expectedAuthority ← eval (item payload "authority_id")
  let expectedSessionId := (← get).node.sessionId
  let verified ← verifierPart.run id <| client <| .obj
    [("command", .str "verify_entitlement"),
     ("entitlement_hex", entitlementHex),
     ("expected_authority", expectedAuthority),
     ("expected_session_id", expectedSessionId),
     ("expected_stage", .str expectedStage)]
  pure (requestedState, verified)

def entitlementPresentation (self : ChaserNode) (requestedState : Int) (grantId signedGrantHex : Json) :
    Json :=
  chaserMessage "entitlement_presentation"
    [("session_id", self.sessionId),
     ("requested_state", .int requestedState),
     ("grant_id", grantId),
     ("signed_grant_hex", signedGrantHex)]

def onAuthorizationGrant (payload : Json) : ChaserM V Unit := do
  if truthy (← eval (Python.get payload "approved")) then
    match ← EStateM.attempt [.key, .os, .runtime, .value] (verifyEntitlement client payload) with
    | .error _ => pure ()
    | .ok (requestedState, verified) =>
      let grantId ← eval (item verified "grant_id")
      eval (hash grantId)
      assign fun node => { node with presentedGrants := grantId :: node.presentedGrants }
      let _ ← eval (item verified "authority_id")
      let _ ← eval (item verified "trust_bundle_id")
      let _ ← eval (item verified "trust_bundle_version")
      let signedGrantHex ← eval (item payload "signed_grant_hex")
      publishProtocol
        (entitlementPresentation (← get).node requestedState grantId signedGrantHex)
  else pure ()

def onTransitionDecision (payload : Json) : ChaserM V Unit := do
  let approved ← eval (Python.get payload "approved")
  let grantId ← eval (Python.get payload "grant_id")
  eval (hash grantId)
  if truthy approved ∧ ¬(← get).node.presentedGrants.any (eq grantId) then pure ()
  else
    assign fun node =>
      { node with presentedGrants := node.presentedGrants.filter fun other => !eq grantId other }

/-- `data` is what `json.loads` makes of the message. -/
def onStationProtocol (data : Except Error Json) : ChaserM V Unit := do
  match ← EStateM.attempt [.jsonDecode, .type] (eval data) with
  | .error _ => pure ()
  | .ok payload =>
    match ← eval (Python.get payload "kind") with
    | .str "session_authorized" => do
      let sessionId ← eval (Python.get payload "session_id")
      assign fun node => { node with sessionId }
    | .str "session_denied" => assign fun node => { node with sessionId := .null }
    | .str "authorization_grant" => onAuthorizationGrant client payload
    | .str "transition_decision" => onTransitionDecision payload
    | _ => pure ()

end

/-! ## Runs -/

inductive ChaserMessage where
  | prepare
  | reset
  | run (data : String)
  | scenario (data : String)
  | transitionRequest (request : TransitionRequest)
  | stationProtocol (data : Except Error Json)

/-- The handler of a message. -/
def handle (client : Json → EStateM Error V Json) : ChaserMessage → ChaserM V Unit
  | .prepare => onPrepare
  | .reset => onReset
  | .run data => onRun data
  | .scenario data => onScenario data
  | .transitionRequest request => onTransitionRequest request
  | .stationProtocol data => onStationProtocol client data

/-- A node in its surroundings; `none` after a handler raised. -/
structure Chaser (V : Type) where
  node : Option ChaserNode
  verifier : V

/-- A message that is handled, and what becomes of a request to the verifier meanwhile. -/
structure ChaserCall (ρ : Type) where
  message : ChaserMessage
  link : ρ

def step (client : ρ → Json → EStateM Error V Json) (s : Chaser V) (call : ChaserCall ρ) :
    List Json × Chaser V :=
  match s.node with
  | none => ([], s)
  | some node =>
    match handle (client call.link) call.message { node, verifier := s.verifier } with
    | .ok () t => (t.messages, { node := some t.node, verifier := t.verifier })
    | .error _ t => (t.messages, { node := none, verifier := t.verifier })

end Access.ChaserAccess
