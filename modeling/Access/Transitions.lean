import Access.Engine

/-! # Protected transitions

The issuing and the redemption of entitlements, `request_transition` and `redeem_transition` of
`session.rs`, and the calls a user of an engine can make. -/

namespace Access

open Host

variable [ReplayStateBackend B] (cr : Crates)

/-! ## Issuing -/

/-- The assignment of a fresh holder proof. -/
def AccessEngine.proved (nowS : Int64) (engine : AccessEngine B) : AccessEngine B :=
  { engine with holderProofAtS := some nowS }

/-- The fresh proof of `request_transition`: an offer and a proof bound to each other. -/
def refreshProof (self : EngineSetup) (sessionId : String) (nowS : Int64) :
    EngineM B Unit := do
  let challenge ← randomNonce self
  let offer ← exchangeOffer cr self sessionId challenge nowS
  let proof ← exchangeProof cr self sessionId challenge [] nowS
  EStateM.failIf (unbound proof offer) .sessionBinding
  assign (AccessEngine.proved nowS)

def proofEvent (self : EngineSetup) (sessionId : String) : AccessEvent :=
  event "HOLDER_PROOF_REFRESHED" ("Fresh transition proof bound to session=" ++ sessionId)
    self.chaser.keyId self.station.keyId "SESSION_PROOF"

/-- The first stage rule with an identifier. -/
def ProtocolProfile.findRuleById (profile : ProtocolProfile) (ruleId : String) :
    Option StageRuleProfile :=
  profile.stageRules.find? (·.ruleId = ruleId)

/-- `readiness_fresh` of `request_transition`. -/
def readinessFresh (profile : ProtocolProfile) (rule : ProtocolRuleDecision) (nowS : Int64)
    (readiness : ReadinessEvidence) : Bool :=
  readiness.ageMs nowS ≤ ((profile.findRuleById rule.ruleId).map (·.readiness.maximumAgeMs)).getD 0

/-- The profile's verdict on a transition of the engine. -/
def AccessEngine.evaluate (self : AccessEngine B) (fromStage toStage : String) (nowS : Int64)
    (readiness : ReadinessEvidence) : Except ProtocolProfileError ProtocolRuleDecision :=
  self.config.protocolProfile.evaluate cr fromStage toStage nowS self.config.trustBundleId
    self.config.trustBundleVersion self.config.trustBundleIssuedAtS self.verifiedCredentials
    self.holderProofAtS self.authorization.sessionAuthorized readiness

/-- The policy's verdict on a transition under a rule. -/
def AccessEngine.authorize (self : AccessEngine B) (rule : ProtocolRuleDecision) (nowS : Int64)
    (readiness : ReadinessEvidence) : Except AccessPolicyError AccessDecision :=
  let profile := self.config.protocolProfile
  self.config.authorizationPolicyEngine.authorizeTransition cr self.chaser.keyId
    self.station.keyId (((profile.findRuleById rule.ruleId).map (·.action)).getD "")
    self.verifiedCredentials self.holderProofAtS.isSome self.authorization.sessionAuthorized
    readiness (readinessFresh profile rule nowS readiness)

/-- The decision of `request_transition`, with the outcome it returns when that is a denial. -/
def AccessEngine.decideTransition (self : AccessEngine B) (sessionId fromStage toStage : String)
    (nowS : Int64) (readiness : ReadinessEvidence) :
    Except TransitionOutcome (ProtocolRuleDecision × AccessDecision) :=
  let previous := stateNumber self.state
  let profile := self.config.protocolProfile
  match self.evaluate cr fromStage toStage nowS readiness with
  | .error error =>
    let outcome := policyDenied previous error
    .error { outcome with
      sessionId := some sessionId
      protocolProfileId := some profile.profileId
      protocolProfileVersion := some profile.profileVersion
      ruleId := (profile.findRule fromStage toStage).map (·.ruleId)
      events := proofEvent self.toEngineSetup sessionId :: outcome.events }
  | .ok rule =>
    match self.authorize cr rule nowS readiness with
    | .error error =>
      let outcome := denied previous "DENY_AUTHORIZATION_POLICY" error.display
      .error { outcome with
        sessionId := some sessionId
        protocolProfileId := some rule.profileId
        protocolProfileVersion := some rule.profileVersion
        ruleId := some rule.ruleId
        events := proofEvent self.toEngineSetup sessionId :: outcome.events }
    | .ok decision => .ok (rule, decision)

/-- The claims of a grant. -/
def grantClaims (self : EngineSetup) (sessionId grantId : String) (stage : AuthorizedStage)
    (nowS : Int64) (nonce : Bytes) (rule : ProtocolRuleDecision) (decision : AccessDecision) :
    ProtocolClaims where
  messageType := .authorizationGrant
  issuer := self.station.keyId
  recipient := self.chaser.keyId
  issuedAtS := nowS
  nonce := nonce
  sessionId := some sessionId
  authorizedStage := some stage
  grantId := some grantId
  expiresAtS := some (nowS.saturatingAdd rule.entitlementTtlS.toInt64)
  protocolProfileId := some rule.profileId
  protocolProfileVersion := some rule.profileVersion
  ruleId := some rule.ruleId
  authorizationPolicyBundleId := some decision.policy.bundleId
  authorizationPolicyBundleVersion := some decision.policy.bundleVersion
  authorizationPolicySha256 := some decision.policy.policySha256

def issuedEvents (self : EngineSetup) (sessionId grantId : String) (stage : AuthorizedStage)
    (rule : ProtocolRuleDecision) (decision : AccessDecision) : List AccessEvent :=
  [proofEvent self sessionId,
   event "ACCESS_STAGE_POLICY_ALLOWED"
     ("bundle=" ++ decision.policy.bundleId ++ "@" ++ toString decision.policy.bundleVersion ++
       "; rule=" ++ rule.ruleId)
     self.station.keyId self.chaser.keyId "ACCESS_AUTHORIZATION",
   event "AUTHORIZATION_GRANT_ISSUED"
     ("grant=" ++ grantId ++ "; session=" ++ sessionId ++ "; rule=" ++ rule.ruleId ++
       "; stage=" ++ stage.debug ++ "; ttl=" ++ toString rule.entitlementTtlS ++ "s")
     self.station.keyId self.chaser.keyId "AUTHORIZATION_GRANT"]

/-- The outcome of an approved request. -/
def issuedOutcome (self : AccessEngine B) (sessionId grantId : String) (stage : AuthorizedStage)
    (nowS : Int64) (rule : ProtocolRuleDecision) (decision : AccessDecision) (encoded : Bytes) :
    TransitionOutcome where
  approved := true
  previousState := stateNumber self.state
  resultingState := stateNumber self.state
  reason := "ALLOW_AUTHORIZATION_GRANT_ISSUED"
  sessionId := some sessionId
  protocolProfileId := some rule.profileId
  protocolProfileVersion := some rule.profileVersion
  ruleId := some rule.ruleId
  grantId := some grantId
  entitlementTtlS := some rule.entitlementTtlS
  grantExpiresAtS := some (nowS.saturatingAdd rule.entitlementTtlS.toInt64)
  signedGrantHex := some (Hex.encode encoded)
  authorizationDecision := some decision
  events := issuedEvents self.toEngineSetup sessionId grantId stage rule decision

/-- The end of `request_transition`: a grant is signed and becomes pending. -/
def issueGrant (self : AccessEngine B) (sessionId : String) (stage : AuthorizedStage)
    (requestedState : UInt8) (nowS : Int64) (rule : ProtocolRuleDecision)
    (decision : AccessDecision) : EngineM B TransitionOutcome := do
  let grantId := "grant-" ++ Hex.encode (← randomNonce self.toEngineSetup)
  let nonce ← randomNonce self.toEngineSetup
  let encoded ← worldPart.run .protocol <| signEnvelope cr
    (grantClaims self.toEngineSetup sessionId grantId stage nowS nonce rule decision) self.station
  assign fun engine =>
    { engine with
      pendingEntitlements := engine.pendingEntitlements.insert grantId
        { requestedState, authorizationDecision := decision } }
  pure (issuedOutcome self sessionId grantId stage nowS rule decision encoded)

def requestTransition (requestedState : UInt8) (nowS : Int64) (readiness : ReadinessEvidence) :
    EngineM B TransitionOutcome := do
  let self := (← get).engine
  let (_, stage) ← EStateM.okOr (transitionFor self.state requestedState)
    (.transition .invalidTransition)
  let sessionId ← EStateM.okOr self.sessionId .sessionBinding
  refreshProof cr self.toEngineSetup sessionId nowS
  let self := (← get).engine
  let (fromStage, toStage) ← EStateM.okOr (transitionNames self.state requestedState)
    (.transition .invalidTransition)
  match self.decideTransition cr sessionId fromStage toStage nowS readiness with
  | .error outcome => pure outcome
  | .ok (rule, decision) =>
    issueGrant cr self sessionId stage requestedState nowS rule decision

/-! ## Redeeming -/

/-- `pending_entitlements.remove(grant_id).ok_or(..)?` -/
def takePending (grantId : String) : EngineM B PendingEntitlement := do
  let pending ← EStateM.okOr ((← get).engine.pendingEntitlements.lookup grantId) .grantMismatch
  assign fun engine =>
    { engine with pendingEntitlements := engine.pendingEntitlements.erase grantId }
  pure pending

/-- The first check of a grant: its binding to the request, and its expiry. -/
def GrantUnusable (claims : ProtocolClaims) (pending : PendingEntitlement) (requestedState : UInt8)
    (sessionId : String) (stage : AuthorizedStage) (nowS : Int64) : Prop :=
  pending.requestedState ≠ requestedState ∨ claims.sessionId ≠ some sessionId ∨
    claims.authorizedStage ≠ some stage ∨ claims.expiresAtS.all fun expiry => nowS > expiry

instance (claims : ProtocolClaims) (pending requestedState sessionId stage nowS) :
    Decidable (GrantUnusable claims pending requestedState sessionId stage nowS) :=
  inferInstanceAs (Decidable (_ ∨ _))

/-- The second check of a grant: its provenance. -/
def GrantUnprovenanced (claims : ProtocolClaims) (pending : PendingEntitlement)
    (rule : ProtocolRuleDecision) : Prop :=
  claims.protocolProfileId ≠ some rule.profileId ∨
    claims.protocolProfileVersion ≠ some rule.profileVersion ∨
    claims.ruleId ≠ some rule.ruleId ∨
    claims.authorizationPolicyBundleId ≠ some pending.authorizationDecision.policy.bundleId ∨
    claims.authorizationPolicyBundleVersion ≠
      some pending.authorizationDecision.policy.bundleVersion ∨
    claims.authorizationPolicySha256 ≠ some pending.authorizationDecision.policy.policySha256

instance (claims : ProtocolClaims) (pending rule) :
    Decidable (GrantUnprovenanced claims pending rule) :=
  inferInstanceAs (Decidable (_ ∨ _))

/-- A presented grant that passed every check before its consumption. -/
structure AcceptedGrant where
  eventKind : DockingEvent
  stage : AuthorizedStage
  sessionId : String
  grant : VerifiedEnvelope
  grantId : String
  pending : PendingEntitlement
  rule : ProtocolRuleDecision

/-- `redeem_transition` before the grant is consumed. -/
def acceptGrant (signedGrantHex : String) (requestedState : UInt8) (nowS : Int64)
    (readiness : ReadinessEvidence) : EngineM B AcceptedGrant := do
  let self := (← get).engine
  let (eventKind, stage) ← EStateM.okOr (transitionFor self.state requestedState)
    (.transition .invalidTransition)
  let sessionId ← EStateM.okOr self.sessionId .sessionBinding
  let encoded ← EStateM.ofExcept (fun _ => .protocol .invalidEnvelope)
    (Hex.decode signedGrantHex.asBytes)
  let grant ← gateReplayPart.run .protocol
    (verifyEnvelope cr encoded self.gateTrust self.chaser.keyId nowS maxClockSkewS)
  let grantId ← EStateM.okOr grant.claims.grantId .grantMismatch
  let pending ← takePending grantId
  EStateM.failIf (GrantUnusable grant.claims pending requestedState sessionId stage nowS)
    .grantMismatch
  let (fromStage, toStage) ← EStateM.okOr (transitionNames self.state requestedState)
    (.transition .invalidTransition)
  let rule ← EStateM.ofExcept .protocolProfile
    (self.evaluate cr fromStage toStage nowS readiness)
  EStateM.failIf (GrantUnprovenanced grant.claims pending rule) .grantMismatch
  pure { eventKind, stage, sessionId, grant, grantId, pending, rule }

/-- A presented grant that passed the gate's first check. -/
structure CheckedGrant where
  eventKind : DockingEvent
  stage : AuthorizedStage
  sessionId : String
  grant : VerifiedEnvelope
  grantId : String
  pending : PendingEntitlement

/-- The beginning of `acceptGrant`: the envelope, the binding and the expiry of a grant. -/
def gateChecks (signedGrantHex : String) (requestedState : UInt8) (nowS : Int64) :
    EngineM B CheckedGrant := do
  let self := (← get).engine
  let (eventKind, stage) ← EStateM.okOr (transitionFor self.state requestedState)
    (.transition .invalidTransition)
  let sessionId ← EStateM.okOr self.sessionId .sessionBinding
  let encoded ← EStateM.ofExcept (fun _ => .protocol .invalidEnvelope)
    (Hex.decode signedGrantHex.asBytes)
  let grant ← gateReplayPart.run .protocol
    (verifyEnvelope cr encoded self.gateTrust self.chaser.keyId nowS maxClockSkewS)
  let grantId ← EStateM.okOr grant.claims.grantId .grantMismatch
  let pending ← takePending grantId
  EStateM.failIf (GrantUnusable grant.claims pending requestedState sessionId stage nowS)
    .grantMismatch
  pure { eventKind, stage, sessionId, grant, grantId, pending }

/-- The authorization under which a grant for a stage moves the docking state. -/
def AuthorizationContext.forStage (authorization : AuthorizationContext)
    (stage : AuthorizedStage) : AuthorizationContext where
  identityVerified := authorization.identityVerified
  sessionAuthorized := authorization.sessionAuthorized
  dockingAuthorized := stage = .hardDock

/-- The outcome of a redemption. -/
def AcceptedGrant.outcome (self : EngineSetup) (signedGrantHex : String)
    (previousState resultingState : UInt8) (accepted : AcceptedGrant) : TransitionOutcome where
  approved := true
  previousState := previousState
  resultingState := resultingState
  reason := "ALLOW_ENTITLEMENT_CONSUMED"
  sessionId := some accepted.sessionId
  protocolProfileId := some accepted.rule.profileId
  protocolProfileVersion := some accepted.rule.profileVersion
  ruleId := some accepted.rule.ruleId
  grantId := some accepted.grantId
  entitlementTtlS := none
  grantExpiresAtS := accepted.grant.claims.expiresAtS
  signedGrantHex := some signedGrantHex
  authorizationDecision := some accepted.pending.authorizationDecision
  events := [event "AUTHORIZATION_GRANT_CONSUMED"
    "Entitlement verified and atomically consumed before releasing the action"
    self.chaser.keyId "transition-gate" "ENTITLEMENT_PRESENTATION"]

def redeemTransition (signedGrantHex : String) (requestedState : UInt8) (nowS : Int64)
    (readiness : ReadinessEvidence) : EngineM B TransitionOutcome := do
  let self := (← get).engine
  let previous := stateNumber self.state
  let accepted ← acceptGrant cr signedGrantHex requestedState nowS readiness
  consumedGrantsPart.run .protocol (ReplayCache.consume accepted.grantId.asBytes)
  let state ← EStateM.ofExcept .transition
    (reduce self.state accepted.eventKind (self.authorization.forStage accepted.stage))
  assign fun engine => { engine with state }
  pure (accepted.outcome self.toEngineSetup signedGrantHex previous (stateNumber state))

/-! ## Replay state -/

def enablePersistentState (openFile : String → Except String B) : EngineM B Unit := do
  let cache ← EStateM.ofExcept .protocol (ReplayCache.persistent (openFile "station-nonces.log"))
  assign fun engine => { engine with stationReplay := cache }
  let cache ← EStateM.ofExcept .protocol (ReplayCache.persistent (openFile "chaser-nonces.log"))
  assign fun engine => { engine with chaserReplay := cache }
  let cache ← EStateM.ofExcept .protocol (ReplayCache.persistent (openFile "gate-nonces.log"))
  assign fun engine => { engine with gateReplay := cache }
  let cache ← EStateM.ofExcept .protocol (ReplayCache.persistent (openFile "consumed-grants.log"))
  assign fun engine => { engine with consumedGrants := cache }

def setReplayState (stationReplay chaserReplay gateReplay consumedGrants : ReplayCache B) :
    EngineM B Unit :=
  assign fun engine => { engine with stationReplay, chaserReplay, gateReplay, consumedGrants }

end Access
