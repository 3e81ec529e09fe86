import Access.Runs
import Access.Std.Checked

/-! # The engine with overflow checks

The methods of an engine as they are where an addition, a subtraction or a cast of integers that has
no exact result ends the call. The functions that have one in them are given again, with the checks;
what they call is as it was. -/

namespace Access.Checked

open EStateM Host

abbrev CheckedM (B : Type) := EStateM (Stop SessionError) (Host B)

/-- The claims of the two credentials that `establish_session` issues. -/
def sessionCredentials (self : EngineSetup) (scenario : AccessScenario) (nowS : Int64) :
    Option (List CredentialClaims) := do
  let issuedAtS ← nowS.checkedSub 60
  let expiresAtS ←
    if scenario = .expiredCredential then nowS.checkedSub 1 else nowS.checkedAdd 86400
  let registration : CredentialClaims :=
    { issuer := self.credentialIssuer.keyId
      subject := self.chaser.keyId
      profileId := "registered-vehicle-v1"
      credentialType := "VehicleRegistrationCredential"
      schemaId := "space:vehicle-registration:v1"
      issuerGroup := "recognized-registrars"
      issuedAtS
      expiresAtS
      statusCheckedAtS := nowS }
  let issuedAtS ← nowS.checkedSub 60
  let expiresAtS ← nowS.checkedAdd 86400
  let certification : CredentialClaims :=
    { issuer := self.credentialIssuer.keyId
      subject := self.chaser.keyId
      profileId := "idss-compatible-v1"
      credentialType := "DockingCertificationCredential"
      schemaId := "space:docking-certification:v1"
      issuerGroup := "recognized-docking-authorities"
      issuedAtS
      expiresAtS
      statusCheckedAtS := nowS }
  pure [registration, certification]

variable [ReplayStateBackend B] (cr : Crates)

def proveHolder (self : EngineSetup) (sessionId : String) (scenario : AccessScenario)
    (nowS : Int64) : CheckedM B VerifiedEnvelope := do
  let challenge ← plain (randomNonce self)
  let offer ← plain (exchangeOffer cr self sessionId challenge nowS)
  let claims ← checked (sessionCredentials self scenario nowS)
  let credentials ← plain (worldPart.run .protocol <|
    claims.mapM fun claims => issueCredential cr claims self.credentialIssuer)
  let proof ← plain (exchangeProof cr self sessionId challenge credentials nowS)
  plain (failIf (unbound proof offer) .sessionBinding)
  pure proof

/-- What `authorizeNewSession` does with a proof. -/
def authorizeProof (self : EngineSetup) (sessionId : String) (request proof : VerifiedEnvelope)
    (nowS : Int64) : EngineM B (String × VerifiedEnvelope × AccessDecision) := do
  failIf (proof.claims.credentials = []) .credentialMissing
  let verifiedCredentials ← ofExcept .protocol (verifyPresentation cr self proof nowS)
  assign fun engine => { engine with verifiedCredentials }
  ofExcept .protocolProfile (self.config.protocolProfile.validateFoundation cr nowS
    self.config.trustBundleId self.config.trustBundleVersion self.config.trustBundleIssuedAtS)
  ofExcept .protocolProfile
    (self.config.protocolProfile.validateCredentials verifiedCredentials nowS)
  assign fun engine => { engine with holderProofAtS := some nowS }
  let decision ← ofExcept .authorizationPolicy
    (self.config.authorizationPolicyEngine.authorizeSession cr self.chaser.keyId
      self.station.keyId verifiedCredentials true)
  pure (sessionId, request, decision)

def authorizeNewSession (self : EngineSetup) (scenario : AccessScenario) (nowS : Int64) :
    CheckedM B (String × VerifiedEnvelope × AccessDecision) := do
  let sessionId ← plain (randomNonce self)
  let sessionId := "access-" ++ Hex.encode sessionId
  let request ← plain (exchangeRequest cr self nowS)
  plain <| assign fun engine =>
    { engine with authorization := { engine.authorization with identityVerified := true } }
  let proof ← proveHolder cr self sessionId scenario nowS
  plain (authorizeProof cr self sessionId request proof nowS)

def establishSession (nowS : Int64) (scenario : AccessScenario) : CheckedM B SessionOutcome := do
  plain (assign AccessEngine.reset)
  plain (assign fun engine => { engine with scenario })
  let self := (← plain get).engine.toEngineSetup
  let (sessionId, request, authorizationDecision) ← authorizeNewSession cr self scenario nowS
  plain (assign (AccessEngine.withSession sessionId))
  pure
    { sessionId
      protocolProfileId := self.config.protocolProfile.profileId
      protocolProfileVersion := self.config.protocolProfile.profileVersion
      authorizationDecision
      events := sessionEvents self sessionId request authorizationDecision }

/-- What `issueGrant` does with an identifier and a nonce. -/
def signGrant (self : AccessEngine B) (sessionId grantId : String) (nonce : Bytes)
    (stage : AuthorizedStage) (requestedState : UInt8) (nowS : Int64) (rule : ProtocolRuleDecision)
    (decision : AccessDecision) : EngineM B TransitionOutcome := do
  let encoded ← worldPart.run .protocol <| signEnvelope cr
    (grantClaims self.toEngineSetup sessionId grantId stage nowS nonce rule decision) self.station
  assign fun engine =>
    { engine with
      pendingEntitlements := engine.pendingEntitlements.insert grantId
        { requestedState, authorizationDecision := decision } }
  pure (issuedOutcome self sessionId grantId stage nowS rule decision encoded)

/-- The lifetime of a grant is cast before it is added to the time of its issue. -/
def issueGrant (self : AccessEngine B) (sessionId : String) (stage : AuthorizedStage)
    (requestedState : UInt8) (nowS : Int64) (rule : ProtocolRuleDecision)
    (decision : AccessDecision) : CheckedM B TransitionOutcome := do
  let grantId ← plain (randomNonce self.toEngineSetup)
  let _ ← checked rule.entitlementTtlS.checkedToInt64
  let nonce ← plain (randomNonce self.toEngineSetup)
  plain (signGrant cr self sessionId ("grant-" ++ Hex.encode grantId) nonce stage requestedState
    nowS rule decision)

/-- The end of `requestTransition`, with its decision. -/
def settleDecision (self : AccessEngine B) (sessionId : String) (stage : AuthorizedStage)
    (requestedState : UInt8) (nowS : Int64) :
    Except TransitionOutcome (ProtocolRuleDecision × AccessDecision) →
      CheckedM B TransitionOutcome
  | .error outcome => pure outcome
  | .ok (rule, decision) =>
    issueGrant cr self sessionId stage requestedState nowS rule decision

def requestTransition (requestedState : UInt8) (nowS : Int64) (readiness : ReadinessEvidence) :
    CheckedM B TransitionOutcome := do
  let self := (← plain get).engine
  let (_, stage) ← plain (okOr (transitionFor self.state requestedState)
    (.transition .invalidTransition))
  let sessionId ← plain (okOr self.sessionId .sessionBinding)
  plain (refreshProof cr self.toEngineSetup sessionId nowS)
  let self := (← plain get).engine
  let (fromStage, toStage) ← plain (okOr (transitionNames self.state requestedState)
    (.transition .invalidTransition))
  settleDecision cr self sessionId stage requestedState nowS
    (self.decideTransition cr sessionId fromStage toStage nowS readiness)

/-- The answer of a method and the state it leaves, if no check stops it. -/
def answer (wrap : Except SessionError α → Reply) (x : CheckedM B α) (s : Host B) :
    Option (Reply × Host B) :=
  match x s with
  | .ok a s => some (wrap (.ok a), s)
  | .error (.error e) s => some (wrap (.error e), s)
  | .error .overflow _ => none

/-- A call with checks. The methods that are not given above have nothing to check. -/
def step (s : Host B) : Call B → Option (Reply × Host B)
  | .establishSession nowS scenario => answer .session (establishSession cr nowS scenario) s
  | .requestTransition requestedState nowS readiness =>
    answer .issued (requestTransition cr requestedState nowS readiness) s
  | .redeemTransition signedGrantHex requestedState nowS readiness =>
    answer .redeemed
      (plain (redeemTransition cr signedGrantHex requestedState nowS readiness)) s
  | .enablePersistentState openFile => answer .replayState (plain (enablePersistentState openFile)) s
  | .setReplayState stationReplay chaserReplay gateReplay consumedGrants =>
    answer .replayState
      (plain (setReplayState stationReplay chaserReplay gateReplay consumedGrants)) s

end Access.Checked
