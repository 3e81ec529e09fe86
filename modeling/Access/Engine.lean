import Access.Session

/-! # The session engine

`AccessEngine` of `session.rs`. `EngineSetup` is the part of the engine that nothing assigns after
it was built. A method runs in `EngineM`: it may return early, and what it assigned before stays
assigned. -/

namespace Access

structure EngineSetup where
  chaser : IdentityKey
  station : IdentityKey
  credentialIssuer : IdentityKey
  stationPeerTrust : TrustStore
  chaserPeerTrust : TrustStore
  credentialTrust : TrustStore
  gateTrust : TrustStore
  config : AccessEngineConfig
  randomSource : RandomSource

structure AccessEngine (B : Type) extends EngineSetup where
  stationReplay : ReplayCache B := {}
  chaserReplay : ReplayCache B := {}
  gateReplay : ReplayCache B := {}
  consumedGrants : ReplayCache B := {}
  state : DockingState := .hold
  authorization : AuthorizationContext := {}
  sessionId : Option String := none
  verifiedCredentials : List VerifiedCredentialEvidence := []
  holderProofAtS : Option Int64 := none
  pendingEntitlements : Finmap fun _ : String => PendingEntitlement := ∅
  scenario : AccessScenario := .nominal

/-- `AccessEngine::new`, with the random source that `with_random_source` may have replaced. -/
def AccessEngine.new (setup : EngineSetup) : AccessEngine B := { setup with }

/-- An engine in its surroundings. -/
structure Host (B : Type) where
  engine : AccessEngine B
  world : World

abbrev EngineM (B : Type) := EStateM SessionError (Host B)

namespace Host

def worldPart : EStateM.Part (Host B) World where
  get s := s.world
  set world s := { s with world }

def stationReplayPart : EStateM.Part (Host B) (ReplayCache B × World) where
  get s := (s.engine.stationReplay, s.world)
  set part s := { engine := { s.engine with stationReplay := part.1 }, world := part.2 }

def chaserReplayPart : EStateM.Part (Host B) (ReplayCache B × World) where
  get s := (s.engine.chaserReplay, s.world)
  set part s := { engine := { s.engine with chaserReplay := part.1 }, world := part.2 }

def gateReplayPart : EStateM.Part (Host B) (ReplayCache B) where
  get s := s.engine.gateReplay
  set replay s := { s with engine := { s.engine with gateReplay := replay } }

def consumedGrantsPart : EStateM.Part (Host B) (ReplayCache B) where
  get s := s.engine.consumedGrants
  set replay s := { s with engine := { s.engine with consumedGrants := replay } }

end Host

open Host

/-- Assigns to fields of the engine. -/
def assign (f : AccessEngine B → AccessEngine B) : EngineM B PUnit :=
  modify fun s => { s with engine := f s.engine }

def AccessEngine.reset (engine : AccessEngine B) : AccessEngine B :=
  { engine with
    stationReplay := engine.stationReplay.resetEphemeral
    chaserReplay := engine.chaserReplay.resetEphemeral
    gateReplay := engine.gateReplay.resetEphemeral
    consumedGrants := engine.consumedGrants.resetEphemeral
    state := .hold
    authorization := {}
    sessionId := none
    verifiedCredentials := []
    holderProofAtS := none
    pendingEntitlements := ∅ }

def randomNonce (self : EngineSetup) : EngineM B Bytes := do
  let nonce ← worldPart.run id (World.ask self.randomSource fun _ => .randomSource)
  pure nonce.1

variable [ReplayStateBackend B] (cr : Crates)

/-! ## Messages of a session -/

def requestClaims (self : EngineSetup) (nonce : Bytes) (nowS : Int64) : ProtocolClaims where
  messageType := .accessRequest
  issuer := self.chaser.keyId
  recipient := self.station.keyId
  issuedAtS := nowS
  nonce := nonce

def offerClaims (self : EngineSetup) (sessionId : String) (challenge nonce : Bytes)
    (nowS : Int64) : ProtocolClaims where
  messageType := .sessionOffer
  issuer := self.station.keyId
  recipient := self.chaser.keyId
  issuedAtS := nowS
  nonce := nonce
  sessionId := some sessionId
  challengeNonce := some challenge

def proofClaims (self : EngineSetup) (sessionId : String) (challenge : Bytes)
    (credentials : List Bytes) (nonce : Bytes) (nowS : Int64) : ProtocolClaims where
  messageType := .sessionProof
  issuer := self.chaser.keyId
  recipient := self.station.keyId
  issuedAtS := nowS
  nonce := nonce
  sessionId := some sessionId
  challengeNonce := some challenge
  credentials := credentials

/-- The access request at the beginning of `establish_session`. -/
def exchangeRequest (self : EngineSetup) (nowS : Int64) : EngineM B VerifiedEnvelope := do
  let nonce ← randomNonce self
  stationReplayPart.run .protocol <| exchange cr (requestClaims self nonce nowS) self.chaser
    self.stationPeerTrust self.station.keyId nowS

/-- The session offer, the same in `establish_session` and in `request_transition`. -/
def exchangeOffer (self : EngineSetup) (sessionId : String) (challenge : Bytes) (nowS : Int64) :
    EngineM B VerifiedEnvelope := do
  let nonce ← randomNonce self
  chaserReplayPart.run .protocol <| exchange cr (offerClaims self sessionId challenge nonce nowS)
    self.station self.chaserPeerTrust self.chaser.keyId nowS

/-- The session proof, with the credentials in `establish_session` and without any in
`request_transition`. -/
def exchangeProof (self : EngineSetup) (sessionId : String) (challenge : Bytes)
    (credentials : List Bytes) (nowS : Int64) : EngineM B VerifiedEnvelope := do
  let nonce ← randomNonce self
  stationReplayPart.run .protocol <|
    exchange cr (proofClaims self sessionId challenge credentials nonce nowS) self.chaser
      self.stationPeerTrust self.station.keyId nowS

/-- Whether a proof does not answer an offer. -/
def unbound (proof offer : VerifiedEnvelope) : Prop :=
  proof.claims.sessionId ≠ offer.claims.sessionId ∨
    proof.claims.challengeNonce ≠ offer.claims.challengeNonce

instance (proof offer : VerifiedEnvelope) : Decidable (unbound proof offer) :=
  inferInstanceAs (Decidable (_ ∨ _))

/-! ## Establishing a session -/

/-- The claims of the two credentials that `establish_session` issues. -/
def sessionCredentials (self : EngineSetup) (scenario : AccessScenario) (nowS : Int64) :
    List CredentialClaims :=
  [{ issuer := self.credentialIssuer.keyId
     subject := self.chaser.keyId
     profileId := "registered-vehicle-v1"
     credentialType := "VehicleRegistrationCredential"
     schemaId := "space:vehicle-registration:v1"
     issuerGroup := "recognized-registrars"
     issuedAtS := nowS - 60
     expiresAtS := if scenario = .expiredCredential then nowS - 1 else nowS + 86400
     statusCheckedAtS := nowS },
   { issuer := self.credentialIssuer.keyId
     subject := self.chaser.keyId
     profileId := "idss-compatible-v1"
     credentialType := "DockingCertificationCredential"
     schemaId := "space:docking-certification:v1"
     issuerGroup := "recognized-docking-authorities"
     issuedAtS := nowS - 60
     expiresAtS := nowS + 86400
     statusCheckedAtS := nowS }]

def CredentialClaims.evidence (claims : CredentialClaims) : VerifiedCredentialEvidence where
  profileId := claims.profileId
  credentialType := claims.credentialType
  schemaId := claims.schemaId
  issuerGroup := claims.issuerGroup
  statusCheckedAtS := claims.statusCheckedAtS

/-- The verification of a presentation: every credential, for the signer of the proof. -/
def verifyPresentation (self : EngineSetup) (proof : VerifiedEnvelope) (nowS : Int64) :
    Except ProtocolError (List VerifiedCredentialEvidence) :=
  proof.claims.credentials.mapM fun credential =>
    (verifyCredential cr credential self.credentialTrust proof.signer nowS).map (·.evidence)

/-- The events of an established session. -/
def sessionEvents (self : EngineSetup) (sessionId : String) (request : VerifiedEnvelope)
    (decision : AccessDecision) : List AccessEvent :=
  let chaser := self.chaser.keyId
  let station := self.station.keyId
  [event "TRUST_BUNDLE_LOADED" "Configured peer and issuer keys loaded" none none none,
   event "ACCESS_REQUEST_VERIFIED" "Signed ACCESS request verified with replay protection"
     request.signer station "ACCESS_REQUEST",
   event "SESSION_OFFER_VERIFIED" ("Signed challenge bound to session=" ++ sessionId)
     station chaser "SESSION_OFFER",
   event "CREDENTIAL_ISSUED"
     ("issuer=" ++ self.credentialIssuer.keyId ++
       "; type=VehicleRegistrationCredential,DockingCertificationCredential")
     self.credentialIssuer.keyId chaser "CREDENTIAL",
   event "CREDENTIALS_VERIFIED" "Issuer signature, validity, and holder binding verified"
     chaser station "CREDENTIAL_PRESENTATION",
   event "HOLDER_PROOF_VERIFIED" "Fresh station challenge signed by credential subject"
     chaser station "SESSION_PROOF",
   event "ACCESS_INITIAL_CLAIMS_ALLOWED"
     ("bundle=" ++ decision.policy.bundleId ++ "@" ++ toString decision.policy.bundleVersion ++
       "; hash=" ++ decision.policy.policySha256)
     station chaser "ACCESS_AUTHORIZATION",
   event "SESSION_AUTHORIZED" ("session=" ++ sessionId ++ "; replay caches active")
     station chaser "SESSION_AUTHORIZATION"]

/-- The offer and the proof of `establish_session`, bound to each other. -/
def proveHolder (self : EngineSetup) (sessionId : String) (scenario : AccessScenario)
    (nowS : Int64) : EngineM B VerifiedEnvelope := do
  let challenge ← randomNonce self
  let offer ← exchangeOffer cr self sessionId challenge nowS
  let credentials ← worldPart.run .protocol <|
    (sessionCredentials self scenario nowS).mapM fun claims =>
      issueCredential cr claims self.credentialIssuer
  let proof ← exchangeProof cr self sessionId challenge credentials nowS
  EStateM.failIf (unbound proof offer) .sessionBinding
  pure proof

/-- `establish_session` from the new session identifier to the policy's decision. -/
def authorizeNewSession (self : EngineSetup) (scenario : AccessScenario) (nowS : Int64) :
    EngineM B (String × VerifiedEnvelope × AccessDecision) := do
  let sessionId := "access-" ++ Hex.encode (← randomNonce self)
  let request ← exchangeRequest cr self nowS
  assign fun engine =>
    { engine with authorization := { engine.authorization with identityVerified := true } }
  let proof ← proveHolder cr self sessionId scenario nowS
  EStateM.failIf (proof.claims.credentials = []) .credentialMissing
  let verifiedCredentials ← EStateM.ofExcept .protocol (verifyPresentation cr self proof nowS)
  assign fun engine => { engine with verifiedCredentials }
  EStateM.ofExcept .protocolProfile (self.config.protocolProfile.validateFoundation cr nowS
    self.config.trustBundleId self.config.trustBundleVersion self.config.trustBundleIssuedAtS)
  EStateM.ofExcept .protocolProfile
    (self.config.protocolProfile.validateCredentials verifiedCredentials nowS)
  assign fun engine => { engine with holderProofAtS := some nowS }
  let decision ← EStateM.ofExcept .authorizationPolicy
    (self.config.authorizationPolicyEngine.authorizeSession cr self.chaser.keyId
      self.station.keyId verifiedCredentials true)
  pure (sessionId, request, decision)

/-- The assignments at the end of `establish_session`. -/
def AccessEngine.withSession (sessionId : String) (engine : AccessEngine B) : AccessEngine B :=
  { engine with
    authorization := { engine.authorization with sessionAuthorized := true }
    sessionId := some sessionId }

def establishSession (nowS : Int64) (scenario : AccessScenario) : EngineM B SessionOutcome := do
  assign AccessEngine.reset
  assign fun engine => { engine with scenario }
  let self := (← get).engine.toEngineSetup
  let (sessionId, request, authorizationDecision) ← authorizeNewSession cr self scenario nowS
  assign (AccessEngine.withSession sessionId)
  pure
    { sessionId
      protocolProfileId := self.config.protocolProfile.profileId
      protocolProfileVersion := self.config.protocolProfile.profileVersion
      authorizationDecision
      events := sessionEvents self sessionId request authorizationDecision }

end Access
