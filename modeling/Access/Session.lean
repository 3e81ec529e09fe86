import Access.Cedar
import Access.Protocol
import Access.StateMachine

/-! # Sessions

The data of `session.rs` and its functions outside the engine: what the engine returns, the
tables of transitions, and an exchange of a message between two identities. -/

namespace Access

def maxClockSkewS : Int64 := 30

/-- A source of random bytes. Each answer fills a buffer of 32 bytes, and any two answers may
differ. -/
abbrev RandomSource := Nat → Except String { b : Bytes // b.length = 32 }

inductive AccessScenario where
  | nominal
  | expiredCredential
  | corridorViolation
  | latchNotReady
  deriving DecidableEq, Repr

structure AccessEvent where
  code : String
  detail : String
  source : Option String
  target : Option String
  messageType : Option String
  deriving DecidableEq

structure TransitionOutcome where
  approved : Bool
  previousState : UInt8
  resultingState : UInt8
  reason : String
  sessionId : Option String
  protocolProfileId : Option String
  protocolProfileVersion : Option UInt64
  ruleId : Option String
  grantId : Option String
  entitlementTtlS : Option UInt64
  grantExpiresAtS : Option Int64
  signedGrantHex : Option String
  authorizationDecision : Option AccessDecision
  events : List AccessEvent
  deriving DecidableEq

structure SessionOutcome where
  sessionId : String
  protocolProfileId : String
  protocolProfileVersion : UInt64
  authorizationDecision : AccessDecision
  events : List AccessEvent
  deriving DecidableEq

structure AccessEngineConfig where
  protocolProfile : ProtocolProfile
  authorizationPolicyEngine : CedarPolicyEngine
  trustBundleId : String
  trustBundleVersion : UInt64
  trustBundleIssuedAtS : Int64

inductive SessionError where
  | protocol (error : ProtocolError)
  | transition (error : TransitionError)
  | sessionBinding
  | credentialMissing
  | grantMismatch
  | authorizationPolicy (error : AccessPolicyError)
  | protocolProfile (error : ProtocolProfileError)
  | randomSource
  deriving DecidableEq, Repr

def SessionError.display : SessionError → String
  | protocol error => "protocol verification failed: " ++ error.display
  | transition error => "protected transition failed: " ++ error.display
  | sessionBinding => "session challenge or identifier binding failed"
  | credentialMissing => "credential presentation is missing"
  | grantMismatch => "authorization grant does not match the requested stage"
  | authorizationPolicy error => "ACCESS authorization policy evaluation failed: " ++ error.display
  | protocolProfile error => "protocol policy validation failed: " ++ error.display
  | randomSource => "operating-system random source failed"

structure PendingEntitlement where
  requestedState : UInt8
  authorizationDecision : AccessDecision
  deriving DecidableEq

/-! ## Transitions -/

def transitionFor (state : DockingState) (requested : UInt8) :
    Option (DockingEvent × AuthorizedStage) :=
  match state, requested with
  | .hold, 1 => some (.beginApproach, .approach)
  | .approach, 2 => some (.enterFinalApproach, .finalApproach)
  | .finalApproach, 3 => some (.engageSoftCapture, .softCapture)
  | .softCapture, 4 => some (.engageHardDock, .hardDock)
  | _, _ => none

def transitionNames (state : DockingState) (requested : UInt8) : Option (String × String) :=
  match state, requested with
  | .hold, 1 => some ("hold", "approach")
  | .approach, 2 => some ("approach", "final_approach")
  | .finalApproach, 3 => some ("final_approach", "soft_capture")
  | .softCapture, 4 => some ("soft_capture", "hard_dock")
  | _, _ => none

/-- The `Debug` text of a stage. -/
def AuthorizedStage.debug : AuthorizedStage → String
  | .hold => "Hold"
  | .approach => "Approach"
  | .finalApproach => "FinalApproach"
  | .softCapture => "SoftCapture"
  | .hardDock => "HardDock"

/-! ## Outcomes -/

def event (code detail : String) (source target messageType : Option String) : AccessEvent :=
  { code, detail, source, target, messageType }

def denied (previous : UInt8) (reason detail : String) : TransitionOutcome where
  approved := false
  previousState := previous
  resultingState := previous
  reason := reason
  sessionId := none
  protocolProfileId := none
  protocolProfileVersion := none
  ruleId := none
  grantId := none
  entitlementTtlS := none
  grantExpiresAtS := none
  signedGrantHex := none
  authorizationDecision := none
  events := [event reason detail none none none]

def policyDenied (previous : UInt8) (error : ProtocolProfileError) : TransitionOutcome :=
  let reason := match error with
    | .profileExpired => "DENY_PROTOCOL_PROFILE_EXPIRED"
    | .trustBundleMismatch => "DENY_TRUST_BUNDLE"
    | .noMatchingRule => "DENY_NO_MATCHING_PROTOCOL_RULE"
    | .credentialRequired => "DENY_CREDENTIAL_REQUIRED"
    | .holderProofRequired => "DENY_HOLDER_PROOF"
    | .sessionRequired => "DENY_SESSION_NOT_AUTHORIZED"
    | .readinessStale => "DENY_READINESS_STALE"
    | .invalidTimestamp => "DENY_PROTOCOL_PROFILE_INVALID"
  denied previous reason error.display

/-! ## Exchanges -/

/-- Signs a message for one identity and verifies it as its recipient does. -/
def exchange [ReplayStateBackend B] (cr : Crates) (claims : ProtocolClaims) (signer : IdentityKey)
    (trust : TrustStore) (recipient : String) (nowS : Int64) :
    EStateM ProtocolError (ReplayCache B × World) VerifiedEnvelope := do
  let encoded ← EStateM.Part.run ⟨Prod.snd, fun world s => (s.1, world)⟩ id
    (signEnvelope cr claims signer)
  EStateM.Part.run ⟨Prod.fst, fun replay s => (replay, s.2)⟩ id
    (verifyEnvelope cr encoded trust recipient nowS maxClockSkewS)

end Access
