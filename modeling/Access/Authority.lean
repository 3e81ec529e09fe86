import Access.EntitlementVerifier
import Access.Runs

/-! # The authority process

`access_authority.rs`, the process around an engine. Reading its files, parsing JSON, the signer
process and the system clock are given. The error of a command is the text that is returned. -/

namespace Access.Authority

/-- A reading of the system clock, in nanoseconds since the epoch. Its seconds fit in 64 bits. -/
structure SystemTime where
  nanos : Int
  inRange : nanos < 9223372036854775808000000000

def SystemTime.unixTime (now : SystemTime) : Int64 :=
  if 0 ≤ now.nanos then Int64.ofInt (now.nanos / 1000000000) else 0

/-- What a `Box<dyn Error>` of `main` can be. -/
inductive DynError where
  | text (message : String)
  | file (detail : String)
  | timestamp
  | hex (error : Hex.FromHexError)
  | signature
  | policy (error : AccessPolicyError)
  | session (error : SessionError)
  deriving DecidableEq

/-! ## The configuration -/

structure TrustRecord where
  keyId : String
  publicKeyHex : String
  scopes : List String
  deriving DecidableEq

structure TrustBundle where
  bundleId : String
  version : UInt64
  issuedAt : String
  keys : List TrustRecord
  deriving DecidableEq

structure AuthorizationPolicyBundle where
  bundleId : String
  bundleVersion : UInt64
  issuedAt : String
  validUntil : String
  sourceFile : String
  deriving DecidableEq

variable (cr : Crates)

/-- `AuthorizationPolicyBundle::load` of a file that was read and parsed. -/
def AuthorizationPolicyBundle.load (bundle : AuthorizationPolicyBundle) (nowS : Int64)
    (readToString : String → Except String String) :
    Except DynError (AuthorizationPolicyBundle × String) := do
  let issuedAt ← Except.okOr (cr.parseFromRfc3339 bundle.issuedAt) .timestamp
  let validUntil ← Except.okOr (cr.parseFromRfc3339 bundle.validUntil) .timestamp
  Except.failIf (nowS < issuedAt ∨ nowS > validUntil)
    (.text "ACCESS authorization policy bundle is outside its validity interval")
  let source ← (readToString bundle.sourceFile).mapError .file
  pure (bundle, source)

/-- The public key of a record. -/
def TrustRecord.verifyingKey (record : TrustRecord) : Except DynError VerifyingKey := do
  let bytes ← (Hex.decode record.publicKeyHex.asBytes).mapError .hex
  Except.failIf (bytes.length ≠ 32) (.text "Ed25519 public key must contain exactly 32 bytes")
  Except.failIf (cr.isVerifyingKey bytes = false) .signature
  pure ⟨bytes⟩

namespace TrustBundle

/-- `TrustBundle::load` of a file that was read and parsed. -/
def load (bundle : TrustBundle) : Except DynError TrustBundle := do
  Except.failIf (EntitlementVerifier.isBlank bundle.bundleId)
    (.text "trust bundle_id must not be empty")
  pure bundle

def recordsFor (bundle : TrustBundle) (scope : String) : List TrustRecord :=
  bundle.keys.filter (scope ∈ ·.scopes)

def storeFor (bundle : TrustBundle) (scope : String) : Except DynError TrustStore := do
  let store ← (bundle.recordsFor scope).foldlM (fun store record => do
    let verifyingKey ← record.verifyingKey cr
    pure (store.insert record.keyId verifyingKey)) ∅
  Except.failIf (bundle.recordsFor scope = [])
    (.text ("trust bundle has no keys for scope: " ++ scope))
  pure store

/-- `signer` is the external signer in a role. -/
def externalIdentity (bundle : TrustBundle) (scope : String) (signer : PayloadSigner) :
    Except DynError IdentityKey :=
  match bundle.recordsFor scope with
  | [record] => do
    let verifyingKey ← record.verifyingKey cr
    pure { keyId := record.keyId, verifyingKey, signer }
  | _ => .error (.text ("trust scope must contain exactly one key: " ++ scope))

end TrustBundle

/-! ## Start-up -/

/-- What `main` finds: its files as they are read and parsed, the signers by their roles, the random
source of the system, and the replay journals. -/
structure Environment (B : Type) where
  trust : Except String TrustBundle
  protocolProfile : Except String ProtocolProfile
  policyBundle : Except String AuthorizationPolicyBundle
  readToString : String → Except String String
  signer : String → PayloadSigner
  randomSource : RandomSource
  openFile : String → Except String B

/-- The engine that `main` makes. -/
def Environment.setup (env : Environment B) (nowS : Int64) : Except DynError EngineSetup := do
  let trust ← env.trust.mapError .file
  let trust ← trust.load
  let protocolProfile ← env.protocolProfile.mapError .file
  let policyBundle ← env.policyBundle.mapError .file
  let (policyBundle, source) ← policyBundle.load cr nowS env.readToString
  let authorizationPolicyEngine ←
    (CedarPolicyEngine.fromSource cr policyBundle.bundleId policyBundle.bundleVersion
      source).mapError .policy
  let trustBundleIssuedAtS ← Except.okOr (cr.parseFromRfc3339 trust.issuedAt) .timestamp
  let chaser ← trust.externalIdentity cr "station_peer" (env.signer "chaser")
  let station ← trust.externalIdentity cr "chaser_peer" (env.signer "station")
  let credentialIssuer ← trust.externalIdentity cr "credential_issuer"
    (env.signer "credential_issuer")
  let stationPeerTrust ← trust.storeFor cr "station_peer"
  let chaserPeerTrust ← trust.storeFor cr "chaser_peer"
  let credentialTrust ← trust.storeFor cr "credential_issuer"
  let gateTrust ← trust.storeFor cr "transition_gate"
  pure
    { chaser, station, credentialIssuer, stationPeerTrust, chaserPeerTrust, credentialTrust,
      gateTrust,
      config :=
        { protocolProfile, authorizationPolicyEngine, trustBundleId := trust.bundleId,
          trustBundleVersion := trust.version, trustBundleIssuedAtS }
      randomSource := env.randomSource }

variable [ReplayStateBackend B]

/-- `main` until it reads its first line. -/
def start (env : Environment B) (nowS : Int64) : Except DynError (Host B) :=
  match env.setup cr nowS with
  | .error e => .error e
  | .ok setup =>
    match enablePersistentState env.openFile (Host.new setup) with
    | .ok () host => .ok host
    | .error e _ => .error (.session e)

/-! ## Commands -/

inductive Command where
  | describe
  | establish (scenario : String) (nowS : Option Int64)
  | transition (requestedState : UInt8) (nowS : Option Int64) (readiness : ReadinessEvidence)
  | redeemEntitlement (requestedState : UInt8) (entitlementHex : String) (nowS : Option Int64)
      (readiness : ReadinessEvidence)

/-- The value of a response, before it is written as JSON. -/
inductive Value where
  | description (protocolProfile : ProtocolProfile) (authorizationPolicy : AccessPolicyMetadata)
  | session (outcome : SessionOutcome)
  | transition (outcome : TransitionOutcome)
  deriving DecidableEq

structure Response where
  ok : Bool
  value : Option Value
  error : Option String
  deriving DecidableEq

def errorResponse (error : String) : Response where
  ok := false
  value := none
  error := some error

def parseScenario : String → Except String AccessScenario
  | "" | "nominal" => .ok .nominal
  | "expired_credential" => .ok .expiredCredential
  | "corridor_violation" => .ok .corridorViolation
  | "latch_not_ready" => .ok .latchNotReady
  | value => .error ("unknown scenario: " ++ value)

/-- The response with what a method returned. -/
def respond (wrap : α → Value) (x : EngineM B α) (s : Host B) : Response × Host B :=
  match x s with
  | .ok a s => ({ ok := true, value := some (wrap a), error := none }, s)
  | .error e s => (errorResponse e.display, s)

/-- `input` is a line of the standard input as it is read and parsed. -/
def handleCommand (now : SystemTime) (input : Except String Command) (s : Host B) :
    Response × Host B :=
  match input with
  | .error detail => (errorResponse detail, s)
  | .ok .describe =>
    let config := s.engine.config
    let value := .description config.protocolProfile config.authorizationPolicyEngine.metadata
    ({ ok := true, value := some value, error := none }, s)
  | .ok (.establish scenario nowS) =>
    match parseScenario scenario with
    | .error detail => (errorResponse detail, s)
    | .ok scenario =>
      respond .session (establishSession cr (nowS.getD now.unixTime) scenario) s
  | .ok (.transition requestedState nowS readiness) =>
    respond .transition
      (requestTransition cr requestedState (nowS.getD now.unixTime) readiness) s
  | .ok (.redeemEntitlement requestedState entitlementHex nowS readiness) =>
    respond .transition
      (redeemTransition cr entitlementHex requestedState (nowS.getD now.unixTime) readiness) s

/-! ## Runs -/

/-- A line, and the time when it is handled. -/
structure Line where
  input : Except String Command
  now : SystemTime

abbrev Event (B : Type) := Run.Event (Host B) Line Response

def step (s : Host B) (line : Line) : Response × Host B := handleCommand cr line.now line.input s

end Access.Authority
