import Access.Protocol
import Access.Std.Run

/-! # The entitlement verifier

`access_entitlement_verifier.rs`, the client's own check of an entitlement. Reading the bundle file,
parsing JSON and the clock are given; the rest of `ClientTrustBundle::load` and `verify_command`
is here. -/

namespace Access.EntitlementVerifier

def maxClockSkewS : Int64 := 30

/-- What a `Box<dyn Error>` of the verifier can be. -/
inductive DynError where
  | text (message : String)
  | json (detail : String)
  | timestamp
  | hex (error : Hex.FromHexError)
  | signature
  | protocol (error : ProtocolError)
  deriving DecidableEq

/-! ## The trust bundle -/

structure SigningKeyRecord where
  keyId : String
  algorithm : String
  publicKeyHex : String
  deriving DecidableEq

structure TrustedAuthority where
  authorityId : String
  signingKeys : List SigningKeyRecord
  deriving DecidableEq

structure ClientTrustBundle where
  bundleId : String
  version : UInt64
  clientId : String
  validFrom : String
  validUntil : String
  trustedAuthorities : List TrustedAuthority
  deriving DecidableEq

/-- `char::is_whitespace`: the Unicode property `White_Space`. -/
def isWhitespace (c : Char) : Bool :=
  let n := c.toNat
  (9 ≤ n && n ≤ 13) || n == 0x20 || n == 0x85 || n == 0xA0 || n == 0x1680 ||
    (0x2000 ≤ n && n ≤ 0x200A) || n == 0x2028 || n == 0x2029 || n == 0x202F || n == 0x205F ||
    n == 0x3000

/-- `text.trim().is_empty()` -/
def isBlank (text : String) : Bool := text.toList.all isWhitespace

variable (cr : Crates)

/-- The public key of a record. -/
def SigningKeyRecord.verifyingKey (key : SigningKeyRecord) : Except DynError VerifyingKey := do
  Except.failIf (key.algorithm ≠ "Ed25519")
    (.text ("unsupported entitlement algorithm: " ++ key.algorithm))
  let bytes ← (Hex.decode key.publicKeyHex.asBytes).mapError .hex
  Except.failIf (bytes.length ≠ 32) (.text "Ed25519 public key must contain exactly 32 bytes")
  Except.failIf (cr.isVerifyingKey bytes = false) .signature
  pure ⟨bytes⟩

namespace ClientTrustBundle

/-- `ClientTrustBundle::load` of a file that was read and parsed. -/
def load (bundle : ClientTrustBundle) (nowS : Int64) : Except DynError ClientTrustBundle := do
  let validFrom ← Except.okOr (cr.parseFromRfc3339 bundle.validFrom) .timestamp
  let validUntil ← Except.okOr (cr.parseFromRfc3339 bundle.validUntil) .timestamp
  Except.failIf (nowS < validFrom ∨ nowS > validUntil)
    (.text "client trust bundle is outside its validity interval")
  Except.failIf (isBlank bundle.bundleId ∨ isBlank bundle.clientId)
    (.text "client trust bundle identifiers must not be empty")
  pure bundle

/-- One round of the inner loop of `trust_store`. -/
def insertKey (store : TrustStore × Nat) (key : SigningKeyRecord) :
    Except DynError (TrustStore × Nat) := do
  let verifyingKey ← key.verifyingKey cr
  pure (store.1.insert key.keyId verifyingKey, store.2 + 1)

def trustStore (bundle : ClientTrustBundle) : Except DynError TrustStore := do
  let (store, count) ← bundle.trustedAuthorities.foldlM
    (fun store authority => authority.signingKeys.foldlM (insertKey cr) store) (∅, 0)
  Except.failIf (count = 0) (.text "client trust bundle contains no authority signing keys")
  pure store

def trustsAuthority (bundle : ClientTrustBundle) (authorityId keyId : String) : Bool :=
  bundle.trustedAuthorities.any fun authority =>
    authority.authorityId = authorityId && authority.signingKeys.any (·.keyId = keyId)

end ClientTrustBundle

/-! ## Verification -/

structure VerifyCommand where
  command : String
  entitlementHex : Option String
  expectedAuthority : Option String
  expectedSessionId : Option String
  expectedStage : Option String
  nowS : Option Int64
  deriving DecidableEq

structure VerifiedEntitlement where
  verified : Bool
  trustBundleId : String
  trustBundleVersion : UInt64
  authorityId : String
  clientId : String
  grantId : String
  sessionId : String
  authorizedStage : String
  expiresAtS : Int64
  protocolProfileId : String
  protocolProfileVersion : UInt64
  ruleId : String
  authorizationPolicyBundleId : String
  authorizationPolicyBundleVersion : UInt64
  authorizationPolicySha256 : String
  deriving DecidableEq

/-- The checks of `verify_command` after the envelope, and the result. -/
def checkGrant (command : VerifyCommand) (bundle : ClientTrustBundle) (nowS : Int64)
    (verified : VerifiedEnvelope) : Except DynError VerifiedEntitlement := do
  let claims := verified.claims
  Except.failIf (claims.messageType ≠ .authorizationGrant)
    (.text "message is not an ACCESS authorization grant")
  let expectedAuthority ← Except.okOr command.expectedAuthority
    (.text "expected_authority is required")
  Except.failIf (verified.signer ≠ expectedAuthority ∨
    bundle.trustsAuthority expectedAuthority verified.signer = false)
    (.text "entitlement issuer is not the expected trusted authority")
  let expiresAtS ← Except.okOr claims.expiresAtS (.text "grant has no expiry")
  Except.failIf (nowS > expiresAtS) (.text "grant is expired")
  let sessionId ← Except.okOr claims.sessionId (.text "grant has no session binding")
  Except.failIf (command.expectedSessionId ≠ some sessionId)
    (.text "grant session does not match the active ACCESS session")
  let stage ← Except.okOr claims.authorizedStage (.text "grant has no authorized stage")
  Except.failIf (command.expectedStage ≠ some stage.name)
    (.text "grant stage does not match the requested operation")
  let grantId ← Except.okOr claims.grantId (.text "grant has no identifier")
  let protocolProfileId ← Except.okOr claims.protocolProfileId
    (.text "grant has no protocol profile")
  let protocolProfileVersion ← Except.okOr claims.protocolProfileVersion
    (.text "grant has no protocol profile version")
  let ruleId ← Except.okOr claims.ruleId (.text "grant has no rule binding")
  let authorizationPolicyBundleId ← Except.okOr claims.authorizationPolicyBundleId
    (.text "grant has no ACCESS authorization policy bundle binding")
  let authorizationPolicyBundleVersion ← Except.okOr claims.authorizationPolicyBundleVersion
    (.text "grant has no ACCESS authorization policy bundle version")
  let authorizationPolicySha256 ← Except.okOr claims.authorizationPolicySha256
    (.text "grant has no ACCESS authorization policy digest")
  pure
    { verified := true, trustBundleId := bundle.bundleId, trustBundleVersion := bundle.version,
      authorityId := verified.signer, clientId := bundle.clientId, grantId, sessionId,
      authorizedStage := stage.name, expiresAtS, protocolProfileId, protocolProfileVersion, ruleId,
      authorizationPolicyBundleId, authorizationPolicyBundleVersion, authorizationPolicySha256 }

/-- The beginning of `main`: the bundle that was parsed, and its keys. -/
def start (parsed : ClientTrustBundle) (nowS : Int64) :
    Except DynError (ClientTrustBundle × TrustStore) := do
  let bundle ← parsed.load cr nowS
  let trust ← bundle.trustStore cr
  pure (bundle, trust)

/-- `parse` reads a command from JSON, and `unixTime` is the clock. -/
def verifyCommand [ReplayStateBackend B] (parse : String → Except String VerifyCommand)
    (unixTime : Int64) (input : String) (bundle : ClientTrustBundle) (trust : TrustStore) :
    EStateM DynError (ReplayCache B) VerifiedEntitlement := do
  let command ← EStateM.ofExcept .json (parse input)
  EStateM.failIf (command.command = "describe") (.text "describe is not a verification command")
  EStateM.failIf (command.command ≠ "verify_entitlement")
    (.text ("unknown command: " ++ command.command))
  let entitlementHex ← EStateM.okOr command.entitlementHex (.text "entitlement_hex is required")
  let encoded ← EStateM.ofExcept .hex (Hex.decode entitlementHex.asBytes)
  let nowS := command.nowS.getD unixTime
  let verified ← EStateM.Part.run ⟨id, fun replay _ => replay⟩ .protocol
    (verifyEnvelope cr encoded trust bundle.clientId nowS maxClockSkewS)
  EStateM.ofExcept id (checkGrant command bundle nowS verified)

/-! ## The process -/

/-- The verifier over its journal. It has no memory of its own while it is down. -/
inductive Verifier (B : Type) where
  | running (bundle : ClientTrustBundle) (trust : TrustStore) (replay : ReplayCache B)
  | down (storage : B)

/-- What can happen to the verifier: a line on its standard input, at a time of its clock, or a
restart, with the bundle file, the clock, and whether the directory of the journal can be made. -/
inductive VerifierCall where
  | verify (input : String) (unixTime : Int64)
  | restart (file : Except String ClientTrustBundle) (nowS : Int64) (directory : Except String Unit)

inductive VerifierReply where
  | verified (result : Except DynError VerifiedEntitlement)
  | started (result : Except DynError Unit)
  /-- Nobody answers. -/
  | absent

variable [ReplayStateBackend B]

/-- `main` until it reads its first line. -/
def boot (file : Except String ClientTrustBundle) (nowS : Int64) (directory : Except String Unit)
    (storage : B) : Except DynError Unit × Verifier B :=
  match file.mapError DynError.json >>= (start cr · nowS) with
  | .error e => (.error e, .down storage)
  | .ok (bundle, trust) =>
    match directory with
    | .error detail => (.error (.protocol (.persistentState detail)), .down storage)
    | .ok () =>
      match ReplayCache.persistent (.ok storage) with
      | .ok replay => (.ok (), .running bundle trust replay)
      | .error e => (.error (.protocol e), .down (ReplayStateBackend.load storage).2)

/-- A restart finds the journal where the process before left it. -/
def Verifier.step (parse : String → Except String VerifyCommand) (v : Verifier B) :
    VerifierCall → VerifierReply × Verifier B
  | .verify input unixTime =>
    match v with
    | .running bundle trust replay =>
      match verifyCommand cr parse unixTime input bundle trust replay with
      | .ok out replay => (.verified (.ok out), .running bundle trust replay)
      | .error e replay => (.verified (.error e), .running bundle trust replay)
    | .down storage => (.absent, .down storage)
  | .restart file nowS directory =>
    match v with
    | .running _ _ { backend := some storage, .. } | .down storage =>
      (.started (boot cr file nowS directory storage).1, (boot cr file nowS directory storage).2)
    -- `boot` leaves no verifier running without a journal.
    | .running bundle trust replay => (.absent, .running bundle trust replay)

end Access.EntitlementVerifier
