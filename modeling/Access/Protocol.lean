import Access.Claims
import Access.Std.Control
import Access.Std.Saturating
import Mathlib.Data.Finmap

/-! # Signed messages and replay protection

`protocol.rs`. Signers answer from outside the engine: a signer may answer differently each time it
is asked, so it is given the number of the question (`World.tick`). `World.signings` is not part of
the program: it records what envelopes have been made of, for statements about who signed what. -/

namespace Access

def minNonceBytes : Nat := 16

/-- The external data of protocol messages. -/
def envelopeAad : Bytes := "docking-identity-v1".asBytes

/-- The external data of credentials. -/
def credentialAad : Bytes := "access-credential-v1".asBytes

inductive ProtocolError where
  | invalidEnvelope
  | invalidAlgorithm
  | untrustedSigner
  | invalidSignature
  | invalidClaims
  | issuerMismatch
  | recipientMismatch
  | stale
  | weakNonce
  | replay
  | subjectMismatch
  | credentialExpired
  | signingFailed (detail : String)
  | persistentState (detail : String)
  deriving DecidableEq, Repr

def ProtocolError.display : ProtocolError → String
  | invalidEnvelope => "invalid COSE_Sign1 envelope"
  | invalidAlgorithm => "only EdDSA is accepted"
  | untrustedSigner => "unknown or malformed key identifier"
  | invalidSignature => "signature verification failed"
  | invalidClaims => "invalid CBOR claims"
  | issuerMismatch => "protected key identifier and claim issuer differ"
  | recipientMismatch => "message recipient does not match local identity"
  | stale => "message is outside the freshness window"
  | weakNonce => "nonce must contain at least 128 bits"
  | replay => "nonce has already been consumed"
  | subjectMismatch => "credential subject does not match the expected holder"
  | credentialExpired => "credential is not currently valid"
  | signingFailed detail => "signing operation failed: " ++ detail
  | persistentState detail => "persistent replay state failed: " ++ detail

/-! ## Identities and trust -/

/-- The answers of a signer to the payloads it is given. -/
abbrev PayloadSigner := Nat → Bytes → Except String Bytes

structure IdentityKey where
  keyId : String
  verifyingKey : VerifyingKey
  signer : PayloadSigner

/-- The trusted keys by their key identifiers; inserting replaces. -/
abbrev TrustStore := Finmap fun _ : String => VerifyingKey

/-- A message that an envelope was made of: the key it was signed for, the message before its
signature, and the external data. -/
structure Signing where
  key : VerifyingKey
  message : CoseSign1
  externalAad : Bytes
  deriving DecidableEq

/-- The surroundings of the engine. -/
structure World where
  tick : Nat := 0
  signings : List Signing := []
  deriving DecidableEq

/-- Asks a source outside the engine. -/
def World.ask (source : Nat → Except String α) (wrap : String → ε) : EStateM ε World α := do
  let tick := (← get).tick
  modify fun world => { world with tick := world.tick + 1 }
  EStateM.ofExcept wrap (source tick)

/-! ## Replay state -/

/-- Durable storage of consumed identifiers. Its contract is `Honours`. -/
class ReplayStateBackend (B : Type) where
  load : B → Except String (List Bytes) × B
  appendAndSync : Bytes → B → Except String Unit × B

/-- Consumed identifiers, with optional durable storage. -/
structure ReplayCache (B : Type) where
  consumed : Finset Bytes := ∅
  backend : Option B := none

namespace ReplayCache

variable [ReplayStateBackend B]

def withBackend (backend : B) : Except ProtocolError (ReplayCache B) :=
  match ReplayStateBackend.load backend with
  | (.ok values, backend) => .ok { consumed := values.toFinset, backend := some backend }
  | (.error detail, _) => .error (.persistentState detail)

/-- `ReplayCache::persistent`: the backend of a path, if its directory can be made. -/
def persistent (backend : Except String B) : Except ProtocolError (ReplayCache B) := do
  let backend ← backend.mapError .persistentState
  withBackend backend

/-- The commit of an identifier to the storage, if there is one. -/
def commit (nonce : Bytes) : EStateM ProtocolError (ReplayCache B) Unit := fun cache =>
  match cache.backend with
  | none => .ok () cache
  | some backend =>
    match ReplayStateBackend.appendAndSync nonce backend with
    | (.ok (), backend) => .ok () { cache with backend := some backend }
    | (.error detail, backend) =>
      .error (.persistentState detail) { cache with backend := some backend }

def consume (nonce : Bytes) : EStateM ProtocolError (ReplayCache B) Unit := do
  let cache ← get
  EStateM.failIf (nonce ∈ cache.consumed) .replay
  commit nonce
  modify fun cache => { cache with consumed := insert nonce cache.consumed }

def resetEphemeral (cache : ReplayCache B) : ReplayCache B :=
  if cache.backend.isNone then { cache with consumed := ∅ } else cache

end ReplayCache

/-! ## Signing and verification -/

section

variable (cr : Crates)

/-- `sign_payload`: the message as `CoseSign1Builder` makes it, signed and encoded. -/
def unsignedMessage (payload : Bytes) (identity : IdentityKey) : CoseSign1 where
  protectedHeader :=
    { originalData := none
      header := { alg := some .edDSA, keyId := identity.keyId.asBytes } }
  payload := some payload
  signature := []

def signPayload (payload : Bytes) (identity : IdentityKey) (externalAad : Bytes) :
    EStateM ProtocolError World Bytes := do
  let message := unsignedMessage payload identity
  let toBeSigned := cr.tbsData message externalAad
  let signature ← World.ask (identity.signer · toBeSigned) .signingFailed
  let encoded ← EStateM.okOr (cr.toTaggedVec { message with signature }) .invalidEnvelope
  modify fun world =>
    { world with signings := ⟨identity.verifyingKey, message, externalAad⟩ :: world.signings }
  pure encoded

def issueCredential (claims : CredentialClaims) (issuer : IdentityKey) :
    EStateM ProtocolError World Bytes := do
  EStateM.failIf (claims.issuer ≠ issuer.keyId) .issuerMismatch
  let payload ← EStateM.okOr (cr.intoWriter claims.serialize) .invalidClaims
  signPayload cr payload issuer credentialAad

def signEnvelope (claims : ProtocolClaims) (identity : IdentityKey) :
    EStateM ProtocolError World Bytes := do
  EStateM.failIf (claims.issuer ≠ identity.keyId) .issuerMismatch
  let payload ← EStateM.okOr (cr.intoWriter claims.serialize) .invalidClaims
  signPayload cr payload identity envelopeAad

/-- The check of the closure given to `verify_signature`: a signature has 64 bytes. -/
def verifySignature (message : CoseSign1) (externalAad : Bytes) (key : VerifyingKey) : Bool :=
  message.signature.length = 64 &&
    cr.verifyStrict key (cr.tbsData message externalAad) message.signature

def verifySignedPayload (encoded : Bytes) (trustStore : TrustStore) (externalAad : Bytes) :
    Except ProtocolError (String × Bytes) := do
  let message ← Except.okOr (cr.fromTaggedSlice encoded) .invalidEnvelope
  let header := message.protectedHeader.header
  Except.failIf (header.alg ≠ some .edDSA) .invalidAlgorithm
  let signer ← Except.okOr header.keyId.toUtf8? .untrustedSigner
  let verifyingKey ← Except.okOr (trustStore.lookup signer) .untrustedSigner
  Except.failIf (verifySignature cr message externalAad verifyingKey = false) .invalidSignature
  let payload ← Except.okOr message.payload .invalidClaims
  pure (signer, payload)

def verifyCredential (encoded : Bytes) (trustStore : TrustStore) (expectedSubject : String)
    (nowS : Int64) : Except ProtocolError CredentialClaims := do
  let (signer, payload) ← verifySignedPayload cr encoded trustStore credentialAad
  let claims ← Except.okOr (cr.fromReader payload >>= CredentialClaims.deserialize) .invalidClaims
  Except.failIf (claims.issuer ≠ signer) .issuerMismatch
  Except.failIf (claims.subject ≠ expectedSubject) .subjectMismatch
  Except.failIf (nowS < claims.issuedAtS ∨ nowS > claims.expiresAtS) .credentialExpired
  pure claims

structure VerifiedEnvelope where
  signer : String
  claims : ProtocolClaims
  deriving DecidableEq

/-- The checks of `verify_envelope` before the nonce is consumed. -/
def checkEnvelope (encoded : Bytes) (trustStore : TrustStore) (expectedRecipient : String)
    (nowS maxClockSkewS : Int64) : Except ProtocolError VerifiedEnvelope := do
  let (signer, payload) ← verifySignedPayload cr encoded trustStore envelopeAad
  let claims ← Except.okOr (cr.fromReader payload >>= ProtocolClaims.deserialize) .invalidClaims
  Except.failIf (claims.issuer ≠ signer) .issuerMismatch
  Except.failIf (claims.recipient ≠ expectedRecipient) .recipientMismatch
  Except.failIf (nowS.absDiff claims.issuedAtS > maxClockSkewS.unsignedAbs) .stale
  Except.failIf (claims.nonce.length < minNonceBytes) .weakNonce
  pure { signer, claims }

def verifyEnvelope [ReplayStateBackend B] (encoded : Bytes) (trustStore : TrustStore)
    (expectedRecipient : String) (nowS maxClockSkewS : Int64) :
    EStateM ProtocolError (ReplayCache B) VerifiedEnvelope := do
  let verified ← EStateM.ofExcept id
    (checkEnvelope cr encoded trustStore expectedRecipient nowS maxClockSkewS)
  ReplayCache.consume verified.claims.nonce
  pure verified

end

end Access
