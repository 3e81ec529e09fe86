import Access.Std.Cbor

/-! # The third-party crates

The functions the authority takes from other crates, as parameters: COSE messages (`coset`),
CBOR (`ciborium`), Ed25519 (`ed25519_dalek`), RFC 3339 dates (`chrono`) and the policy evaluator
(`cedar_policy`). Only their data types are concrete here, reduced to the fields that are read.

`Crates.Faithful` is the documented behaviour of the message libraries that results about whole
messages need; `Crates.TimestampsInRange` is that of the date parser. -/

namespace Access

/-! ## Messages -/

/-- An Ed25519 public key, by its 32 bytes. -/
structure VerifyingKey where
  bytes : Bytes
  deriving DecidableEq, Repr

/-- The algorithm label of a COSE header. -/
inductive Algorithm where
  | assigned (value : Int)
  | privateUse (value : Int)
  | text (name : String)
  deriving DecidableEq, Repr

/-- `iana::Algorithm::EdDSA` -/
def Algorithm.edDSA : Algorithm := .assigned (-8)

structure Header where
  alg : Option Algorithm
  keyId : Bytes
  deriving DecidableEq, Repr

/-- A protected header. One that was read keeps the bytes it was read from, and these are what
its signature covers. -/
structure ProtectedHeader where
  originalData : Option Bytes
  header : Header
  deriving DecidableEq, Repr

structure CoseSign1 where
  protectedHeader : ProtectedHeader
  payload : Option Bytes
  signature : Bytes
  deriving DecidableEq, Repr

/-! ## Policies -/

structure EntityUid where
  typeName : String
  id : String
  deriving DecidableEq, Repr

/-- The values that occur in an authorization context. -/
inductive CedarValue where
  | bool (b : Bool)
  | long (i : Int64)
  deriving DecidableEq

abbrev CedarContext := List (String × CedarValue)

structure CedarRequest where
  principal : EntityUid
  action : EntityUid
  resource : EntityUid
  context : CedarContext
  deriving DecidableEq

inductive Decision where
  | allow
  | deny
  deriving DecidableEq, Repr

/-- A response: the decision, the evaluation errors, and the `Debug` text of its diagnostics. -/
structure Response where
  decision : Decision
  errors : List String
  diagnostics : String
  deriving DecidableEq, Repr

/-- A parsed policy set, by its source. -/
structure PolicySet where
  source : String
  deriving DecidableEq, Repr

/-! ## The functions -/

structure Crates where
  /-- `CoseSign1::from_tagged_slice` -/
  fromTaggedSlice : Bytes → Option CoseSign1
  /-- `CoseSign1::to_tagged_vec` -/
  toTaggedVec : CoseSign1 → Option Bytes
  /-- The `Sig_structure` of a message under external data, which a signature is made over. -/
  tbsData : CoseSign1 → Bytes → Bytes
  /-- `ciborium::into_writer` into an empty vector -/
  intoWriter : Cbor.Item → Option Bytes
  /-- `ciborium::from_reader`, as far as the data item -/
  fromReader : Bytes → Option Cbor.Item
  /-- Whether `VerifyingKey::from_bytes` takes these 32 bytes for a key. -/
  isVerifyingKey : Bytes → Bool
  /-- `verify_strict` -/
  verifyStrict : VerifyingKey → Bytes → Bytes → Bool
  /-- `DateTime::parse_from_rfc3339(text).timestamp()` -/
  parseFromRfc3339 : String → Option Int64
  /-- `PolicySet::from_str` -/
  policySetFromStr : String → Except String PolicySet
  policySetIsEmpty : PolicySet → Bool
  /-- `Sha256::digest` -/
  sha256 : Bytes → Bytes
  /-- `format!("{type}::{id:?}").parse::<EntityUid>()` -/
  parseEntityUid : String → String → Except String EntityUid
  /-- `Context::from_json_value(facts, None)` -/
  contextFromJsonValue : CedarContext → Except String CedarContext
  /-- `Request::new(principal, action, resource, context, None)` -/
  requestNew : EntityUid → EntityUid → EntityUid → CedarContext → Except String CedarRequest
  /-- `Authorizer::is_authorized` without entities -/
  isAuthorized : CedarRequest → PolicySet → Response

namespace Crates

variable (cr : Crates)

/-- The message libraries read back what they write, and a signature input does not cover the
signature and determines the protected header, the external data and the payload it was made
from. -/
structure Faithful : Prop where
  fromReader_of_intoWriter : ∀ {i b}, cr.intoWriter i = some b → cr.fromReader b = some i
  fromTaggedSlice_of_toTaggedVec : ∀ {m b}, m.protectedHeader.originalData = none →
    cr.toTaggedVec m = some b → ∃ m', cr.fromTaggedSlice b = some m' ∧
      m'.protectedHeader.header = m.protectedHeader.header ∧ m'.payload = m.payload ∧
      m'.signature = m.signature ∧ ∀ aad, cr.tbsData m' aad = cr.tbsData m aad
  tbsData_signature : ∀ m signature aad, cr.tbsData { m with signature } aad = cr.tbsData m aad
  of_tbsData_eq : ∀ {m b m' b' aad aad'}, m.protectedHeader.originalData = none →
    cr.toTaggedVec m = some b → cr.fromTaggedSlice b' = some m' → aad.length < 256 →
    aad'.length < 256 → cr.tbsData m' aad' = cr.tbsData m aad →
      m'.protectedHeader.header = m.protectedHeader.header ∧ aad' = aad ∧
      m'.payload.getD [] = m.payload.getD []

/-- RFC 3339 has years 0000 to 9999, read with an offset of less than a day. -/
def TimestampsInRange : Prop :=
  ∀ {text t}, cr.parseFromRfc3339 text = some t → -62167305600 ≤ t.toInt ∧ t.toInt ≤ 253402387199

end Crates

end Access
