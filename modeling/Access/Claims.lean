import Access.Crates

/-! # Messages and credentials

The claims of `protocol.rs` with their serde form: the names of the fields, which of them are
left out when absent, and which byte strings are written as arrays of integers. Reading follows
the derived deserializers: a field named twice is an error, an unknown one is skipped, and a
missing one is an error unless it is optional or has a default. -/

namespace Access

open Cbor

/-! ## Fields of a serde map -/

namespace Serde

/-- The entries of a struct, from its fields in order; a field without a value is left out. -/
def written (fields : List (String × Option Item)) : List (Item × Item) :=
  fields.filterMap fun f => f.2.map fun value => (.text f.1, value)

/-- A key that can name a field. -/
def isIdentifier : Item → Bool
  | .text _ | .bytes _ => true
  | _ => false

def isNamed (name : String) : Item → Bool
  | .text s => s == name
  | .bytes b => b == name.asBytes
  | _ => false

/-- Everything written under a name. -/
def values (name : String) (entries : List (Item × Item)) : List Item :=
  (entries.filter fun e => isNamed name e.1).map (·.2)

/-- The entries of a struct. -/
def structEntries : Item → Option (List (Item × Item))
  | .map entries => if entries.all (isIdentifier ·.1) then some entries else none
  | _ => none

/-- A mandatory field. -/
def required (read : Item → Option α) : List Item → Option α
  | [value] => read value
  | _ => none

/-- A field that has a value even when it is missing. -/
def defaulting (read : Item → Option α) (default : α) : List Item → Option α
  | [] => some default
  | [value] => read value
  | _ => none

/-- `Option<T>` -/
def option (read : Item → Option α) : Item → Option (Option α)
  | .null => some none
  | value => (read value).map some

def ofOption (write : α → Item) : Option α → Item
  | some a => write a
  | none => .null

def readString : Item → Option String
  | .text s => some s
  | _ => none

def writeI64 (i : Int64) : Item := .int i.toInt

def readI64 : Item → Option Int64
  | .int i => if -2 ^ 63 ≤ i ∧ i < 2 ^ 63 then some (Int64.ofInt i) else none
  | _ => none

def writeU64 (n : UInt64) : Item := .int n.toNat

def readU64 : Item → Option UInt64
  | .int i => if 0 ≤ i ∧ i < 2 ^ 64 then some (UInt64.ofNat i.toNat) else none
  | _ => none

def readU8 : Item → Option UInt8
  | .int i => if 0 ≤ i ∧ i < 256 then some (UInt8.ofNat i.toNat) else none
  | _ => none

/-- `Vec<u8>` without `serde_bytes` is an array of integers. -/
def writeVec (b : Bytes) : Item := .array (b.map fun x => .int x.toNat)

def readVec : Item → Option Bytes
  | .array items => items.mapM readU8
  | .bytes b => some b
  | _ => none

/-- `#[serde(with = "serde_bytes")]` -/
def readBytes : Item → Option Bytes
  | .bytes b => some b
  | .text s => some s.asBytes
  | .array items => items.mapM readU8
  | _ => none

def writeVecs (bs : List Bytes) : Item := .array (bs.map writeVec)

def readVecs : Item → Option (List Bytes)
  | .array items => items.mapM readVec
  | _ => none

end Serde

/-! ## Protocol messages -/

inductive MessageType where
  | accessRequest
  | sessionOffer
  | sessionProof
  | authorizationGrant
  deriving DecidableEq, Repr

/-- The `snake_case` name of the variant. -/
def MessageType.name : MessageType → String
  | .accessRequest => "access_request"
  | .sessionOffer => "session_offer"
  | .sessionProof => "session_proof"
  | .authorizationGrant => "authorization_grant"

def MessageType.ofName? (name : String) : Option MessageType :=
  [.accessRequest, .sessionOffer, .sessionProof, .authorizationGrant].find? (·.name == name)

inductive AuthorizedStage where
  | hold
  | approach
  | finalApproach
  | softCapture
  | hardDock
  deriving DecidableEq, Repr

/-- The `snake_case` name of the variant. -/
def AuthorizedStage.name : AuthorizedStage → String
  | .hold => "hold"
  | .approach => "approach"
  | .finalApproach => "final_approach"
  | .softCapture => "soft_capture"
  | .hardDock => "hard_dock"

def AuthorizedStage.ofName? (name : String) : Option AuthorizedStage :=
  [.hold, .approach, .finalApproach, .softCapture, .hardDock].find? (·.name == name)

/-- The claims of a signed message. The fields from `sessionId` on are absent unless given. -/
structure ProtocolClaims where
  messageType : MessageType
  issuer : String
  recipient : String
  issuedAtS : Int64
  nonce : Bytes
  sessionId : Option String := none
  authorizedStage : Option AuthorizedStage := none
  challengeNonce : Option Bytes := none
  credentials : List Bytes := []
  grantId : Option String := none
  expiresAtS : Option Int64 := none
  protocolProfileId : Option String := none
  protocolProfileVersion : Option UInt64 := none
  ruleId : Option String := none
  authorizationPolicyBundleId : Option String := none
  authorizationPolicyBundleVersion : Option UInt64 := none
  authorizationPolicySha256 : Option String := none
  deriving DecidableEq

structure CredentialClaims where
  issuer : String
  subject : String
  profileId : String
  credentialType : String
  schemaId : String
  issuerGroup : String
  issuedAtS : Int64
  expiresAtS : Int64
  statusCheckedAtS : Int64
  deriving DecidableEq

open Serde

def ProtocolClaims.fields (c : ProtocolClaims) : List (String × Option Item) :=
  [("message_type", some (.text c.messageType.name)),
   ("issuer", some (.text c.issuer)),
   ("recipient", some (.text c.recipient)),
   ("issued_at_s", some (writeI64 c.issuedAtS)),
   ("nonce", some (.bytes c.nonce)),
   ("session_id", some (ofOption .text c.sessionId)),
   ("authorized_stage", some (ofOption (.text ·.name) c.authorizedStage)),
   ("challenge_nonce", c.challengeNonce.map writeVec),
   ("credentials", if c.credentials = [] then none else some (writeVecs c.credentials)),
   ("grant_id", c.grantId.map .text),
   ("expires_at_s", c.expiresAtS.map writeI64),
   ("protocol_profile_id", c.protocolProfileId.map .text),
   ("protocol_profile_version", c.protocolProfileVersion.map writeU64),
   ("rule_id", c.ruleId.map .text),
   ("authorization_policy_bundle_id", c.authorizationPolicyBundleId.map .text),
   ("authorization_policy_bundle_version", c.authorizationPolicyBundleVersion.map writeU64),
   ("authorization_policy_sha256", c.authorizationPolicySha256.map .text)]

def ProtocolClaims.serialize (c : ProtocolClaims) : Item := .map (written c.fields)

def ProtocolClaims.ofEntries (entries : List (Item × Item)) : Option ProtocolClaims := do
  let messageType ← required (fun i => readString i >>= MessageType.ofName?)
    (values "message_type" entries)
  let issuer ← required readString (values "issuer" entries)
  let recipient ← required readString (values "recipient" entries)
  let issuedAtS ← required readI64 (values "issued_at_s" entries)
  let nonce ← required Serde.readBytes (values "nonce" entries)
  let sessionId ← defaulting (option readString) none (values "session_id" entries)
  let authorizedStage ← defaulting
    (option fun i => readString i >>= AuthorizedStage.ofName?) none
    (values "authorized_stage" entries)
  let challengeNonce ← defaulting (option readVec) none (values "challenge_nonce" entries)
  let credentials ← defaulting readVecs [] (values "credentials" entries)
  let grantId ← defaulting (option readString) none (values "grant_id" entries)
  let expiresAtS ← defaulting (option readI64) none (values "expires_at_s" entries)
  let protocolProfileId ← defaulting (option readString) none
    (values "protocol_profile_id" entries)
  let protocolProfileVersion ← defaulting (option readU64) none
    (values "protocol_profile_version" entries)
  let ruleId ← defaulting (option readString) none (values "rule_id" entries)
  let authorizationPolicyBundleId ← defaulting (option readString) none
    (values "authorization_policy_bundle_id" entries)
  let authorizationPolicyBundleVersion ← defaulting (option readU64) none
    (values "authorization_policy_bundle_version" entries)
  let authorizationPolicySha256 ← defaulting (option readString) none
    (values "authorization_policy_sha256" entries)
  pure { messageType, issuer, recipient, issuedAtS, nonce, sessionId, authorizedStage,
         challengeNonce, credentials, grantId, expiresAtS, protocolProfileId,
         protocolProfileVersion, ruleId, authorizationPolicyBundleId,
         authorizationPolicyBundleVersion, authorizationPolicySha256 }

def ProtocolClaims.deserialize (item : Item) : Option ProtocolClaims :=
  structEntries item >>= ofEntries

def CredentialClaims.fields (c : CredentialClaims) : List (String × Option Item) :=
  [("issuer", some (.text c.issuer)),
   ("subject", some (.text c.subject)),
   ("profile_id", some (.text c.profileId)),
   ("credential_type", some (.text c.credentialType)),
   ("schema_id", some (.text c.schemaId)),
   ("issuer_group", some (.text c.issuerGroup)),
   ("issued_at_s", some (writeI64 c.issuedAtS)),
   ("expires_at_s", some (writeI64 c.expiresAtS)),
   ("status_checked_at_s", some (writeI64 c.statusCheckedAtS))]

def CredentialClaims.serialize (c : CredentialClaims) : Item := .map (written c.fields)

def CredentialClaims.ofEntries (entries : List (Item × Item)) : Option CredentialClaims := do
  let issuer ← required readString (values "issuer" entries)
  let subject ← required readString (values "subject" entries)
  let profileId ← required readString (values "profile_id" entries)
  let credentialType ← required readString (values "credential_type" entries)
  let schemaId ← required readString (values "schema_id" entries)
  let issuerGroup ← required readString (values "issuer_group" entries)
  let issuedAtS ← required readI64 (values "issued_at_s" entries)
  let expiresAtS ← required readI64 (values "expires_at_s" entries)
  let statusCheckedAtS ← required readI64 (values "status_checked_at_s" entries)
  pure { issuer, subject, profileId, credentialType, schemaId, issuerGroup, issuedAtS,
         expiresAtS, statusCheckedAtS }

def CredentialClaims.deserialize (item : Item) : Option CredentialClaims :=
  structEntries item >>= ofEntries

/-! ## Reading back what was written -/

namespace Serde

theorem values_written (name : String) (fields : List (String × Option Item)) :
    values name (written fields) = (fields.filter (·.1 == name)).filterMap (·.2) := by
  induction fields with
  | nil => rfl
  | cons f fields ih =>
    obtain ⟨other, value⟩ := f
    cases value with
    | none =>
      have h : written ((other, none) :: fields) = written fields := rfl
      rw [h, ih, List.filter_cons]
      split <;> rfl
    | some value =>
      have h : written ((other, some value) :: fields) =
          (.text other, value) :: written fields := rfl
      have hn : isNamed name (.text other) = (other == name) := rfl
      rw [h, List.filter_cons]
      unfold values at ih ⊢
      rw [List.filter_cons, hn]
      split <;> simp [ih]

/-- What is written under a name is the value of the field of that name. -/
theorem values_written_of_mem {fields : List (String × Option Item)} {name : String}
    {value : Option Item} (hnd : (fields.map Prod.fst).Nodup) (h : (name, value) ∈ fields) :
    values name (written fields) = value.toList := by
  rw [values_written]
  induction fields with
  | nil => cases h
  | cons f fields ih =>
    simp only [List.map_cons, List.nodup_cons] at hnd
    rcases List.mem_cons.mp h with rfl | h
    · have hrest : fields.filter (·.1 == name) = [] := by
        rw [List.filter_eq_nil_iff]
        intro g hg hn
        exact hnd.1 (by simpa using ⟨g.2, beq_iff_eq.mp hn ▸ hg⟩)
      cases value <;> simp [hrest]
    · have hne : ¬(f.1 == name) = true := by
        intro hn
        exact hnd.1 (beq_iff_eq.mp hn ▸ List.mem_map_of_mem h)
      rw [List.filter_cons, if_neg hne, ih hnd.2 h]

theorem structEntries_written (fields : List (String × Option Item)) :
    structEntries (.map (written fields)) = some (written fields) := by
  simp only [structEntries]
  rw [if_pos]
  rw [List.all_eq_true]
  intro e he
  obtain ⟨f, -, hf⟩ := List.mem_filterMap.mp he
  obtain ⟨value, -, rfl⟩ := Option.map_eq_some_iff.mp hf
  rfl

@[simp] theorem readI64_writeI64 (i : Int64) : readI64 (writeI64 i) = some i := by
  simp only [readI64, writeI64]
  rw [if_pos ⟨i.le_toInt, i.toInt_lt⟩, Int64.ofInt_toInt]

@[simp] theorem readU64_writeU64 (n : UInt64) : readU64 (writeU64 n) = some n := by
  have := n.toNat_lt
  simp only [readU64, writeU64]
  rw [if_pos (by omega), Int.toNat_natCast, UInt64.ofNat_toNat]

theorem mapM_readU8 (b : Bytes) : (b.map fun x => Item.int x.toNat).mapM readU8 = some b := by
  induction b with
  | nil => rfl
  | cons x b ih =>
    have hx := x.toNat_lt
    have hread : readU8 (.int x.toNat) = some x := by
      simp only [readU8]
      rw [if_pos (by omega), Int.toNat_natCast, UInt8.ofNat_toNat]
    simp [hread, ih]

@[simp] theorem readVec_writeVec (b : Bytes) : readVec (writeVec b) = some b := mapM_readU8 b

@[simp] theorem readVecs_writeVecs (bs : List Bytes) : readVecs (writeVecs bs) = some bs := by
  show (bs.map writeVec).mapM readVec = some bs
  induction bs with
  | nil => rfl
  | cons b bs ih => simp [ih]

section

variable {fields : List (String × Option Item)} {name : String}

/-- A mandatory field is read from what was written for it. -/
theorem required_written (hnd : (fields.map Prod.fst).Nodup) {read : Item → Option α}
    {value : Item} (h : (name, some value) ∈ fields) :
    required read (values name (written fields)) = read value := by
  rw [values_written_of_mem hnd h]
  rfl

theorem option_ofOption {read : Item → Option α} {write : α → Item}
    (hread : ∀ a, read (write a) = some a ∧ write a ≠ .null) (o : Option α) :
    option read (ofOption write o) = some o := by
  cases o with
  | none => rfl
  | some a =>
    simp only [ofOption]
    unfold option
    split
    · exact absurd ‹_› (hread a).2
    · rw [(hread a).1, Option.map_some]

/-- An optional field that is written as `null` when absent. -/
theorem option_written (hnd : (fields.map Prod.fst).Nodup) {read : Item → Option α}
    {write : α → Item} {o : Option α} (h : (name, some (ofOption write o)) ∈ fields)
    (hread : ∀ a, read (write a) = some a ∧ write a ≠ .null) :
    defaulting (option read) none (values name (written fields)) = some o := by
  rw [values_written_of_mem hnd h]
  exact option_ofOption hread o

/-- An optional field that is left out when absent. -/
theorem skipped_written (hnd : (fields.map Prod.fst).Nodup) {read : Item → Option α}
    {write : α → Item} {o : Option α} (h : (name, o.map write) ∈ fields)
    (hread : ∀ a, read (write a) = some a ∧ write a ≠ .null) :
    defaulting (option read) none (values name (written fields)) = some o := by
  rw [values_written_of_mem hnd h]
  cases o with
  | none => rfl
  | some a => exact option_ofOption hread (some a)

end

end Serde

@[simp] theorem MessageType.ofName?_name (t : MessageType) :
    MessageType.ofName? t.name = some t := by
  cases t <;> rfl

@[simp] theorem AuthorizedStage.ofName?_name (s : AuthorizedStage) :
    AuthorizedStage.ofName? s.name = some s := by
  cases s <;> rfl

theorem readString_text (s : String) : readString (.text s) = some s ∧ Item.text s ≠ .null :=
  ⟨rfl, nofun⟩

theorem readI64_write (i : Int64) : readI64 (writeI64 i) = some i ∧ writeI64 i ≠ .null :=
  ⟨readI64_writeI64 i, nofun⟩

theorem readU64_write (n : UInt64) : readU64 (writeU64 n) = some n ∧ writeU64 n ≠ .null :=
  ⟨readU64_writeU64 n, nofun⟩

theorem CredentialClaims.deserialize_serialize (c : CredentialClaims) :
    deserialize c.serialize = some c := by
  have hnd : (c.fields.map Prod.fst).Nodup := by
    show ["issuer", "subject", "profile_id", "credential_type", "schema_id", "issuer_group",
      "issued_at_s", "expires_at_s", "status_checked_at_s"].Nodup
    decide
  have hText (name s) (h : (name, some (.text s)) ∈ c.fields) :
      required readString (values name (written c.fields)) = some s := required_written hnd h
  have hI64 (name i) (h : (name, some (writeI64 i)) ∈ c.fields) :
      required readI64 (values name (written c.fields)) = some i :=
    (required_written hnd h).trans (readI64_writeI64 i)
  unfold deserialize serialize
  rw [structEntries_written, Option.bind_eq_bind, Option.bind_some]
  unfold ofEntries
  rw [hText "issuer" c.issuer (by simp [fields]),
    hText "subject" c.subject (by simp [fields]),
    hText "profile_id" c.profileId (by simp [fields]),
    hText "credential_type" c.credentialType (by simp [fields]),
    hText "schema_id" c.schemaId (by simp [fields]),
    hText "issuer_group" c.issuerGroup (by simp [fields]),
    hI64 "issued_at_s" c.issuedAtS (by simp [fields]),
    hI64 "expires_at_s" c.expiresAtS (by simp [fields]),
    hI64 "status_checked_at_s" c.statusCheckedAtS (by simp [fields])]
  rfl

theorem ProtocolClaims.deserialize_serialize (c : ProtocolClaims) :
    deserialize c.serialize = some c := by
  have hnd : (c.fields.map Prod.fst).Nodup := by
    show ["message_type", "issuer", "recipient", "issued_at_s", "nonce", "session_id",
      "authorized_stage", "challenge_nonce", "credentials", "grant_id", "expires_at_s",
      "protocol_profile_id", "protocol_profile_version", "rule_id",
      "authorization_policy_bundle_id", "authorization_policy_bundle_version",
      "authorization_policy_sha256"].Nodup
    decide
  have hText (name o) (h : (name, Option.map Item.text o) ∈ c.fields) :
      defaulting (option readString) none (values name (written c.fields)) = some o :=
    skipped_written hnd h readString_text
  have hU64 (name o) (h : (name, Option.map writeU64 o) ∈ c.fields) :
      defaulting (option readU64) none (values name (written c.fields)) = some o :=
    skipped_written hnd h readU64_write
  have hStage : defaulting (option fun i => readString i >>= AuthorizedStage.ofName?) none
      (values "authorized_stage" (written c.fields)) = some c.authorizedStage := by
    have h : ("authorized_stage", some (ofOption (fun s : AuthorizedStage => .text s.name)
        c.authorizedStage)) ∈ c.fields := by simp [fields]
    exact option_written hnd h fun s => ⟨AuthorizedStage.ofName?_name s, nofun⟩
  have hCredentials : defaulting readVecs [] (values "credentials" (written c.fields)) =
      some c.credentials := by
    rw [values_written_of_mem hnd (.tail _ (.tail _ (.tail _ (.tail _ (.tail _ (.tail _ (.tail _
      (.tail _ (.head _)))))))))]
    split
    · rw [‹c.credentials = []›]
      rfl
    · exact readVecs_writeVecs c.credentials
  unfold deserialize serialize
  rw [structEntries_written, Option.bind_eq_bind, Option.bind_some]
  unfold ofEntries
  rw [required_written hnd (show ("message_type", some (.text c.messageType.name)) ∈ c.fields by
      simp [fields]),
    required_written hnd (show ("issuer", some (.text c.issuer)) ∈ c.fields by simp [fields]),
    required_written hnd (show ("recipient", some (.text c.recipient)) ∈ c.fields by
      simp [fields]),
    required_written hnd (show ("issued_at_s", some (writeI64 c.issuedAtS)) ∈ c.fields by
      simp [fields]),
    required_written hnd (show ("nonce", some (.bytes c.nonce)) ∈ c.fields by simp [fields]),
    option_written hnd (show ("session_id", some (ofOption .text c.sessionId)) ∈ c.fields by
      simp [fields]) readString_text,
    hStage,
    skipped_written hnd (show ("challenge_nonce", c.challengeNonce.map writeVec) ∈ c.fields by
      simp [fields]) fun b => ⟨readVec_writeVec b, nofun⟩,
    hCredentials,
    hText "grant_id" c.grantId (by simp [fields]),
    skipped_written hnd (show ("expires_at_s", c.expiresAtS.map writeI64) ∈ c.fields by
      simp [fields]) readI64_write,
    hText "protocol_profile_id" c.protocolProfileId (by simp [fields]),
    hU64 "protocol_profile_version" c.protocolProfileVersion (by simp [fields]),
    hText "rule_id" c.ruleId (by simp [fields]),
    hText "authorization_policy_bundle_id" c.authorizationPolicyBundleId (by simp [fields]),
    hU64 "authorization_policy_bundle_version" c.authorizationPolicyBundleVersion
      (by simp [fields]),
    hText "authorization_policy_sha256" c.authorizationPolicySha256 (by simp [fields]),
    readI64_writeI64]
  simp only [readString, Option.bind_eq_bind, Option.bind_some, MessageType.ofName?_name,
    Serde.readBytes]
  rfl

end Access
