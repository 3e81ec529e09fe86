import Access.Runs
import Access.FileReplayState

/-! # A reference for the crates

The crates as functions that compute: COSE messages over `Cbor`, the dates and the policy of the
simulation's configuration, and a stand-in for Ed25519, in which a signature is a checksum of the
key and the message. `reference_faithful` and `reference_timestampsInRange` are their documented
behaviour. On top of it stands an engine with the simulation's configuration. -/

namespace Access

namespace Reference

open Cbor

/-! ## Messages -/

/-- A header: the algorithm under label 1, and the key identifier under label 4. -/
def headerItem (h : Header) : Option Item :=
  match h.alg with
  | some (.assigned value) => some (.map [(.int 1, .int value), (.int 4, .bytes h.keyId)])
  | _ => none

def readHeader : Item → Option Header
  | .map [(.int 1, .int value), (.int 4, .bytes keyId)] =>
    some { alg := some (.assigned value), keyId }
  | _ => none

/-- The bytes of a protected header: those it was read from, or its encoding. -/
def protectedBytes (p : ProtectedHeader) : Option Bytes :=
  match p.originalData with
  | some data => some data
  | none => (headerItem p.header).bind fun i => if i.fits then some i.encode else none

def payloadItem : Option Bytes → Item
  | some payload => .bytes payload
  | none => .null

def readPayload : Item → Option (Option Bytes)
  | .bytes payload => some (some payload)
  | .null => some none
  | _ => none

/-- `COSE_Sign1`: the protected header, no unprotected one, the payload and the signature. -/
def messageItem (data payload : Item) (signature : Bytes) : Item :=
  .tag 18 (.array [data, .map [], payload, .bytes signature])

/-- An item with nothing after it. -/
def decodeWhole (b : Bytes) : Option Item :=
  match decodeItem (2 * b.length) b with
  | some (i, []) => some i
  | _ => none

def toTaggedVec (m : CoseSign1) : Option Bytes := do
  let data ← protectedBytes m.protectedHeader
  let i := messageItem (.bytes data) (payloadItem m.payload) m.signature
  if i.fits then some i.encode else none

def fromTaggedSlice (b : Bytes) : Option CoseSign1 :=
  match decodeWhole b with
  | some (.tag 18 (.array [.bytes data, .map [], payload, .bytes signature])) => do
    let header ← decodeWhole data >>= readHeader
    let payload ← readPayload payload
    if (Item.bytes data).fits && (payloadItem payload).fits then
      some { protectedHeader := { originalData := some data, header }, payload, signature }
    else none
  | _ => none

def sigStructure (data aad payload : Bytes) : Item :=
  .array [.text "Signature1", .bytes data, .bytes aad, .bytes payload]

def tbsData (m : CoseSign1) (aad : Bytes) : Bytes :=
  (sigStructure ((protectedBytes m.protectedHeader).getD []) aad (m.payload.getD [])).encode

def intoWriter (i : Item) : Option Bytes := if i.fits then some i.encode else none

/-! ## Signatures -/

/-- The stand-in signature: 64 bytes that depend on the key and the message. -/
def sign (key : VerifyingKey) (message : Bytes) : Bytes :=
  bigEndian 64 ((key.bytes ++ message).foldl (fun n x => (n * 257 + x.toNat + 1) % (2 ^ 512 - 569)) 1)

/-! ## Dates -/

def parseFromRfc3339 : String → Option Int64
  | "2026-01-01T00:00:00Z" => some 1767225600
  | "2027-01-01T00:00:00Z" => some 1798761600
  | _ => none

/-! ## Policy -/

/-- A fact of a context. -/
def holds (context : CedarContext) (name : String) : Bool := context.lookup name = some (.bool true)

/-- `context.name <= limit` -/
def atMost (context : CedarContext) (name : String) (limit : Int64) : Bool :=
  match context.lookup name with
  | some (.long value) => value ≤ limit
  | _ => false

/-- `commercial-docking.cedar` -/
def commercialDocking (r : CedarRequest) : Bool :=
  let context := r.context
  r.principal.typeName = "Vehicle" && r.resource = ⟨"Station", "waystation-1"⟩ &&
    r.action.typeName = "Action" &&
    match r.action.id with
    | "authorize_session" =>
      ["registered_vehicle", "docking_certified", "holder_proof_valid"].all (holds context)
    | "enter_approach" =>
      ["registered_vehicle", "holder_proof_valid", "readiness_fresh", "initial_hold_confirmed",
        "retreat_available"].all (holds context) && atMost context "closing_rate_mmps" 600
    | "enter_final_approach" =>
      ["registered_vehicle", "docking_certified", "holder_proof_valid", "session_authorized",
        "readiness_fresh", "relative_navigation_valid", "approach_corridor_clear",
        "closing_rate_within_limit"].all (holds context) &&
        atMost context "closing_rate_mmps" 200 && atMost context "range_mm" 1120
    | "engage_soft_capture" =>
      ["docking_certified", "holder_proof_valid", "session_authorized", "readiness_fresh",
        "alignment_within_limit", "capture_system_ready"].all (holds context) &&
        atMost context "closing_rate_mmps" 100 && atMost context "range_mm" 320
    | "engage_hard_dock" =>
      ["docking_certified", "holder_proof_valid", "session_authorized", "readiness_fresh",
        "soft_capture_confirmed", "latches_ready", "relative_motion_stable"].all (holds context) &&
        atMost context "closing_rate_mmps" 50 && atMost context "range_mm" 40
    | _ => false

/-- What an approach needs. -/
theorem commercialDocking_approach {r : CedarRequest} (haction : r.action.id = "enter_approach")
    (h : commercialDocking r = true) :
    holds r.context "initial_hold_confirmed" = true ∧
      atMost r.context "closing_rate_mmps" 600 = true := by
  simp only [commercialDocking, haction, List.all_cons, Bool.and_eq_true] at h
  obtain ⟨-, ⟨-, -, -, hhold, -⟩, hrate⟩ := h
  exact ⟨hhold, hrate⟩

/-! ## Round trips -/

theorem decodeWhole_encode {i : Item} (h : i.fits) : decodeWhole i.encode = some i := by
  have hsize := i.size_le
  have hdecode := decodeItem_encode i h (show i.size ≤ 2 * i.encode.length by omega) []
  rw [List.append_nil] at hdecode
  simp only [decodeWhole, hdecode]

theorem readPayload_payloadItem (o : Option Bytes) : readPayload (payloadItem o) = some o := by
  cases o <;> rfl

theorem headerItem_eq_some {h : Header} {i : Item} (hi : headerItem h = some i) :
    readHeader i = some h := by
  unfold headerItem at hi
  split at hi
  · cases hi
    obtain ⟨alg, keyId⟩ := h
    simp_all [readHeader]
  · cases hi

/-- The protected header that is written is read back. -/
theorem protectedBytes_eq_some {p : ProtectedHeader} (hp : p.originalData = none) {data : Bytes}
    (h : protectedBytes p = some data) : decodeWhole data >>= readHeader = some p.header := by
  simp only [protectedBytes, hp, Option.bind_eq_some_iff] at h
  obtain ⟨i, hi, h⟩ := h
  split at h
  · cases h
    rw [decodeWhole_encode ‹_›, Option.bind_eq_bind, Option.bind_some, headerItem_eq_some hi]
  · cases h

theorem fits_messageItem {data payload : Item} {signature : Bytes} :
    (messageItem data payload signature).fits = true ↔
      data.fits = true ∧ payload.fits = true ∧ (Item.bytes signature).fits = true := by
  simp [messageItem, Item.fits, fitsItems, fitsEntries]

theorem fits_sigStructure {data aad payload : Bytes} (hdata : (Item.bytes data).fits = true)
    (haad : aad.length < 256) (hpayload : (Item.bytes payload).fits = true) :
    (sigStructure data aad payload).fits = true := by
  have htext : "Signature1".asBytes.length = 10 := by decide
  simp only [Item.fits, decide_eq_true_eq] at hdata hpayload
  simp [sigStructure, Item.fits, fitsItems, htext]
  omega

theorem fits_getD_payload {o : Option Bytes} (h : (payloadItem o).fits = true) :
    (Item.bytes (o.getD [])).fits = true := by
  cases o with
  | none => decide
  | some payload => exact h

/-- A message that is written. -/
theorem toTaggedVec_eq_some {m : CoseSign1} {b : Bytes} (h : toTaggedVec m = some b) :
    ∃ data, protectedBytes m.protectedHeader = some data ∧ (Item.bytes data).fits = true ∧
      (payloadItem m.payload).fits = true ∧
      b = (messageItem (.bytes data) (payloadItem m.payload) m.signature).encode ∧
      (messageItem (.bytes data) (payloadItem m.payload) m.signature).fits = true := by
  simp only [toTaggedVec, Option.bind_eq_bind, Option.bind_eq_some_iff] at h
  obtain ⟨data, hdata, h⟩ := h
  split at h
  · rename_i hfits
    cases h
    obtain ⟨h₁, h₂, -⟩ := fits_messageItem.mp hfits
    exact ⟨data, hdata, h₁, h₂, rfl, hfits⟩
  · cases h

/-- A message that is read. -/
theorem fromTaggedSlice_eq_some {m : CoseSign1} {b : Bytes} (h : fromTaggedSlice b = some m) :
    ∃ data, m.protectedHeader.originalData = some data ∧ (Item.bytes data).fits = true ∧
      (payloadItem m.payload).fits = true ∧
      decodeWhole data >>= readHeader = some m.protectedHeader.header := by
  unfold fromTaggedSlice at h
  split at h
  · simp only [Option.bind_eq_bind, Option.bind_eq_some_iff] at h
    obtain ⟨header, hheader, payload, -, h⟩ := h
    split at h
    · rename_i data _ _ _ hboth
      cases h
      obtain ⟨h₁, h₂⟩ := Bool.and_eq_true_iff.mp hboth
      exact ⟨data, rfl, h₁, h₂, Option.bind_eq_some_iff.mpr hheader⟩
    · cases h
  · cases h

end Reference

open Reference in
/-- The crates, on the inputs of the simulation. -/
def reference : Crates where
  fromTaggedSlice := fromTaggedSlice
  toTaggedVec := toTaggedVec
  tbsData := tbsData
  intoWriter := intoWriter
  fromReader := Cbor.decode
  isVerifyingKey b := b.length = 32
  verifyStrict key message signature := signature = sign key message
  parseFromRfc3339 := parseFromRfc3339
  policySetFromStr source := .ok ⟨source⟩
  policySetIsEmpty policies := policies.source.isEmpty
  sha256 _ := []
  parseEntityUid typeName id := .ok ⟨typeName, id⟩
  contextFromJsonValue facts := .ok facts
  requestNew principal action resource context := .ok ⟨principal, action, resource, context⟩
  isAuthorized request _ :=
    { decision := if commercialDocking request then .allow else .deny, errors := [],
      diagnostics := "" }

theorem reference_allow {r : CedarRequest} {policies : PolicySet}
    (h : (reference.isAuthorized r policies).decision = .allow) :
    Reference.commercialDocking r = true := by
  by_contra hnot
  simp only [reference, hnot, if_false, reduceCtorEq] at h

open Reference in
theorem reference_faithful : reference.Faithful where
  fromReader_of_intoWriter {i b} h := by
    simp only [reference, intoWriter] at h ⊢
    split at h
    · cases h
      exact Cbor.decode_encode ‹_›
    · cases h
  fromTaggedSlice_of_toTaggedVec {m b} horiginal h := by
    obtain ⟨data, hdata, hfits, hpayload, rfl, hwhole⟩ := toTaggedVec_eq_some h
    have hheader := protectedBytes_eq_some horiginal hdata
    have hread := decodeWhole_encode hwhole
    refine ⟨⟨⟨some data, m.protectedHeader.header⟩, m.payload, m.signature⟩, ?_, rfl, rfl, rfl,
      fun aad => ?_⟩
    · rw [messageItem] at hread
      simp only [reference, fromTaggedSlice, messageItem, hread, hheader, Option.bind_eq_bind,
        Option.bind_some, readPayload_payloadItem, hfits, hpayload, Bool.and_self, if_true]
    · simp only [reference, tbsData, hdata]
      rfl
  tbsData_signature _ _ _ := rfl
  of_tbsData_eq {m b m' b' aad aad'} horiginal h h' haad haad' heq := by
    obtain ⟨data, hdata, hfits, hpayload, -⟩ := toTaggedVec_eq_some h
    obtain ⟨data', hdata', hfits', hpayload', hheader'⟩ := fromTaggedSlice_eq_some h'
    have hbytes' : protectedBytes m'.protectedHeader = some data' := by
      simp only [protectedBytes, hdata']
    simp only [reference, tbsData, hdata, hbytes', Option.getD_some] at heq
    have hsame := Cbor.encode_inj (fits_sigStructure hfits' haad' (fits_getD_payload hpayload'))
      (fits_sigStructure hfits haad (fits_getD_payload hpayload)) heq
    simp only [sigStructure, Cbor.Item.array.injEq, List.cons.injEq, Cbor.Item.bytes.injEq,
      true_and, and_true] at hsame
    obtain ⟨rfl, rfl, hpayload⟩ := hsame
    have hheader := protectedBytes_eq_some horiginal hdata
    exact ⟨Option.some.inj (hheader'.symm.trans hheader), rfl, hpayload⟩

open Reference in
theorem reference_timestampsInRange : reference.TimestampsInRange := by
  intro text t h
  simp only [reference, parseFromRfc3339] at h
  split at h <;> cases h <;> decide

/-! ## The simulation

The engine of the simulation, except that its gate also trusts the key of `mallory`. -/

namespace Simulation

open Reference

def nowS : Int64 := 1787900100

def approachRule : StageRuleProfile where
  ruleId := "enter-approach"
  action := "enter_approach"
  fromStage := "hold"
  toStage := "approach"
  holderProofRequired := true
  requiredSessionStatus := "pending"
  maximumProofAgeS := some 60
  readiness := { maximumAgeMs := 1000 }
  entitlementTtlS := 60

def finalApproachRule : StageRuleProfile where
  ruleId := "enter-final-approach"
  action := "enter_final_approach"
  fromStage := "approach"
  toStage := "final_approach"
  holderProofRequired := true
  requiredSessionStatus := "authorized"
  maximumProofAgeS := some 30
  readiness := { maximumAgeMs := 500 }
  entitlementTtlS := 30

def softCaptureRule : StageRuleProfile where
  ruleId := "engage-soft-capture"
  action := "engage_soft_capture"
  fromStage := "final_approach"
  toStage := "soft_capture"
  holderProofRequired := true
  requiredSessionStatus := "authorized"
  maximumProofAgeS := some 30
  readiness := { maximumAgeMs := 250 }
  entitlementTtlS := 15

def hardDockRule : StageRuleProfile where
  ruleId := "engage-hard-dock"
  action := "engage_hard_dock"
  fromStage := "soft_capture"
  toStage := "hard_dock"
  holderProofRequired := true
  requiredSessionStatus := "authorized"
  maximumProofAgeS := some 15
  readiness := { maximumAgeMs := 100 }
  entitlementTtlS := 10

/-- `access-protocol-profile.json` -/
def protocolProfile : ProtocolProfile where
  schemaVersion := "1.0"
  profileId := "access-docking-protocol-v1"
  profileVersion := 1
  validFrom := "2026-01-01T00:00:00Z"
  validUntil := "2027-01-01T00:00:00Z"
  trustBundle := { bundleId := "waystation-1-trust", minimumVersion := 42, maximumAgeS := 604800 }
  credentialProfiles :=
    [{ profileId := "registered-vehicle-v1"
       credentialType := "VehicleRegistrationCredential"
       schemaId := "space:vehicle-registration:v1"
       issuerGroups := ["recognized-registrars"]
       maximumStatusAgeS := some 604800 },
     { profileId := "idss-compatible-v1"
       credentialType := "DockingCertificationCredential"
       schemaId := "space:docking-certification:v1"
       issuerGroups := ["recognized-docking-authorities"]
       maximumStatusAgeS := some 86400 }]
  stageRules := [approachRule, finalApproachRule, softCaptureRule, hardDockRule]

/-- An identity with a stand-in key. -/
def identity (keyId : String) (seed : UInt8) : IdentityKey where
  keyId
  verifyingKey := ⟨List.replicate 32 seed⟩
  signer _ payload := .ok (sign ⟨List.replicate 32 seed⟩ payload)

def chaser : IdentityKey := identity "odyssey-7" 1

def station : IdentityKey := identity "waystation-1" 2

def issuer : IdentityKey := identity "orbital-registry" 3

def mallory : IdentityKey := identity "mallory" 4

/-- A random source whose first 256 answers are different. -/
def randomSource : RandomSource := fun n =>
  .ok ⟨List.replicate 32 (UInt8.ofNat n), List.length_replicate⟩

def metadata : AccessPolicyMetadata where
  bundleId := "waystation-1-commercial-authorization"
  bundleVersion := 1
  policySha256 := "sha-256:7916f9dc9bd0864768927bad5b837e949f0279cce0fa85bbd377ee2dc2c234d6"

def setup (protocolProfile : ProtocolProfile) : EngineSetup where
  chaser
  station
  credentialIssuer := issuer
  stationPeerTrust := Finmap.singleton chaser.keyId chaser.verifyingKey
  chaserPeerTrust := Finmap.singleton station.keyId station.verifyingKey
  credentialTrust := Finmap.singleton issuer.keyId issuer.verifyingKey
  gateTrust := (Finmap.singleton station.keyId station.verifyingKey).insert mallory.keyId
    mallory.verifyingKey
  config :=
    { protocolProfile
      authorizationPolicyEngine := { policies := ⟨"commercial-docking.cedar"⟩, metadata }
      trustBundleId := "waystation-1-trust"
      trustBundleVersion := 42
      trustBundleIssuedAtS := nowS - 60 }
  randomSource

/-- The credentials of a session. -/
def credentials : List VerifiedCredentialEvidence :=
  (sessionCredentials (setup protocolProfile) .nominal nowS).map (·.evidence)

/-- Evidence with some checks, in front of the station. -/
def readiness (checks : List String) (rangeM closingRateMps : Rat) : ReadinessEvidence where
  observedAtMs := nowS * 1000
  rangeM := .finite rangeM
  closingRateMps := .finite closingRateMps
  checks := (checks.map fun name => ⟨name, true⟩).toFinmap

/-- Evidence on which the policy allows an approach. -/
def steady : ReadinessEvidence :=
  readiness ["initial_hold_confirmed", "retreat_available"] (332 / 100) (1 / 100)

/-- Evidence of a closing rate at which it does not. -/
def closing : ReadinessEvidence :=
  readiness ["initial_hold_confirmed", "retreat_available"] (332 / 100) 10

def established : List (Call FileReplayStateBackend) := [.establishSession nowS .nominal]

def requested : List (Call FileReplayStateBackend) :=
  .requestTransition 1 nowS steady :: established

/-- The state after a run of the simulation. -/
abbrev after (calls : List (Call FileReplayStateBackend)) : Host FileReplayStateBackend :=
  Host.after reference (setup protocolProfile) calls

/-- What a method returned. -/
def outcome : EStateM.Result ε σ α → Option α
  | .ok a _ => some a
  | .error _ _ => none

/-- The outcome of a request for an approach. -/
def issued : Option TransitionOutcome :=
  outcome (requestTransition reference 1 nowS steady (after established))

/-- The envelope of what was signed last. -/
def lastSigned (w : World) : Bytes :=
  match w.signings with
  | sig :: _ =>
    (toTaggedVec { sig.message with
      signature := sign sig.key (tbsData sig.message sig.externalAad) }).getD []
  | [] => []

/-- The grant of the request. -/
def grant : Bytes := lastSigned (after requested).world

/-- What `mallory` makes of the grant: a message of another type, with a later expiry. -/
def forgedClaims : ProtocolClaims where
  messageType := .sessionOffer
  issuer := mallory.keyId
  recipient := chaser.keyId
  issuedAtS := nowS
  nonce := List.replicate 32 255
  sessionId := issued.bind (·.sessionId)
  authorizedStage := some .approach
  grantId := issued.bind (·.grantId)
  expiresAtS := some (nowS + 86400)
  protocolProfileId := some protocolProfile.profileId
  protocolProfileVersion := some protocolProfile.profileVersion
  ruleId := some approachRule.ruleId
  authorizationPolicyBundleId := some metadata.bundleId
  authorizationPolicyBundleVersion := some metadata.bundleVersion
  authorizationPolicySha256 := some metadata.policySha256

/-- The envelope of claims that an identity signed. -/
def envelope (claims : ProtocolClaims) (identity : IdentityKey) : Bytes :=
  match signEnvelope reference claims identity {} with
  | .ok encoded _ => encoded
  | .error _ _ => []

theorem envelope_eq {claims : ProtocolClaims} {identity : IdentityKey} {encoded : Bytes} {w : World}
    (h : signEnvelope reference claims identity {} = .ok encoded w) :
    envelope claims identity = encoded := by
  simp only [envelope, h]

def forged : Bytes := envelope forgedClaims mallory

/-- What has happened before a redemption, the latest first. -/
def earlier : List (Event FileReplayStateBackend) :=
  history reference (setup protocolProfile) requested

/-- A redemption for an approach, after the request. -/
def redemptionOf (signedGrantHex : String) (readiness : ReadinessEvidence) :
    Event FileReplayStateBackend :=
  Run.event (step reference) (after requested) (.redeemTransition signedGrantHex 1 nowS readiness)

theorem before_redemptionOf (signedGrantHex : String) (readiness : ReadinessEvidence) :
    (redemptionOf signedGrantHex readiness).before = after requested := by
  simp only [redemptionOf, Run.event]

theorem history_redemptionOf (signedGrantHex : String) (readiness : ReadinessEvidence) :
    history reference (setup protocolProfile)
        (.redeemTransition signedGrantHex 1 nowS readiness :: requested) =
      [] ++ redemptionOf signedGrantHex readiness :: earlier := rfl

theorem exists_of_toOption {r : Except ε α} (h : r.toOption.isSome = true) : ∃ a, r = .ok a := by
  cases r with
  | ok a => exact ⟨a, rfl⟩
  | error e => cases h

theorem exists_of_toOption_any {r : Except ε α} {p : α → Bool} (h : r.toOption.any p = true) :
    ∃ a, r = .ok a ∧ p a = true := by
  cases r with
  | ok a => exact ⟨a, rfl, h⟩
  | error e => cases h

theorem exists_of_outcome {r : EStateM.Result ε σ α} {p : α → Bool}
    (h : (outcome r).any p = true) : ∃ a s, r = .ok a s ∧ p a = true := by
  cases r with
  | ok a s => exact ⟨a, s, rfl, h⟩
  | error e s => cases h

def isOk (r : EStateM.Result ε σ α) : Bool := (outcome r).isSome

theorem exists_of_isOk {r : EStateM.Result ε σ α} (h : isOk r = true) : ∃ a s, r = .ok a s := by
  cases r with
  | ok a s => exact ⟨a, s, rfl⟩
  | error e s => cases h

theorem exists_of_not_isOk {r : EStateM.Result ε σ α} (h : isOk r = false) :
    ∃ e s, r = .error e s := by
  cases r with
  | ok a s => cases h
  | error e s => exact ⟨e, s, rfl⟩

theorem reply_of_redeemTransition {signedGrantHex : String} {requestedState : UInt8} {nowS : Int64}
    {readiness : ReadinessEvidence} {s : Host FileReplayStateBackend}
    (h : isOk (redeemTransition reference signedGrantHex requestedState nowS readiness s) = true) :
    ∃ out, (Run.event (step reference) s
      (.redeemTransition signedGrantHex requestedState nowS readiness)).reply =
        .redeemed (.ok out) := by
  obtain ⟨out, s', h⟩ := exists_of_isOk h
  exact ⟨out, by simp only [Run.event, step, answer, h]⟩

theorem findRule_approach : protocolProfile.findRule "hold" "approach" = some approachRule := rfl

theorem transitionNames_of_hold {state : DockingState} (h : state = .hold) :
    transitionNames state 1 = some ("hold", "approach") := h ▸ rfl

/-- A session is established, and a grant is issued and redeemed: on the evidence it was issued on,
on other evidence, and as `mallory` presents it. -/
theorem runs :
    isOk (establishSession reference nowS .nominal (after [])) = true ∧
    (after established).engine.state = .hold ∧
    issued.any (·.approved) = true ∧
    (after requested).engine.state = .hold ∧
    isOk (redeemTransition reference (Hex.encode grant) 1 nowS steady (after requested)) = true ∧
    isOk (redeemTransition reference (Hex.encode grant) 1 nowS closing (after requested)) = true ∧
    isOk (redeemTransition reference (Hex.encode forged) 1 nowS steady (after requested)) = true ∧
    (fromTaggedSlice grant).all (fun message =>
      message.protectedHeader.header.keyId.toUtf8? = some station.keyId &&
      (after requested).world.signings.any fun sig => sig.key = station.verifyingKey &&
        tbsData message envelopeAad = tbsData sig.message sig.externalAad) = true ∧
    isOk (signEnvelope reference forgedClaims mallory {}) = true ∧
    (fromTaggedSlice forged).all (fun message =>
      !verifySignature reference message envelopeAad station.verifyingKey) = true := by
  simp only [redeemTransition, acceptGrant, Hex.decode_encode]
  decide +kernel

end Simulation

end Access
