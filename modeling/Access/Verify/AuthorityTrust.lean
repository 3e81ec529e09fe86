import Access.Verify.EntitlementVerifier
import Access.Verify.Envelopes

/-! # Which keys an authority can sign with

A client trust bundle lists keys under authorities, and each key has an identifier of its own. The
verifier compares the identifier of the key that signed an entitlement with that of the authority it
was told to expect, so of the keys of an authority it takes only one that is named like it. -/

namespace Access

namespace EntitlementVerifier

open EStateM

/-- Records of a bundle with one identifier have one key. -/
def Unambiguous (cr : Crates) (bundle : ClientTrustBundle) : Prop :=
  ∀ record ∈ bundle.records, ∀ record' ∈ bundle.records, record.keyId = record'.keyId →
    record.verifyingKey cr = record'.verifyingKey cr

/-- An envelope with these claims, signed with the key of a record. -/
def SignedWith (cr : Crates) (encoded : Bytes) (record : SigningKeyRecord)
    (claims : ProtocolClaims) : Prop :=
  ∃ key payload, record.verifyingKey cr = .ok key ∧
    SignedUnder cr encoded envelopeAad record.keyId key payload ∧
    cr.fromReader payload >>= ProtocolClaims.deserialize = some claims

/-- A command that presents an entitlement in time and for the first time, in the right session and
for the right operation, as one of an authority. Its issuer is the key it was signed with, or the
authority. -/
structure Presents [ReplayStateBackend B] (cr : Crates) (command : VerifyCommand)
    (bundle : ClientTrustBundle) (authority : TrustedAuthority) (record : SigningKeyRecord)
    (cache : ReplayCache B) (nowS : Int64) (claims : ProtocolClaims) : Prop where
  name : command.command = "verify_entitlement"
  entitlement : ∃ entitlementHex encoded, command.entitlementHex = some entitlementHex ∧
    Hex.decode entitlementHex.asBytes = .ok encoded ∧ SignedWith cr encoded record claims
  expectedAuthority : command.expectedAuthority = some authority.authorityId
  issuer : claims.issuer = record.keyId ∨ claims.issuer = authority.authorityId
  recipient : claims.recipient = bundle.clientId
  fresh : |nowS.toInt - claims.issuedAtS.toInt| ≤ |maxClockSkewS.toInt|
  nonce_length : 16 ≤ claims.nonce.length
  unused : claims.nonce ∉ cache.consumed
  commits : cache.Commits claims.nonce
  messageType : claims.messageType = .authorizationGrant
  unexpired : ∃ expiresAtS, claims.expiresAtS = some expiresAtS ∧ nowS ≤ expiresAtS
  session : ∃ sessionId, claims.sessionId = some sessionId ∧
    command.expectedSessionId = some sessionId
  stage : ∃ stage, claims.authorizedStage = some stage ∧ command.expectedStage = some stage.name
  grantId : claims.grantId.isSome
  protocolProfileId : claims.protocolProfileId.isSome
  protocolProfileVersion : claims.protocolProfileVersion.isSome
  ruleId : claims.ruleId.isSome
  policyBundleId : claims.authorizationPolicyBundleId.isSome
  policyBundleVersion : claims.authorizationPolicyBundleVersion.isSome
  policySha256 : claims.authorizationPolicySha256.isSome

section

variable {cr : Crates} {bundle : ClientTrustBundle} {trust : TrustStore}
  {authority : TrustedAuthority} {record : SigningKeyRecord}

/-- In an unambiguous bundle every key is found under its identifier. -/
theorem Unambiguous.lookup (H : Unambiguous cr bundle) (h : bundle.trustStore cr = .ok trust)
    (hrecord : record ∈ bundle.records) {key : VerifyingKey}
    (hkey : record.verifyingKey cr = .ok key) : trust.lookup record.keyId = some key := by
  have hfound : (bundle.records.findRev? (·.keyId = record.keyId)).isSome := by
    rw [List.findRev?_eq_find?_reverse, List.find?_isSome]
    exact ⟨record, List.mem_reverse.mpr hrecord, decide_eq_true rfl⟩
  obtain ⟨last, hlast⟩ := Option.isSome_iff_exists.mp hfound
  have hmem := hlast
  rw [List.findRev?_eq_find?_reverse] at hmem
  have hname := List.find?_some hmem
  replace hname : last.keyId = record.keyId := of_decide_eq_true hname
  have hsame : last.verifyingKey cr = record.verifyingKey cr :=
    H last (List.mem_reverse.mp (List.mem_of_find?_eq_some hmem)) record hrecord hname
  exact lookup_trustStore_of_findRev h hlast (hsame.trans hkey)

theorem trustsAuthority_of_mem (hauthority : authority ∈ bundle.trustedAuthorities)
    (hrecord : record ∈ authority.signingKeys) :
    bundle.trustsAuthority authority.authorityId record.keyId = true := by
  rw [ClientTrustBundle.trustsAuthority, List.any_eq_true]
  refine ⟨authority, hauthority, ?_⟩
  rw [Bool.and_eq_true, List.any_eq_true]
  exact ⟨decide_eq_true rfl, record, hrecord, decide_eq_true rfl⟩

/-- One envelope names one key. -/
theorem signer_of_signedWith {encoded : Bytes} {claims : ProtocolClaims}
    (h : SignedWith cr encoded record claims) {recipient : String} {nowS skew : Int64}
    {v : VerifiedEnvelope} (hv : EnvelopeVerified cr encoded trust recipient nowS skew v) :
    v.signer = record.keyId := by
  obtain ⟨_, _, _, ⟨message, hmessage, -, hkeyId, -⟩, -⟩ := h
  obtain ⟨_, _, -, ⟨message', hmessage', -, hkeyId', -⟩, -⟩ := hv.signed
  cases hmessage.symm.trans hmessage'
  exact Option.some.inj (hkeyId'.symm.trans hkeyId)

variable [ReplayStateBackend B] {parse : String → Except String VerifyCommand}
  {unixTime : Int64} {input : String} {cache : ReplayCache B} {command : VerifyCommand}
  {claims : ProtocolClaims}

/-- What is accepted for an authority was signed with a key that is named like it. -/
theorem Presents.named_of_accepted
    (H : Presents cr command bundle authority record cache (command.nowS.getD unixTime) claims)
    (hparse : parse input = .ok command) {out : VerifiedEntitlement} {cache' : ReplayCache B}
    (h : verifyCommand cr parse unixTime input bundle trust cache = .ok out cache') :
    record.keyId = authority.authorityId := by
  obtain ⟨_, _, _, v, hparse', -, hhex', hdecode', hv, hchecked, -⟩ := verifyCommand_eq_ok.mp h
  cases hparse.symm.trans hparse'
  obtain ⟨_, _, hhex, hdecode, hsigned⟩ := H.entitlement
  cases hhex.symm.trans hhex'
  cases hdecode.symm.trans hdecode'
  have hexpected : authority.authorityId = v.signer :=
    Option.some.inj (H.expectedAuthority.symm.trans (checkGrant_eq_ok.mp hchecked).expectedAuthority)
  exact (signer_of_signedWith hsigned hv).symm.trans hexpected.symm

/-- The checks after the envelope, when the key is named like the authority. -/
theorem Presents.exists_grantChecked {nowS : Int64}
    (H : Presents cr command bundle authority record cache nowS claims)
    (hauthority : authority ∈ bundle.trustedAuthorities)
    (hrecord : record ∈ authority.signingKeys) (hnamed : record.keyId = authority.authorityId) :
    ∃ out, GrantChecked command bundle nowS ⟨record.keyId, claims⟩ out := by
  obtain ⟨expiresAtS, hexpiresAtS, hunexpired⟩ := H.unexpired
  obtain ⟨sessionId, hsessionId, hexpectedSessionId⟩ := H.session
  obtain ⟨stage, hstage, hexpectedStage⟩ := H.stage
  obtain ⟨grantId, hgrantId⟩ := Option.isSome_iff_exists.mp H.grantId
  obtain ⟨profileId, hprofileId⟩ := Option.isSome_iff_exists.mp H.protocolProfileId
  obtain ⟨version, hversion⟩ := Option.isSome_iff_exists.mp H.protocolProfileVersion
  obtain ⟨ruleId, hruleId⟩ := Option.isSome_iff_exists.mp H.ruleId
  obtain ⟨policyId, hpolicyId⟩ := Option.isSome_iff_exists.mp H.policyBundleId
  obtain ⟨policyVersion, hpolicyVersion⟩ := Option.isSome_iff_exists.mp H.policyBundleVersion
  obtain ⟨sha256, hsha256⟩ := Option.isSome_iff_exists.mp H.policySha256
  have htrusted := trustsAuthority_of_mem hauthority hrecord
  rw [← hnamed] at htrusted
  exact ⟨⟨true, bundle.bundleId, bundle.version, record.keyId, bundle.clientId, grantId, sessionId,
      stage.name, expiresAtS, profileId, version, ruleId, policyId, policyVersion, sha256⟩,
    { messageType := H.messageType
      expectedAuthority := hnamed ▸ H.expectedAuthority
      trusted := htrusted
      expiresAtS := hexpiresAtS
      unexpired := hunexpired
      sessionId := hsessionId
      expectedSessionId := hexpectedSessionId
      stage := congrArg (Option.map AuthorizedStage.name) hstage
      expectedStage := hexpectedStage
      grantId := hgrantId
      protocolProfileId := hprofileId
      protocolProfileVersion := hversion
      ruleId := hruleId
      policyBundleId := hpolicyId
      policyBundleVersion := hpolicyVersion
      policySha256 := hsha256
      bundle := ⟨rfl, rfl, rfl⟩
      authorityId := rfl
      verified := rfl }⟩

/-- What was signed with a key that is named like its authority is accepted. -/
theorem Presents.accepted_of_named
    (H : Presents cr command bundle authority record cache (command.nowS.getD unixTime) claims)
    (htrust : bundle.trustStore cr = .ok trust) (hunambiguous : Unambiguous cr bundle)
    (hauthority : authority ∈ bundle.trustedAuthorities)
    (hrecord : record ∈ authority.signingKeys) (hparse : parse input = .ok command)
    (hnamed : record.keyId = authority.authorityId) :
    ∃ out cache', verifyCommand cr parse unixTime input bundle trust cache = .ok out cache' := by
  obtain ⟨entitlementHex, encoded, hhex, hdecode, key, payload, hkey, hsigned, hclaims⟩ :=
    H.entitlement
  have hmem : record ∈ bundle.records := List.mem_flatMap.mpr ⟨authority, hauthority, hrecord⟩
  have hissuer : claims.issuer = record.keyId := by
    rcases H.issuer with hissuer | hissuer
    · exact hissuer
    · exact hissuer.trans hnamed.symm
  have hverified : EnvelopeVerified cr encoded trust bundle.clientId (command.nowS.getD unixTime)
      maxClockSkewS ⟨record.keyId, claims⟩ :=
    { signed := ⟨key, payload, hunambiguous.lookup htrust hmem hkey, hsigned, hclaims⟩
      issuer_eq := hissuer
      recipient_eq := H.recipient
      fresh := absDiff_le_unsignedAbs.mpr H.fresh
      nonce_length := H.nonce_length }
  obtain ⟨out, hchecked⟩ := H.exists_grantChecked hauthority hrecord hnamed
  obtain ⟨cache', hconsume⟩ := ReplayCache.exists_consume.mpr ⟨H.unused, H.commits⟩
  exact ⟨out, cache', verifyCommand_eq_ok.mpr ⟨command, entitlementHex, encoded, _, hparse, H.name,
    hhex, hdecode, hverified, checkGrant_eq_ok.mpr hchecked, hconsume⟩⟩

end

/-- An entitlement that is presented as it should be, signed with a key that a loaded and
unambiguous bundle lists for the expected authority, is accepted if and only if the key has the
identifier of the authority. -/
theorem accepted_iff_named_like_authority [ReplayStateBackend B] (cr : Crates)
    (parse : String → Except String VerifyCommand) (unixTime startedAtS : Int64) (input : String)
    (parsed bundle : ClientTrustBundle) (trust : TrustStore)
    (hstart : start cr parsed startedAtS = .ok (bundle, trust))
    (hunambiguous : Unambiguous cr bundle) (authority : TrustedAuthority)
    (hauthority : authority ∈ bundle.trustedAuthorities) (record : SigningKeyRecord)
    (hrecord : record ∈ authority.signingKeys) (cache : ReplayCache B) (command : VerifyCommand)
    (hparse : parse input = .ok command) (claims : ProtocolClaims)
    (h : Presents cr command bundle authority record cache (command.nowS.getD unixTime) claims) :
    (∃ out cache', verifyCommand cr parse unixTime input bundle trust cache = .ok out cache') ↔
      record.keyId = authority.authorityId := by
  obtain ⟨-, htrust⟩ := start_eq_ok.mp hstart
  constructor
  · rintro ⟨out, cache', haccepted⟩
    exact h.named_of_accepted hparse haccepted
  · intro hnamed
    exact h.accepted_of_named htrust hunambiguous hauthority hrecord hparse hnamed

end EntitlementVerifier

/-! ## A rotation -/

namespace Simulation

open EntitlementVerifier

/-- The next key of the station. -/
def rotated : IdentityKey := identity "waystation-1-2027" 5

/-- The station with both of its keys. -/
def rotatingAuthority : TrustedAuthority where
  authorityId := station.keyId
  signingKeys := [keyRecord station, keyRecord rotated]

def rotatingBundle : ClientTrustBundle := clientBundle [rotatingAuthority]

theorem start_rotating : start reference rotatingBundle nowS = .ok (rotatingBundle,
    (Finmap.singleton station.keyId station.verifyingKey).insert rotated.keyId
      rotated.verifyingKey) := by
  refine start_eq_ok.mpr ⟨rfl, ?_⟩
  simp only [ClientTrustBundle.trustStore, rotatingBundle, clientBundle, rotatingAuthority,
    List.foldlM_cons, List.foldlM_nil, ClientTrustBundle.insertKey, station, rotated,
    verifyingKey_keyRecord]
  rfl

theorem unambiguous_rotating : Unambiguous reference rotatingBundle := by
  intro record hrecord record' hrecord' hname
  have hmem : ∀ record ∈ rotatingBundle.records,
      record = keyRecord station ∨ record = keyRecord rotated := by
    intro record hrecord
    simpa [ClientTrustBundle.records, rotatingBundle, clientBundle, rotatingAuthority] using hrecord
  rcases hmem record hrecord with rfl | rfl <;> rcases hmem record' hrecord' with rfl | rfl
  · rfl
  · exact absurd hname (by decide)
  · exact absurd hname (by decide)
  · rfl

/-- An entitlement for an approach, by the key that signs it. -/
def approachClaims (signer : IdentityKey) : ProtocolClaims :=
  grantClaims { setup protocolProfile with station := signer } "session-1" "grant-1" .approach nowS
    (List.replicate 32 7)
    { profileId := protocolProfile.profileId, profileVersion := protocolProfile.profileVersion,
      ruleId := approachRule.ruleId, entitlementTtlS := approachRule.entitlementTtlS }
    { gate := "", decision := "", diagnostics := "", policy := metadata }

theorem signed_approach : isOk (signEnvelope reference (approachClaims station) station {}) = true ∧
    isOk (signEnvelope reference (approachClaims rotated) rotated {}) = true := by
  decide +kernel

/-- What an identity signed is presented for the station. -/
theorem presents_approach {keyId : String} {seed : UInt8} {encoded : Bytes} {w : World}
    (h : signEnvelope reference (approachClaims (identity keyId seed)) (identity keyId seed) {} =
      .ok encoded w) :
    Presents (B := FileReplayStateBackend) reference (verifyApproach encoded) rotatingBundle
      rotatingAuthority (keyRecord (identity keyId seed)) {} nowS
      (approachClaims (identity keyId seed)) := by
  obtain ⟨-, payload, hpayload, hsigned⟩ := signEnvelope_eq_ok.mp h
  have hunder := SignedUnder.of_signed reference_faithful (signs_identity keyId seed) hsigned
  have hclaims : reference.fromReader payload >>= ProtocolClaims.deserialize =
      some (approachClaims (identity keyId seed)) := by
    rw [reference_faithful.fromReader_of_intoWriter hpayload, Option.bind_eq_bind, Option.bind_some,
      ProtocolClaims.deserialize_serialize]
  exact
    { name := rfl
      entitlement := ⟨_, encoded, rfl, Hex.decode_encode _, _, payload, verifyingKey_keyRecord _ _,
        hunder, hclaims⟩
      expectedAuthority := rfl
      issuer := .inl rfl
      recipient := rfl
      fresh := (by decide : |nowS.toInt - nowS.toInt| ≤ |maxClockSkewS.toInt|)
      nonce_length := (by decide : 16 ≤ (List.replicate 32 7 : Bytes).length)
      unused := Finset.notMem_empty _
      commits := fun _ hbackend => absurd hbackend (Option.some_ne_none _).symm
      messageType := rfl
      unexpired := ⟨_, rfl, by decide⟩
      session := ⟨_, rfl, rfl⟩
      stage := ⟨_, rfl, rfl⟩
      grantId := rfl
      protocolProfileId := rfl
      protocolProfileVersion := rfl
      ruleId := rfl
      policyBundleId := rfl
      policyBundleVersion := rfl
      policySha256 := rfl }

end Simulation

namespace EntitlementVerifier

open Simulation

/-- Of the two keys of the station, the one that is named like it. -/
theorem accepted_iff_named_like_authority_station :
    ∃ encoded trust out cache, verifyCommand reference (fun _ => .ok (verifyApproach encoded)) nowS
      "" rotatingBundle trust ({} : ReplayCache FileReplayStateBackend) = .ok out cache := by
  obtain ⟨encoded, w, h⟩ := exists_of_isOk signed_approach.1
  obtain ⟨out, cache, haccepted⟩ := (accepted_iff_named_like_authority reference
    (fun _ => .ok (verifyApproach encoded)) nowS nowS "" _ _ _ start_rotating unambiguous_rotating
    rotatingAuthority (.head _) (keyRecord station) (.head _) _ _ rfl _ (presents_approach h)).mpr rfl
  exact ⟨encoded, _, out, cache, haccepted⟩

/-- The other one is refused. -/
theorem listed_key_refused :
    ¬∀ (cr : Crates) (parse : String → Except String VerifyCommand) (unixTime startedAtS : Int64)
      (input : String) (parsed bundle : ClientTrustBundle) (trust : TrustStore),
      start cr parsed startedAtS = .ok (bundle, trust) → Unambiguous cr bundle →
      ∀ authority ∈ bundle.trustedAuthorities, ∀ record ∈ authority.signingKeys,
      ∀ (cache : ReplayCache FileReplayStateBackend) (command : VerifyCommand),
      parse input = .ok command → ∀ claims : ProtocolClaims,
      Presents cr command bundle authority record cache (command.nowS.getD unixTime) claims →
      ∃ out cache', verifyCommand cr parse unixTime input bundle trust cache = .ok out cache' := by
  intro H
  obtain ⟨encoded, w, h⟩ := exists_of_isOk signed_approach.2
  have hpresents := presents_approach h
  obtain ⟨out, cache, haccepted⟩ := H reference (fun _ => .ok (verifyApproach encoded)) nowS nowS ""
    _ _ _ start_rotating unambiguous_rotating rotatingAuthority (.head _) (keyRecord rotated)
    (.tail _ (.head _)) _ _ rfl _ hpresents
  have hnamed : (keyRecord rotated).keyId = rotatingAuthority.authorityId :=
    hpresents.named_of_accepted rfl haccepted
  exact absurd hnamed (by decide)

end EntitlementVerifier

end Access
