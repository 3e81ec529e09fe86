import Access.EntitlementVerifier
import Access.Reference
import Access.Verify.Protocol

/-! # Whose key an entitlement is verified under

The trust store of the verifier has one key for each key identifier, the last one of the bundle
(`lookup_trustStore`), whichever authority lists it. -/

namespace Access

namespace EntitlementVerifier

open EStateM

variable {cr : Crates} {bundle : ClientTrustBundle} {trust : TrustStore}

/-- All the records of a bundle, in the order in which `trust_store` inserts them. -/
def ClientTrustBundle.records (bundle : ClientTrustBundle) : List SigningKeyRecord :=
  bundle.trustedAuthorities.flatMap (·.signingKeys)

/-- The key is listed among the signing keys of an authority. -/
def ListsKey (cr : Crates) (bundle : ClientTrustBundle) (authorityId : String)
    (key : VerifyingKey) : Prop :=
  ∃ authority ∈ bundle.trustedAuthorities, authority.authorityId = authorityId ∧
    ∃ record ∈ authority.signingKeys, record.verifyingKey cr = .ok key

/-- The signature of an envelope verifies under a key. -/
def VerifiesUnder (cr : Crates) (encoded : Bytes) (key : VerifyingKey) : Prop :=
  ∃ message, cr.fromTaggedSlice encoded = some message ∧
    verifySignature cr message envelopeAad key = true

/-- The last record with an authority's identifier for its key identifier has a key that this
authority lists. -/
def LastKeyListed (cr : Crates) (bundle : ClientTrustBundle) (authorityId : String) : Prop :=
  ∃ record key, bundle.records.findRev? (·.keyId = authorityId) = some record ∧
    record.verifyingKey cr = .ok key ∧ ListsKey cr bundle authorityId key

/-- No two keys of a bundle verify the same envelope. -/
def Distinguishes (cr : Crates) (bundle : ClientTrustBundle) (encoded : Bytes) : Prop :=
  ∀ record ∈ bundle.records, ∀ record' ∈ bundle.records, ∀ key key',
    record.verifyingKey cr = .ok key → record'.verifyingKey cr = .ok key' →
      VerifiesUnder cr encoded key → VerifiesUnder cr encoded key' → key = key'

/-! ## The trust store -/

/-- What a pass over records leaves under an identifier: the last key with it, or what was there. -/
theorem lookup_foldlM_insertKey {records : List SigningKeyRecord} {start stop : TrustStore × Nat}
    (h : records.foldlM (ClientTrustBundle.insertKey cr) start = .ok stop) (keyId : String) :
    match records.findRev? (·.keyId = keyId) with
    | some record => record ∈ records ∧
      ∃ key, record.verifyingKey cr = .ok key ∧ stop.1.lookup keyId = some key
    | none => stop.1.lookup keyId = start.1.lookup keyId := by
  induction records generalizing start with
  | nil =>
    cases h
    rfl
  | cons record records ih =>
    rw [List.foldlM_cons, Except.bind_eq_ok] at h
    obtain ⟨next, hnext, h⟩ := h
    simp only [ClientTrustBundle.insertKey, Except.bind_eq_ok, Except.pure_eq_ok] at hnext
    obtain ⟨key, hkey, rfl⟩ := hnext
    have ih := ih h
    rw [List.findRev?]
    cases hlast : records.findRev? (·.keyId = keyId) with
    | some found =>
      rw [hlast] at ih
      exact ⟨.tail _ ih.1, ih.2⟩
    | none =>
      rw [hlast] at ih
      by_cases hid : record.keyId = keyId
      · subst hid
        simp only [decide_true, if_true]
        exact ⟨.head _, key, hkey, ih.trans (Finmap.lookup_insert _)⟩
      · simp only [hid, decide_false, Bool.false_eq_true, if_false]
        exact ih.trans (Finmap.lookup_insert_of_ne _ (Ne.symm hid))

theorem foldlM_signingKeys (authorities : List TrustedAuthority) (start : TrustStore × Nat) :
    authorities.foldlM (fun store authority =>
        authority.signingKeys.foldlM (ClientTrustBundle.insertKey cr) store) start =
      (authorities.flatMap (·.signingKeys)).foldlM (ClientTrustBundle.insertKey cr) start := by
  induction authorities generalizing start with
  | nil => rfl
  | cons authority authorities ih =>
    rw [List.flatMap_cons, List.foldlM_append, List.foldlM_cons]
    exact congrArg _ (funext ih)

/-- The store of a bundle has the last key with an identifier. -/
theorem lookup_trustStore (h : bundle.trustStore cr = .ok trust) {keyId : String}
    {key : VerifyingKey} (hkey : trust.lookup keyId = some key) :
    ∃ record ∈ bundle.records, bundle.records.findRev? (·.keyId = keyId) = some record ∧
      record.verifyingKey cr = .ok key := by
  simp only [ClientTrustBundle.trustStore, foldlM_signingKeys, Except.bind_eq_ok,
    Except.failIf_eq_ok, Except.pure_eq_ok, Prod.exists] at h
  obtain ⟨_, _, hfold, _, _, rfl⟩ := h
  have hlast := lookup_foldlM_insertKey hfold keyId
  rw [← ClientTrustBundle.records] at hlast
  cases hfound : bundle.records.findRev? (·.keyId = keyId) with
  | none =>
    rw [hfound] at hlast
    cases (hkey.symm.trans hlast).trans (Finmap.lookup_empty keyId)
  | some record =>
    rw [hfound] at hlast
    obtain ⟨hmem, _, hrecord, hstored⟩ := hlast
    cases hkey.symm.trans hstored
    exact ⟨record, hmem, rfl, hrecord⟩

/-- The store of a bundle has the key of the last record with an identifier. -/
theorem lookup_trustStore_of_findRev (h : bundle.trustStore cr = .ok trust) {keyId : String}
    {record : SigningKeyRecord} (hlast : bundle.records.findRev? (·.keyId = keyId) = some record)
    {key : VerifyingKey} (hkey : record.verifyingKey cr = .ok key) :
    trust.lookup keyId = some key := by
  simp only [ClientTrustBundle.trustStore, foldlM_signingKeys, Except.bind_eq_ok,
    Except.failIf_eq_ok, Except.pure_eq_ok, Prod.exists] at h
  obtain ⟨_, _, hfold, _, _, rfl⟩ := h
  have hstored := lookup_foldlM_insertKey hfold keyId
  rw [← ClientTrustBundle.records, hlast] at hstored
  obtain ⟨-, key', hkey', hstored⟩ := hstored
  cases hkey.symm.trans hkey'
  exact hstored

/-! ## Verification -/

/-- What is checked of a verified envelope before it is accepted, and what is returned of it. -/
structure GrantChecked (command : VerifyCommand) (bundle : ClientTrustBundle) (nowS : Int64)
    (v : VerifiedEnvelope) (out : VerifiedEntitlement) : Prop where
  messageType : v.claims.messageType = .authorizationGrant
  expectedAuthority : command.expectedAuthority = some v.signer
  trusted : bundle.trustsAuthority v.signer v.signer = true
  expiresAtS : v.claims.expiresAtS = some out.expiresAtS
  unexpired : nowS ≤ out.expiresAtS
  sessionId : v.claims.sessionId = some out.sessionId
  expectedSessionId : command.expectedSessionId = some out.sessionId
  stage : v.claims.authorizedStage.map (·.name) = some out.authorizedStage
  expectedStage : command.expectedStage = some out.authorizedStage
  grantId : v.claims.grantId = some out.grantId
  protocolProfileId : v.claims.protocolProfileId = some out.protocolProfileId
  protocolProfileVersion : v.claims.protocolProfileVersion = some out.protocolProfileVersion
  ruleId : v.claims.ruleId = some out.ruleId
  policyBundleId : v.claims.authorizationPolicyBundleId = some out.authorizationPolicyBundleId
  policyBundleVersion :
    v.claims.authorizationPolicyBundleVersion = some out.authorizationPolicyBundleVersion
  policySha256 : v.claims.authorizationPolicySha256 = some out.authorizationPolicySha256
  bundle : out.trustBundleId = bundle.bundleId ∧ out.trustBundleVersion = bundle.version ∧
    out.clientId = bundle.clientId
  authorityId : out.authorityId = v.signer
  verified : out.verified = true

theorem checkGrant_eq_ok {command : VerifyCommand} {nowS : Int64} {v : VerifiedEnvelope}
    {out : VerifiedEntitlement} :
    checkGrant command bundle nowS v = .ok out ↔ GrantChecked command bundle nowS v out := by
  simp only [checkGrant, Except.bind_eq_ok, Except.failIf_eq_ok, Except.okOr_eq_ok,
    Except.pure_eq_ok, not_or, not_not, gt_iff_lt, Int64.not_lt, Bool.not_eq_false, and_assoc,
    exists_and_left, exists_const]
  constructor
  · rintro ⟨htype, authority, hauthority, rfl, htrusted, expiry, hexpiry, hunexpired, session,
      hsession, hexpected, stage, hstage, hexpectedStage, grantId, hgrant, profile, hprofile,
      version, hversion, rule, hrule, policy, hpolicy, policyVersion, hpolicyVersion, sha, hsha, rfl⟩
    exact ⟨htype, hauthority, htrusted, hexpiry, hunexpired, hsession, hexpected,
      by rw [hstage, Option.map_some], hexpectedStage, hgrant, hprofile, hversion, hrule, hpolicy,
      hpolicyVersion, hsha, ⟨rfl, rfl, rfl⟩, rfl, rfl⟩
  · rintro ⟨htype, hauthority, htrusted, hexpiry, hunexpired, hsession, hexpected, hstage,
      hexpectedStage, hgrant, hprofile, hversion, hrule, hpolicy, hpolicyVersion, hsha,
      ⟨hbundle, hbundleVersion, hclient⟩, hout, hverified⟩
    obtain ⟨stage, hstage, hname⟩ := Option.map_eq_some_iff.mp hstage
    refine ⟨htype, _, hauthority, rfl, htrusted, _, hexpiry, hunexpired, _, hsession, hexpected,
      stage, hstage, hname ▸ hexpectedStage, _, hgrant, _, hprofile, _, hversion, _, hrule, _, hpolicy,
      _, hpolicyVersion, _, hsha, ?_⟩
    cases out
    simp_all

theorem verifyCommand_eq_ok [ReplayStateBackend B] {parse : String → Except String VerifyCommand}
    {unixTime : Int64} {input : String} {cache cache' : ReplayCache B} {out : VerifiedEntitlement} :
    verifyCommand cr parse unixTime input bundle trust cache = .ok out cache' ↔
      ∃ command entitlementHex encoded v, parse input = .ok command ∧
        command.command = "verify_entitlement" ∧ command.entitlementHex = some entitlementHex ∧
        Hex.decode entitlementHex.asBytes = .ok encoded ∧
        EnvelopeVerified cr encoded trust bundle.clientId (command.nowS.getD unixTime)
          maxClockSkewS v ∧
        checkGrant command bundle (command.nowS.getD unixTime) v = .ok out ∧
        ReplayCache.consume v.claims.nonce cache = .ok () cache' := by
  simp only [verifyCommand, bind_eq_ok, ofExcept_eq_ok, failIf_eq_ok, okOr_eq_ok, Part.run_eq_ok,
    verifyEnvelope_eq_ok, not_not, and_assoc, exists_and_left, exists_eq_left, exists_const]
  constructor
  · rintro ⟨command, hparse, -, hname, hex, hhex, encoded, hdecode, v, hv, _, ⟨_, hconsume, rfl⟩,
      hcheck, rfl⟩
    exact ⟨command, hparse, hname, hex, hhex, encoded, hdecode, v, hv, hcheck, hconsume⟩
  · rintro ⟨command, hparse, hname, hex, hhex, encoded, hdecode, v, hv, hcheck, hconsume⟩
    exact ⟨command, hparse, by simp [hname], hname, hex, hhex, encoded, hdecode, v, hv, cache',
      ⟨_, hconsume, rfl⟩, hcheck, rfl⟩

theorem start_eq_ok {parsed : ClientTrustBundle} {startedAtS : Int64} :
    start cr parsed startedAtS = .ok (bundle, trust) ↔
      parsed.load cr startedAtS = .ok bundle ∧ bundle.trustStore cr = .ok trust := by
  simp only [start, Except.bind_eq_ok, Except.pure_eq_ok, Prod.mk.injEq]
  constructor
  · rintro ⟨_, hload, _, htrust, rfl, rfl⟩
    exact ⟨hload, htrust⟩
  · rintro ⟨hload, htrust⟩
    exact ⟨bundle, hload, trust, htrust, rfl, rfl⟩

/-! ## The listed keys -/

/-- When `verify_command` accepts an entitlement for an authority: if the last key of the bundle
under that identifier is one that the authority lists, then the signature verifies under a key
that the authority lists; and only then, if no two keys of the bundle verify the envelope. -/
theorem verified_under_listed_key_iff [ReplayStateBackend B] (cr : Crates)
    (parse : String → Except String VerifyCommand) (unixTime startedAtS : Int64) (input : String)
    (parsed bundle : ClientTrustBundle) (trust : TrustStore) (cache cache' : ReplayCache B)
    (command : VerifyCommand) (authorityId entitlementHex : String) (encoded : Bytes)
    (out : VerifiedEntitlement) (hstart : start cr parsed startedAtS = .ok (bundle, trust))
    (hparse : parse input = .ok command) (hauthority : command.expectedAuthority = some authorityId)
    (hhex : command.entitlementHex = some entitlementHex)
    (hencoded : Hex.decode entitlementHex.asBytes = .ok encoded)
    (h : verifyCommand cr parse unixTime input bundle trust cache = .ok out cache') :
    (LastKeyListed cr bundle authorityId →
      ∃ key, ListsKey cr bundle authorityId key ∧ VerifiesUnder cr encoded key) ∧
    (Distinguishes cr bundle encoded →
      (∃ key, ListsKey cr bundle authorityId key ∧ VerifiesUnder cr encoded key) →
        LastKeyListed cr bundle authorityId) := by
  obtain ⟨_, _, _, v, hparse', -, hhex', hencoded', hv, hcheck, -⟩ := verifyCommand_eq_ok.mp h
  cases hparse.symm.trans hparse'
  cases hhex.symm.trans hhex'
  cases hencoded.symm.trans hencoded'
  have hsigner : authorityId = v.signer :=
    Option.some.inj (hauthority.symm.trans (checkGrant_eq_ok.mp hcheck).expectedAuthority)
  obtain ⟨-, htrust⟩ := start_eq_ok.mp hstart
  obtain ⟨key, _, hkey, ⟨message, hmessage, -, -, hsignature, -⟩, -⟩ := hv.signed
  have hverifies : VerifiesUnder cr encoded key := ⟨message, hmessage, hsignature⟩
  obtain ⟨record, hmem, hlast, hrecord⟩ := lookup_trustStore htrust hkey
  rw [← hsigner] at hlast
  constructor
  · rintro ⟨_, key', hlast', hrecord', hlisted⟩
    cases hlast.symm.trans hlast'
    cases hrecord.symm.trans hrecord'
    exact ⟨key, hlisted, hverifies⟩
  · rintro hdistinct ⟨key', hlisted, hverifies'⟩
    obtain ⟨authority, hauthority, -, record', hmem', hrecord'⟩ := id hlisted
    have hmem'' : record' ∈ _ := List.mem_flatMap.mpr ⟨authority, hauthority, hmem'⟩
    cases hdistinct record hmem record' hmem'' key key' hrecord hrecord' hverifies hverifies'
    exact ⟨record, key, hlast, hrecord, hlisted⟩

end EntitlementVerifier

/-! ## A verifier of the simulation -/

namespace Simulation

open EntitlementVerifier

/-- The public key of an identity. -/
def keyRecord (identity : IdentityKey) : SigningKeyRecord where
  keyId := identity.keyId
  algorithm := "Ed25519"
  publicKeyHex := Hex.encode identity.verifyingKey.bytes

theorem verifyingKey_keyRecord (keyId : String) (seed : UInt8) :
    (keyRecord (identity keyId seed)).verifyingKey reference =
      .ok (identity keyId seed).verifyingKey := by
  simp only [SigningKeyRecord.verifyingKey, keyRecord, Hex.decode_encode]
  rfl

/-- A bundle of the chaser. -/
def clientBundle (trustedAuthorities : List TrustedAuthority) : ClientTrustBundle where
  bundleId := "client-trust"
  version := 1
  clientId := chaser.keyId
  validFrom := "2026-01-01T00:00:00Z"
  validUntil := "2027-01-01T00:00:00Z"
  trustedAuthorities

def stationAuthority : TrustedAuthority where
  authorityId := station.keyId
  signingKeys := [keyRecord station]

/-- Another key under the identifier of the station's. -/
def rogueStation : IdentityKey := identity station.keyId 4

def rogueAuthority : TrustedAuthority where
  authorityId := "rogue"
  signingKeys := [keyRecord rogueStation]

theorem start_station : start reference (clientBundle [stationAuthority]) nowS =
    .ok (clientBundle [stationAuthority], Finmap.singleton station.keyId station.verifyingKey) := by
  refine start_eq_ok.mpr ⟨rfl, ?_⟩
  simp only [ClientTrustBundle.trustStore, clientBundle, stationAuthority, List.foldlM_cons,
    List.foldlM_nil, ClientTrustBundle.insertKey, station, verifyingKey_keyRecord]
  rfl

theorem start_rogue : start reference (clientBundle [stationAuthority, rogueAuthority]) nowS =
    .ok (clientBundle [stationAuthority, rogueAuthority],
      Finmap.singleton station.keyId rogueStation.verifyingKey) := by
  refine start_eq_ok.mpr ⟨rfl, ?_⟩
  simp only [ClientTrustBundle.trustStore, clientBundle, stationAuthority, rogueAuthority,
    List.foldlM_cons, List.foldlM_nil, ClientTrustBundle.insertKey, station, rogueStation,
    verifyingKey_keyRecord]
  rfl

/-- An entitlement for an approach. -/
def entitlement (identity : IdentityKey) : Bytes :=
  envelope (grantClaims (setup protocolProfile) "session-1" "grant-1" .approach nowS
    (List.replicate 32 7)
    { profileId := protocolProfile.profileId, profileVersion := protocolProfile.profileVersion,
      ruleId := approachRule.ruleId, entitlementTtlS := approachRule.entitlementTtlS }
    { gate := "", decision := "", diagnostics := "", policy := metadata }) identity

/-- The command to verify an entitlement. -/
def verifyApproach (entitlement : Bytes) : VerifyCommand where
  command := "verify_entitlement"
  entitlementHex := some (Hex.encode entitlement)
  expectedAuthority := some station.keyId
  expectedSessionId := some "session-1"
  expectedStage := some "approach"
  nowS := some nowS

/-- The keys that a bundle lists for the station. -/
theorem listsKey_station {authorities : List TrustedAuthority} {key : VerifyingKey}
    (hauthorities : ∀ authority ∈ authorities, authority.authorityId = station.keyId →
      authority = stationAuthority)
    (h : ListsKey reference (clientBundle authorities) station.keyId key) :
    key = station.verifyingKey := by
  obtain ⟨authority, hmem, hid, record, hrecord, hkey⟩ := h
  cases hauthorities authority hmem hid
  cases List.mem_singleton.mp hrecord
  exact (Except.ok.inj ((verifyingKey_keyRecord _ _).symm.trans hkey)).symm

/-- A verifier over a cache that takes any nonce, when an entitlement passes the checks. -/
theorem exists_of_checks {encoded : Bytes} {bundle : ClientTrustBundle} {trust : TrustStore}
    {cache : ReplayCache FileReplayStateBackend}
    (hcache : ∀ nonce, ∃ cache', ReplayCache.consume nonce cache = .ok () cache')
    (h : ((checkEnvelope reference encoded trust bundle.clientId nowS maxClockSkewS).toOption.any
      fun v => (checkGrant (verifyApproach encoded) bundle nowS v).toOption.isSome) = true) :
    ∃ out cache', verifyCommand reference (fun _ => .ok (verifyApproach encoded)) nowS "" bundle
      trust cache = .ok out cache' := by
  obtain ⟨v, hv, hgrant⟩ := exists_of_toOption_any h
  obtain ⟨out, hcheck⟩ := exists_of_toOption hgrant
  obtain ⟨cache', hconsume⟩ := hcache v.claims.nonce
  refine ⟨out, cache', verifyCommand_eq_ok.mpr ⟨verifyApproach encoded, Hex.encode encoded,
    encoded, v, rfl, rfl, rfl, Hex.decode_encode _, ?_, hcheck, hconsume⟩⟩
  exact checkEnvelope_eq_ok.mp hv

theorem entitlement_checks :
    ((checkEnvelope reference (entitlement station)
        (Finmap.singleton station.keyId station.verifyingKey) chaser.keyId nowS
        maxClockSkewS).toOption.any fun v =>
      (checkGrant (verifyApproach (entitlement station)) (clientBundle [stationAuthority]) nowS
        v).toOption.isSome) = true ∧
    ((checkEnvelope reference (entitlement rogueStation)
        (Finmap.singleton station.keyId rogueStation.verifyingKey) chaser.keyId nowS
        maxClockSkewS).toOption.any fun v =>
      (checkGrant (verifyApproach (entitlement rogueStation))
        (clientBundle [stationAuthority, rogueAuthority]) nowS v).toOption.isSome) = true ∧
    (reference.fromTaggedSlice (entitlement rogueStation)).all (fun message =>
      !verifySignature reference message envelopeAad station.verifyingKey) = true := by
  decide +kernel

end Simulation

namespace EntitlementVerifier

open Simulation

/-- An entitlement of the station. -/
theorem verified_under_listed_key_iff_station :
    ∃ key, ListsKey reference (clientBundle [stationAuthority]) station.keyId key ∧
      VerifiesUnder reference (entitlement station) key := by
  obtain ⟨out, cache', h⟩ := exists_of_checks
    (ReplayCache.exists_consume_empty (B := FileReplayStateBackend)) entitlement_checks.1
  refine (verified_under_listed_key_iff reference _ _ _ _ _ _ _ _ _ _ _ _ _ out start_station rfl
    rfl rfl (Hex.decode_encode _) h).1 ⟨keyRecord station, station.verifyingKey, rfl,
      verifyingKey_keyRecord _ _, ?_⟩
  exact ⟨stationAuthority, .head _, rfl, keyRecord station, .head _, verifyingKey_keyRecord _ _⟩

/-- An entitlement that is accepted for the station, and signed with another authority's key. -/
theorem verified_under_unlisted_key :
    ¬∀ (cr : Crates) (parse : String → Except String VerifyCommand) (unixTime startedAtS : Int64)
      (input : String) (parsed bundle : ClientTrustBundle) (trust : TrustStore)
      (cache cache' : ReplayCache FileReplayStateBackend) (command : VerifyCommand)
      (authorityId entitlementHex : String) (encoded : Bytes) (out : VerifiedEntitlement),
      start cr parsed startedAtS = .ok (bundle, trust) → parse input = .ok command →
      command.expectedAuthority = some authorityId →
      command.entitlementHex = some entitlementHex →
      Hex.decode entitlementHex.asBytes = .ok encoded →
      verifyCommand cr parse unixTime input bundle trust cache = .ok out cache' →
      ∃ key, ListsKey cr bundle authorityId key ∧ VerifiesUnder cr encoded key := by
  intro H
  obtain ⟨-, haccepts, hunverified⟩ := entitlement_checks
  obtain ⟨out, cache', h⟩ := exists_of_checks
    (ReplayCache.exists_consume_empty (B := FileReplayStateBackend)) haccepts
  obtain ⟨key, hlists, message, hmessage, hverifies⟩ := H reference _ _ _ _ _ _ _ _ _ _ _ _ _ out
    start_rogue rfl rfl rfl (Hex.decode_encode _) h
  have hkey : key = station.verifyingKey := listsKey_station (fun authority hmem hid => by
    rcases List.mem_cons.mp hmem with rfl | hmem
    · rfl
    · cases List.mem_singleton.mp hmem
      exact absurd hid (by decide)) hlists
  rw [Option.all_eq_true] at hunverified
  have hnot := hunverified message hmessage
  rw [← hkey, hverifies] at hnot
  cases hnot

end EntitlementVerifier

end Access
