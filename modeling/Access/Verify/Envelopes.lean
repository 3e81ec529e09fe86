import Access.Reference
import Access.Verify.Protocol

/-! # Envelopes

Exactly which envelopes `verify_envelope` accepts, and what it leaves of a replay cache: a nonce is
consumed last, so that nothing that is refused for another reason consumes it. What `sign_envelope`
and `issue_credential` write is read back as it was. -/

namespace Access

open EStateM

/-! ## What is accepted -/

/-- What `verify_envelope` asks of a message apart from its nonce not having been consumed. -/
structure Acceptable (cr : Crates) (encoded : Bytes) (trust : TrustStore) (recipient : String)
    (nowS maxClockSkewS : Int64) (v : VerifiedEnvelope) : Prop where
  signed : ∃ message key payload, cr.fromTaggedSlice encoded = some message ∧
    message.protectedHeader.header.alg = some .edDSA ∧
    message.protectedHeader.header.keyId.toUtf8? = some v.signer ∧
    trust.lookup v.signer = some key ∧ message.signature.length = 64 ∧
    cr.verifyStrict key (cr.tbsData message envelopeAad) message.signature = true ∧
    message.payload = some payload ∧
    cr.fromReader payload >>= ProtocolClaims.deserialize = some v.claims
  issuer_eq : v.claims.issuer = v.signer
  recipient_eq : v.claims.recipient = recipient
  fresh : |nowS.toInt - v.claims.issuedAtS.toInt| ≤ |maxClockSkewS.toInt|
  nonce_length : 16 ≤ v.claims.nonce.length

theorem absDiff_le_unsignedAbs {t u skew : Int64} :
    t.absDiff u ≤ skew.unsignedAbs ↔ |t.toInt - u.toInt| ≤ |skew.toInt| := by
  rw [UInt64.le_iff_toNat_le, Int64.toNat_absDiff, Int64.toNat_unsignedAbs, Int.abs_eq_natAbs,
    Int.abs_eq_natAbs, Int.ofNat_le]

section

variable {cr : Crates} {encoded : Bytes} {trust : TrustStore} {recipient : String}
  {nowS maxClockSkewS : Int64} {v : VerifiedEnvelope}

theorem envelopeVerified_iff :
    EnvelopeVerified cr encoded trust recipient nowS maxClockSkewS v ↔
      Acceptable cr encoded trust recipient nowS maxClockSkewS v := by
  constructor
  · intro H
    obtain ⟨key, payload, hkey, ⟨message, hmessage, halg, hkeyId, hsignature, hpayload⟩, hclaims⟩ :=
      H.signed
    simp only [verifySignature, Bool.and_eq_true, decide_eq_true_eq] at hsignature
    exact ⟨⟨message, key, payload, hmessage, halg, hkeyId, hkey, hsignature.1, hsignature.2,
      hpayload, hclaims⟩, H.issuer_eq, H.recipient_eq, absDiff_le_unsignedAbs.mp H.fresh,
      H.nonce_length⟩
  · intro H
    obtain ⟨message, key, payload, hmessage, halg, hkeyId, hkey, hlength, hverifies, hpayload,
      hclaims⟩ := H.signed
    have hsignature : verifySignature cr message envelopeAad key = true := by
      simp only [verifySignature, hlength, hverifies, decide_true, Bool.and_self]
    exact ⟨⟨key, payload, hkey, ⟨message, hmessage, halg, hkeyId, hsignature, hpayload⟩, hclaims⟩,
      H.issuer_eq, H.recipient_eq, absDiff_le_unsignedAbs.mpr H.fresh, H.nonce_length⟩

/-- What a key identifier, a payload and the like are of is determined by the bytes. -/
theorem Acceptable.unique {v' : VerifiedEnvelope}
    (h : Acceptable cr encoded trust recipient nowS maxClockSkewS v)
    (h' : Acceptable cr encoded trust recipient nowS maxClockSkewS v') : v = v' := by
  rw [← envelopeVerified_iff, ← checkEnvelope_eq_ok] at h h'
  exact Except.ok.inj (h.symm.trans h')

variable [ReplayStateBackend B] {cache cache' : ReplayCache B}

/-- The storage behind a cache, if there is any, takes the nonce. -/
def ReplayCache.Commits (nonce : Bytes) (cache : ReplayCache B) : Prop :=
  ∀ backend, cache.backend = some backend →
    (ReplayStateBackend.appendAndSync nonce backend).1 = .ok ()

theorem ReplayCache.exists_commit {nonce : Bytes} :
    (∃ committed, commit nonce cache = .ok () committed) ↔ cache.Commits nonce := by
  unfold commit ReplayCache.Commits
  cases hbackend : cache.backend with
  | none => simp
  | some backend =>
    rcases hcommit : ReplayStateBackend.appendAndSync nonce backend with ⟨_ | _, backend'⟩
    · simp [hcommit]
    · simp [hcommit]

theorem ReplayCache.exists_consume {nonce : Bytes} :
    (∃ cache', consume nonce cache = .ok () cache') ↔
      nonce ∉ cache.consumed ∧ cache.Commits nonce := by
  simp only [consume_eq_ok, ← exists_commit]
  constructor
  · rintro ⟨_, hnonce, committed, hcommit, -⟩
    exact ⟨hnonce, committed, hcommit⟩
  · rintro ⟨hnonce, committed, hcommit⟩
    exact ⟨_, hnonce, committed, hcommit, rfl⟩

/-- A consumption of the nonce changes nothing: it has been consumed before, or the storage refuses
it and keeps no trace of it. -/
def ReplayCache.Inert (nonce : Bytes) (cache : ReplayCache B) : Prop :=
  nonce ∈ cache.consumed ∨ ∃ backend detail, cache.backend = some backend ∧
    ReplayStateBackend.appendAndSync nonce backend = (.error detail, backend)

theorem ReplayCache.state_consume_ne {nonce : Bytes} (h : consume nonce cache = .ok () cache') :
    cache' ≠ cache := by
  obtain ⟨hnonce, _, -, rfl⟩ := consume_eq_ok.mp h
  intro hsame
  have hconsumed : insert nonce cache.consumed = cache.consumed :=
    congrArg ReplayCache.consumed hsame
  exact hnonce (Finset.insert_eq_self.mp hconsumed)

theorem ReplayCache.commit_error_self_iff {nonce : Bytes} :
    (∃ e, commit nonce cache = .error e cache) ↔ ∃ backend detail, cache.backend = some backend ∧
      ReplayStateBackend.appendAndSync nonce backend = (.error detail, backend) := by
  obtain ⟨consumed, backend⟩ := cache
  cases backend with
  | none => simp [commit]
  | some backend =>
    rcases happend : ReplayStateBackend.appendAndSync nonce backend with ⟨_ | _, backend'⟩
    · simp [commit, happend]
    · simp [commit, happend]

theorem ReplayCache.state_consume_eq_iff {nonce : Bytes} :
    (consume nonce cache).state = cache ↔ cache.Inert nonce := by
  by_cases hnonce : nonce ∈ cache.consumed
  · rw [consume_of_mem hnonce]
    exact iff_of_true rfl (.inl hnonce)
  rw [Inert, or_iff_right hnonce, ← commit_error_self_iff]
  cases hconsume : consume nonce cache with
  | ok u cache' =>
    obtain ⟨-, _, hcommit, -⟩ := consume_eq_ok.mp hconsume
    refine iff_of_false (state_consume_ne hconsume) ?_
    rintro ⟨e, herror⟩
    cases hcommit.symm.trans herror
  | error e cache' =>
    rcases consume_eq_error hconsume with ⟨-, hmem, -⟩ | ⟨-, hcommit⟩
    · exact absurd hmem hnonce
    rw [hcommit, Result.state_error]
    constructor
    · rintro rfl
      exact ⟨e, rfl⟩
    · rintro ⟨e', herror⟩
      cases herror
      rfl

/-- A call that fails leaves what the consumption of a verified nonce leaves, and otherwise nothing. -/
theorem verifyEnvelope_error_cases {e : ProtocolError}
    (h : verifyEnvelope cr encoded trust recipient nowS maxClockSkewS cache = .error e cache') :
    (cache' = cache ∧ ∀ v, ¬EnvelopeVerified cr encoded trust recipient nowS maxClockSkewS v) ∨
      ∃ v, EnvelopeVerified cr encoded trust recipient nowS maxClockSkewS v ∧
        ReplayCache.consume v.claims.nonce cache = .error e cache' := by
  simp only [verifyEnvelope, bind_eq_error, ofExcept_eq_error, ofExcept_eq_ok, pure_eq_error,
    and_false, exists_false, or_false] at h
  rcases h with ⟨e, hcheck, -, rfl⟩ | ⟨v, _, ⟨hv, rfl⟩, hconsume⟩
  · refine .inl ⟨rfl, ?_⟩
    intro v hv
    cases hcheck.symm.trans (checkEnvelope_eq_ok.mpr hv)
  · exact .inr ⟨v, checkEnvelope_eq_ok.mp hv, hconsume⟩

/-- A call of `verify_envelope` that fails changes nothing, unless everything else is right and the
storage refuses the nonce; and then the storage only. -/
theorem verifyEnvelope_error {e : ProtocolError}
    (h : verifyEnvelope cr encoded trust recipient nowS maxClockSkewS cache = .error e cache') :
    cache'.consumed = cache.consumed ∧
      (cache' = cache ∨ ∃ v, Acceptable cr encoded trust recipient nowS maxClockSkewS v ∧
        v.claims.nonce ∉ cache.consumed ∧ ¬cache.Commits v.claims.nonce) := by
  rcases verifyEnvelope_error_cases h with ⟨rfl, -⟩ | ⟨v, hv, hconsume⟩
  · exact ⟨rfl, .inl rfl⟩
  refine ⟨ReplayCache.consume_error_consumed hconsume, ?_⟩
  rcases ReplayCache.consume_eq_error hconsume with ⟨-, -, rfl⟩ | ⟨hnonce, hcommit⟩
  · exact .inl rfl
  · refine .inr ⟨v, envelopeVerified_iff.mp hv, hnonce, ?_⟩
    intro hcommits
    obtain ⟨committed, hcommitted⟩ := ReplayCache.exists_commit.mpr hcommits
    cases hcommit.symm.trans hcommitted

/-- `verify_envelope` accepts exactly the acceptable messages whose nonce has not been consumed and
can be. On success that nonce is consumed, on failure none. -/
theorem verifyEnvelope_iff (cr : Crates) (encoded : Bytes) (trust : TrustStore)
    (recipient : String) (nowS maxClockSkewS : Int64) (cache : ReplayCache B) :
    (∀ v, (∃ cache',
        verifyEnvelope cr encoded trust recipient nowS maxClockSkewS cache = .ok v cache') ↔
      Acceptable cr encoded trust recipient nowS maxClockSkewS v ∧
        v.claims.nonce ∉ cache.consumed ∧ cache.Commits v.claims.nonce) ∧
    (∀ v cache',
      verifyEnvelope cr encoded trust recipient nowS maxClockSkewS cache = .ok v cache' →
        cache'.consumed = insert v.claims.nonce cache.consumed) ∧
    ∀ e cache',
      verifyEnvelope cr encoded trust recipient nowS maxClockSkewS cache = .error e cache' →
        cache'.consumed = cache.consumed ∧
          (cache' = cache ∨ ∃ v, Acceptable cr encoded trust recipient nowS maxClockSkewS v ∧
            v.claims.nonce ∉ cache.consumed ∧ ¬cache.Commits v.claims.nonce) := by
  refine ⟨?_, ?_, ?_⟩
  · intro v
    simp only [verifyEnvelope_eq_ok, envelopeVerified_iff, exists_and_left,
      ReplayCache.exists_consume]
  · intro v cache' h
    obtain ⟨-, hconsume⟩ := verifyEnvelope_eq_ok.mp h
    obtain ⟨-, _, -, rfl⟩ := ReplayCache.consume_eq_ok.mp hconsume
    rfl
  · intro e cache' h
    exact verifyEnvelope_error h

end

/-! ## What is written is read back -/

/-- Whatever claims an identity signs, its recipient reads them back, with their signer, within the
skew and once; and whatever credential it issues, its subject is accepted as the holder of it while
it is valid. -/
theorem envelope_round_trip (cr : Crates) (hcr : cr.Faithful) (identity : IdentityKey)
    (hsigns : identity.Signs cr) (trust : TrustStore)
    (htrust : trust.lookup identity.keyId = some identity.verifyingKey) (w w' : World)
    (encoded : Bytes) (nowS maxClockSkewS : Int64) :
    (∀ claims : ProtocolClaims, signEnvelope cr claims identity w = .ok encoded w' →
      |nowS.toInt - claims.issuedAtS.toInt| ≤ |maxClockSkewS.toInt| → 16 ≤ claims.nonce.length →
      ∀ (B : Type) [ReplayStateBackend B] (cache : ReplayCache B),
        claims.nonce ∉ cache.consumed → cache.Commits claims.nonce →
        ∃ cache', verifyEnvelope cr encoded trust claims.recipient nowS maxClockSkewS cache =
          .ok ⟨identity.keyId, claims⟩ cache') ∧
    ∀ claims : CredentialClaims, issueCredential cr claims identity w = .ok encoded w' →
      claims.issuedAtS ≤ nowS → nowS ≤ claims.expiresAtS →
      verifyCredential cr encoded trust claims.subject nowS = .ok claims := by
  constructor
  · intro claims hsign hfresh hnonce B _ cache hunused hcommits
    have hverified := envelopeVerified_of_signed hcr hsigns hsign htrust
      (absDiff_le_unsignedAbs.mpr hfresh) hnonce
    obtain ⟨cache', hconsume⟩ := ReplayCache.exists_consume.mpr ⟨hunused, hcommits⟩
    exact ⟨cache', verifyEnvelope_eq_ok.mpr ⟨hverified, hconsume⟩⟩
  · intro claims hissue hissued hexpires
    exact verifyCredential_eq_ok.mpr
      (credentialVerified_of_issued hcr hsigns hissue htrust hissued hexpires)

namespace Simulation

theorem signs_identity (keyId : String) (seed : UInt8) : (identity keyId seed).Signs reference := by
  intro n payload signature h
  cases h
  exact ⟨Cbor.length_bigEndian _ _, decide_eq_true rfl⟩

/-- A message with some of the optional fields. -/
def offer : ProtocolClaims where
  messageType := .sessionOffer
  issuer := station.keyId
  recipient := chaser.keyId
  issuedAtS := nowS
  nonce := List.replicate 16 7
  challengeNonce := some [1, 2]
  credentials := [[], [3]]
  protocolProfileVersion := some 1

theorem signed_offer : isOk (signEnvelope reference offer station {}) = true := by
  decide +kernel

end Simulation

/-- At the edge of the skew, in a cache without storage. -/
theorem envelope_round_trip_offer :
    ∃ encoded w, signEnvelope reference Simulation.offer Simulation.station {} = .ok encoded w ∧
      ∃ cache, verifyEnvelope reference encoded
        (Finmap.singleton Simulation.station.keyId Simulation.station.verifyingKey)
        Simulation.offer.recipient (Simulation.nowS + 300) (-300)
        ({} : ReplayCache FileReplayStateBackend) =
          .ok ⟨Simulation.station.keyId, Simulation.offer⟩ cache := by
  obtain ⟨encoded, w, h⟩ := Simulation.exists_of_isOk Simulation.signed_offer
  refine ⟨encoded, w, h, ?_⟩
  apply (envelope_round_trip reference reference_faithful Simulation.station
    (Simulation.signs_identity _ _)
    (Finmap.singleton Simulation.station.keyId Simulation.station.verifyingKey)
    (Finmap.lookup_singleton_eq ..) {} w encoded (Simulation.nowS + 300) (-300)).1 _ h
  · decide
  · decide
  · exact Finset.notMem_empty _
  · intro backend hbackend
    cases hbackend

end Access
