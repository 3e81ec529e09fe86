import Access.Verify.Entitlements
import Access.Verify.EntitlementVerifier

/-! # Who signed what is accepted

Under an ideal signature scheme, an envelope that is accepted was signed as one with its claims, and
a credential that is accepted was issued with its claims; and no byte string is accepted as both,
although the same keys may sign both. -/

namespace Access

open EStateM

/-! ## Signing -/

/-- The two ways to have something signed. -/
inductive SignCall where
  | envelope (claims : ProtocolClaims) (identity : IdentityKey)
  | credential (claims : CredentialClaims) (issuer : IdentityKey)

def SignCall.run (cr : Crates) (w : World) : SignCall → Except ProtocolError Bytes × World
  | envelope claims identity =>
    match signEnvelope cr claims identity w with
    | .ok encoded w => (.ok encoded, w)
    | .error e w => (.error e, w)
  | credential claims issuer =>
    match issueCredential cr claims issuer w with
    | .ok encoded w => (.ok encoded, w)
    | .error e w => (.error e, w)

abbrev SignEvent := Run.Event World SignCall (Except ProtocolError Bytes)

/-- Everything that was signed, and what for. -/
def signings (cr : Crates) (calls : List SignCall) : List SignEvent :=
  Run.history (SignCall.run cr) {} calls

/-- The identity signed the claims as a protocol message. -/
def SignedEnvelope (es : List SignEvent) (identity : IdentityKey) (claims : ProtocolClaims) : Prop :=
  ∃ e ∈ es, e.call = .envelope claims identity ∧ ∃ encoded, e.reply = .ok encoded

/-- The identity issued the claims as a credential. -/
def IssuedCredential (es : List SignEvent) (issuer : IdentityKey) (claims : CredentialClaims) :
    Prop :=
  ∃ e ∈ es, e.call = .credential claims issuer ∧ ∃ encoded, e.reply = .ok encoded

/-- Everything that was signed is a protocol message or a credential, and signed as such. -/
structure Recorded (cr : Crates) (es : List SignEvent) (w : World) : Prop where
  signed : ∀ sig ∈ w.signings,
    (∃ claims identity, SignedEnvelope es identity claims ∧ sig.MadeFrom cr claims identity) ∨
      ∃ claims issuer, IssuedCredential es issuer claims ∧ sig.IssuedFrom cr claims issuer

/-- An ideal signature scheme, on what is presented: if a signature verifies under the key of one of
the identities, then its holder has signed this `Sig_structure`, with its external data. -/
def Ideal (cr : Crates) (identities : List IdentityKey) (w : World) (encoded : Bytes) : Prop :=
  ∀ identity ∈ identities, ∀ message, cr.fromTaggedSlice encoded = some message →
    ∀ aad ∈ [envelopeAad, credentialAad],
      verifySignature cr message aad identity.verifyingKey = true →
        ∃ sig ∈ w.signings, sig.key = identity.verifyingKey ∧
          cr.tbsData message aad = cr.tbsData sig.message sig.externalAad

/-- The store maps each key identifier to the key of an identity with it. -/
def TrustsOnly (trust : TrustStore) (identities : List IdentityKey) : Prop :=
  ∀ keyId key, trust.lookup keyId = some key →
    ∃ identity ∈ identities, identity.keyId = keyId ∧ identity.verifyingKey = key

variable {cr : Crates} {es : List SignEvent} {w w' : World} {encoded : Bytes}

theorem Recorded.cons (H : Recorded cr es w) {e : SignEvent}
    (h : ∀ sig ∈ w'.signings, sig ∈ w.signings ∨
      (∃ claims identity, e.call = .envelope claims identity ∧ (∃ b, e.reply = .ok b) ∧
        sig.MadeFrom cr claims identity) ∨
      ∃ claims issuer, e.call = .credential claims issuer ∧ (∃ b, e.reply = .ok b) ∧
        sig.IssuedFrom cr claims issuer) : Recorded cr (e :: es) w' := by
  refine ⟨fun sig hsig => ?_⟩
  obtain hbefore | ⟨claims, identity, hcall, hreply, hmade⟩ | ⟨claims, issuer, hcall, hreply, hmade⟩ :=
    h sig hsig
  · refine (H.signed sig hbefore).imp ?_ ?_
    · rintro ⟨claims, identity, ⟨e', he', hcall, hreply⟩, hmade⟩
      exact ⟨claims, identity, ⟨e', .tail _ he', hcall, hreply⟩, hmade⟩
    · rintro ⟨claims, issuer, ⟨e', he', hcall, hreply⟩, hmade⟩
      exact ⟨claims, issuer, ⟨e', .tail _ he', hcall, hreply⟩, hmade⟩
  · exact .inl ⟨claims, identity, ⟨e, .head _, hcall, hreply⟩, hmade⟩
  · exact .inr ⟨claims, issuer, ⟨e, .head _, hcall, hreply⟩, hmade⟩

theorem Recorded.step (H : Recorded cr es w) (c : SignCall) :
    Recorded cr (Run.event (SignCall.run cr) w c :: es) (SignCall.run cr w c).2 := by
  cases c with
  | envelope claims identity =>
    simp only [Run.event, SignCall.run]
    cases h : signEnvelope cr claims identity w with
    | ok encoded w' =>
      refine H.cons fun sig hsig => ?_
      refine ((signEnvelope_steps claims identity).ok h sig hsig).imp_right fun hmade => ?_
      exact .inl ⟨claims, identity, rfl, ⟨encoded, rfl⟩, hmade⟩
    | error e w' => exact H.cons fun sig hsig => .inl (signEnvelope_error h ▸ hsig)
  | credential claims issuer =>
    simp only [Run.event, SignCall.run]
    cases h : issueCredential cr claims issuer w with
    | ok encoded w' =>
      refine H.cons fun sig hsig => ?_
      refine ((issueCredential_steps claims issuer).ok h sig hsig).imp_right fun hmade => ?_
      exact .inr ⟨claims, issuer, rfl, ⟨encoded, rfl⟩, hmade⟩
    | error e w' => exact H.cons fun sig hsig => .inl (issueCredential_error h ▸ hsig)

theorem recorded (cr : Crates) (calls : List SignCall) :
    Recorded cr (signings cr calls) (Run.state (SignCall.run cr) {} calls) :=
  Run.invariant _ _ ⟨fun _ h => absurd h List.not_mem_nil⟩ (fun _ _ c H => H.step c) calls

/-! ## Acceptance -/

/-- What is accepted under a key of the store was signed for that key. -/
theorem Ideal.exists_signing {identities : List IdentityKey} (hideal : Ideal cr identities w encoded)
    {trust : TrustStore} (htrust : TrustsOnly trust identities) {aad : Bytes}
    (haad : aad ∈ [envelopeAad, credentialAad]) {signer : String} {key : VerifyingKey}
    (hkey : trust.lookup signer = some key) {message : CoseSign1}
    (hmessage : cr.fromTaggedSlice encoded = some message)
    (hverifies : verifySignature cr message aad key = true) :
    ∃ sig ∈ w.signings, sig.key = key ∧
      cr.tbsData message aad = cr.tbsData sig.message sig.externalAad := by
  obtain ⟨identity, hmem, -, rfl⟩ := htrust signer key hkey
  exact hideal identity hmem message hmessage aad haad hverifies

/-- What was signed for a key with external data, and is presented under the identifier of an
identity, was signed by that identity. -/
theorem Signing.IsEnvelope.identity_eq (hcr : cr.Faithful) {sig : Signing} {identity : IdentityKey}
    {payload aad : Bytes} (H : sig.IsEnvelope cr identity payload aad) (haad : aad.length < 256)
    {message : CoseSign1} (hmessage : cr.fromTaggedSlice encoded = some message) {signer : String}
    (hsigner : message.protectedHeader.header.keyId.toUtf8? = some signer)
    (htbs : cr.tbsData message aad = cr.tbsData sig.message sig.externalAad) :
    identity.keyId = signer ∧ identity.verifyingKey = sig.key := by
  obtain ⟨hkeyId, -⟩ := H.eq_of_tbsData hcr haad haad hmessage htbs
  rw [hkeyId, String.toUtf8?_asBytes] at hsigner
  exact ⟨Option.some.inj hsigner, by rw [H.eq]⟩

/-- The identity that an envelope names signed its claims, and they are what it carries. -/
theorem EnvelopeVerified.authentic (hcr : cr.Faithful) (H : Recorded cr es w)
    {identities : List IdentityKey} (hideal : Ideal cr identities w encoded) {trust : TrustStore}
    (htrust : TrustsOnly trust identities) {recipient : String} {nowS maxClockSkewS : Int64}
    {v : VerifiedEnvelope}
    (hv : EnvelopeVerified cr encoded trust recipient nowS maxClockSkewS v) :
    (∃ identity, SignedEnvelope es identity v.claims ∧ identity.keyId = v.claims.issuer ∧
      trust.lookup v.claims.issuer = some identity.verifyingKey) ∧
    ∃ message payload, cr.fromTaggedSlice encoded = some message ∧
      message.payload = some payload ∧ cr.intoWriter v.claims.serialize = some payload := by
  obtain ⟨key, payload, hkey, ⟨message, hmessage, -, hsigner, hverifies, hpayload⟩, hclaims⟩ :=
    hv.signed
  obtain ⟨sig, hsig, rfl, htbs⟩ :=
    hideal.exists_signing htrust (.head _) hkey hmessage hverifies
  obtain ⟨claims, identity, hsigned, hmade⟩ | ⟨claims, issuer, -, payload', -, henvelope⟩ :=
    H.signed sig hsig
  · obtain rfl := hmade.eq_of_tbsData hcr hmessage htbs hpayload hclaims
    obtain ⟨payload', hwritten, henvelope⟩ := hmade
    obtain ⟨hname, hsame⟩ := henvelope.identity_eq hcr (by decide) hmessage hsigner htbs
    have hpayload' := (henvelope.eq_of_tbsData hcr (by decide) (by decide) hmessage htbs).2.2
    rw [hpayload, Option.getD_some] at hpayload'
    rw [hv.issuer_eq]
    exact ⟨⟨identity, hsigned, hname, by rw [hkey, hsame]⟩, message, payload, hmessage, hpayload,
      hpayload' ▸ hwritten⟩
  · have := (henvelope.eq_of_tbsData hcr (by decide) (by decide) hmessage htbs).2.1
    exact absurd this (by decide)

/-- The identity that a credential names issued it. -/
theorem CredentialVerified.authentic (hcr : cr.Faithful) (H : Recorded cr es w)
    {identities : List IdentityKey} (hideal : Ideal cr identities w encoded) {trust : TrustStore}
    (htrust : TrustsOnly trust identities) {subject : String} {nowS : Int64}
    {claims : CredentialClaims}
    (hv : CredentialVerified cr encoded trust subject nowS claims) :
    ∃ issuer, IssuedCredential es issuer claims ∧ issuer.keyId = claims.issuer ∧
      trust.lookup claims.issuer = some issuer.verifyingKey := by
  obtain ⟨key, payload, hkey, ⟨message, hmessage, -, hsigner, hverifies, hpayload⟩, hclaims⟩ :=
    hv.signed
  obtain ⟨sig, hsig, rfl, htbs⟩ :=
    hideal.exists_signing htrust (.tail _ (.head _)) hkey hmessage hverifies
  obtain ⟨claims', identity, -, payload', -, henvelope⟩ | ⟨claims', issuer, hissued, hmade⟩ :=
    H.signed sig hsig
  · have := (henvelope.eq_of_tbsData hcr (by decide) (by decide) hmessage htbs).2.1
    exact absurd this (by decide)
  · obtain rfl := hmade.eq_of_tbsData hcr hmessage htbs hpayload hclaims
    obtain ⟨payload', -, henvelope⟩ := hmade
    obtain ⟨hname, hsame⟩ := henvelope.identity_eq hcr (by decide) hmessage hsigner htbs
    exact ⟨issuer, hissued, hname, by rw [hkey, hsame]⟩

/-- A protocol message has no subject, so it is no credential. -/
theorem ProtocolClaims.not_credential (claims : ProtocolClaims) :
    CredentialClaims.deserialize claims.serialize = none := by
  have hsubject : Serde.values "subject" (Serde.written claims.fields) = [] := by
    rw [Serde.values_written]
    rfl
  have hmissing : Serde.required Serde.readString [] = none := rfl
  simp only [CredentialClaims.deserialize, ProtocolClaims.serialize, Serde.structEntries_written,
    CredentialClaims.ofEntries, hsubject, hmissing, Option.bind_eq_bind, Option.bind_some,
    Option.bind_none, Option.bind_fun_none]

variable [ReplayStateBackend B]

/-- Over every history of signings by identities, every trust store with their keys, and every byte
string on which their signatures are ideal: if it is accepted as an envelope, then the identity that
its claims name as their issuer signed exactly these claims; if it is accepted as a credential, then
the identity that it names issued exactly these claims; and it is not accepted as both. -/
theorem accepted_authentic (cr : Crates) (hcr : cr.Faithful) (identities : List IdentityKey)
    (calls : List SignCall) (trust : TrustStore) (htrust : TrustsOnly trust identities)
    (encoded : Bytes)
    (hideal : Ideal cr identities (Run.state (SignCall.run cr) {} calls) encoded) :
    (∀ recipient nowS maxClockSkewS v (cache cache' : ReplayCache B),
      verifyEnvelope cr encoded trust recipient nowS maxClockSkewS cache = .ok v cache' →
      ∃ identity, SignedEnvelope (signings cr calls) identity v.claims ∧
        identity.keyId = v.claims.issuer ∧
        trust.lookup v.claims.issuer = some identity.verifyingKey) ∧
    (∀ subject nowS claims, verifyCredential cr encoded trust subject nowS = .ok claims →
      ∃ issuer, IssuedCredential (signings cr calls) issuer claims ∧
        issuer.keyId = claims.issuer ∧ trust.lookup claims.issuer = some issuer.verifyingKey) ∧
    ∀ recipient nowS maxClockSkewS v (cache cache' : ReplayCache B) trust' subject nowS' claims,
      verifyEnvelope cr encoded trust recipient nowS maxClockSkewS cache = .ok v cache' →
      verifyCredential cr encoded trust' subject nowS' ≠ .ok claims := by
  have H := recorded cr calls
  refine ⟨fun recipient nowS maxClockSkewS v cache cache' h => ?_, fun subject nowS claims h => ?_,
    fun recipient nowS maxClockSkewS v cache cache' trust' subject nowS' claims h h' => ?_⟩
  · exact ((verifyEnvelope_eq_ok.mp h).1.authentic hcr H hideal htrust).1
  · exact (verifyCredential_eq_ok.mp h).authentic hcr H hideal htrust
  · obtain ⟨-, message, payload, hmessage, hpayload, hwritten⟩ :=
      (verifyEnvelope_eq_ok.mp h).1.authentic hcr H hideal htrust
    obtain ⟨key, payload', -, ⟨message', hmessage', -, -, -, hpayload'⟩, hclaims⟩ :=
      (verifyCredential_eq_ok.mp h').signed
    cases hmessage.symm.trans hmessage'
    cases hpayload.symm.trans hpayload'
    rw [hcr.fromReader_of_intoWriter hwritten, Option.bind_eq_bind, Option.bind_some,
      ProtocolClaims.not_credential] at hclaims
    cases hclaims

end Access

/-! ## A message of the simulation -/

namespace Access.Simulation

open Reference

/-- An access request of the chaser. -/
def hello : ProtocolClaims := requestClaims (setup protocolProfile) (List.replicate 32 7) nowS

def helloSigned : List SignCall := [.envelope hello chaser]

theorem hello_checks :
    (checkEnvelope reference (envelope hello chaser)
      (Finmap.singleton chaser.keyId chaser.verifyingKey) station.keyId nowS
      maxClockSkewS).toOption.isSome = true ∧
    (fromTaggedSlice (envelope hello chaser)).all (fun message =>
      [envelopeAad, credentialAad].all fun aad =>
        !verifySignature reference message aad chaser.verifyingKey ||
          (Run.state (SignCall.run reference) {} helloSigned).signings.any fun sig =>
            sig.key = chaser.verifyingKey &&
              tbsData message aad = tbsData sig.message sig.externalAad) = true := by
  decide +kernel

theorem reference_ideal {identity : IdentityKey} {w : World} {encoded : Bytes}
    (h : (fromTaggedSlice encoded).all (fun message =>
      [envelopeAad, credentialAad].all fun aad =>
        !verifySignature reference message aad identity.verifyingKey ||
          w.signings.any fun sig => sig.key = identity.verifyingKey &&
            tbsData message aad = tbsData sig.message sig.externalAad) = true) :
    Ideal reference [identity] w encoded := by
  intro identity' hidentity message hmessage aad haad hverifies
  cases List.mem_singleton.mp hidentity
  have hchecks := List.all_eq_true.mp ((Option.all_eq_true _ _).mp h message hmessage) aad haad
  rw [hverifies, Bool.not_true, Bool.false_or, List.any_eq_true] at hchecks
  obtain ⟨sig, hsig, hchecks⟩ := hchecks
  simp only [Bool.and_eq_true, decide_eq_true_eq] at hchecks
  exact ⟨sig, hsig, hchecks⟩

theorem trustsOnly_singleton (identity : IdentityKey) :
    TrustsOnly (Finmap.singleton identity.keyId identity.verifyingKey) [identity] := by
  intro keyId key hkey
  by_cases hid : keyId = identity.keyId
  · subst hid
    rw [Finmap.lookup_singleton_eq] at hkey
    exact ⟨identity, .head _, rfl, Option.some.inj hkey⟩
  · have hmem := Finmap.mem_of_lookup_eq_some hkey
    exact absurd ((Finmap.mem_singleton _ _ _).mp hmem) hid

end Access.Simulation

namespace Access

open Simulation

/-- The request of the chaser is accepted, and signed by the identity that it names. -/
theorem accepted_authentic_hello :
    ∃ v, EnvelopeVerified reference (envelope hello chaser)
        (Finmap.singleton chaser.keyId chaser.verifyingKey) station.keyId nowS maxClockSkewS v ∧
      ∃ identity, SignedEnvelope (signings reference helloSigned) identity v.claims ∧
        identity.keyId = v.claims.issuer := by
  obtain ⟨v, hv⟩ := exists_of_toOption hello_checks.1
  have hv := checkEnvelope_eq_ok.mp hv
  obtain ⟨cache', hconsume⟩ :=
    ReplayCache.exists_consume_empty (B := FileReplayStateBackend) v.claims.nonce
  obtain ⟨identity, hsigned, hname, -⟩ := (accepted_authentic reference reference_faithful [chaser]
    helloSigned _ (trustsOnly_singleton chaser) _ (reference_ideal hello_checks.2)).1 station.keyId
    nowS maxClockSkewS v {} cache' (verifyEnvelope_eq_ok.mpr ⟨hv, hconsume⟩)
  exact ⟨v, hv, identity, hsigned, hname⟩

end Access
