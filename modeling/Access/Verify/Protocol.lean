import Access.Protocol

/-! # What signing, verification and replay protection do

One lemma for each function of the protocol: what a successful call went through. For the functions
that change something there is also what a call leaves, however it ends. -/

namespace Access

open EStateM

/-! ## Verification -/

section

variable (cr : Crates)

/-- An envelope carries a payload, signed by EdDSA under a key with an identifier. -/
structure SignedUnder (encoded externalAad : Bytes) (signer : String) (key : VerifyingKey)
    (payload : Bytes) : Prop where
  exists_message : ∃ message, cr.fromTaggedSlice encoded = some message ∧
    message.protectedHeader.header.alg = some .edDSA ∧
    message.protectedHeader.header.keyId.toUtf8? = some signer ∧
    verifySignature cr message externalAad key = true ∧ message.payload = some payload

variable {cr}

theorem verifySignedPayload_eq_ok {encoded aad : Bytes} {trust : TrustStore} {signer : String}
    {payload : Bytes} : verifySignedPayload cr encoded trust aad = .ok (signer, payload) ↔
      ∃ key, trust.lookup signer = some key ∧ SignedUnder cr encoded aad signer key payload := by
  simp only [verifySignedPayload, Except.bind_eq_ok, Except.okOr_eq_ok, Except.failIf_eq_ok,
    Except.pure_eq_ok, Prod.mk.injEq, not_not, Bool.not_eq_false]
  constructor
  · rintro ⟨message, hmessage, _, halg, _, hkid, key, hkey, _, hsig, _, hpayload, rfl, rfl⟩
    exact ⟨key, hkey, message, hmessage, halg, hkid, hsig, hpayload⟩
  · rintro ⟨key, hkey, message, hmessage, halg, hkid, hsig, hpayload⟩
    exact ⟨message, hmessage, (), halg, signer, hkid, key, hkey, (), hsig, payload, hpayload,
      rfl, rfl⟩

/-- A credential that `verify_credential` accepts. -/
structure CredentialVerified (cr : Crates) (encoded : Bytes) (trust : TrustStore)
    (subject : String) (nowS : Int64) (claims : CredentialClaims) : Prop where
  signed : ∃ key payload, trust.lookup claims.issuer = some key ∧
    SignedUnder cr encoded credentialAad claims.issuer key payload ∧
    cr.fromReader payload >>= CredentialClaims.deserialize = some claims
  subject_eq : claims.subject = subject
  issued : claims.issuedAtS ≤ nowS
  unexpired : nowS ≤ claims.expiresAtS

theorem verifyCredential_eq_ok {encoded : Bytes} {trust : TrustStore} {subject : String}
    {nowS : Int64} {claims : CredentialClaims} :
    verifyCredential cr encoded trust subject nowS = .ok claims ↔
      CredentialVerified cr encoded trust subject nowS claims := by
  simp only [verifyCredential, Except.bind_eq_ok, Prod.exists, verifySignedPayload_eq_ok,
    Except.okOr_eq_ok, Except.failIf_eq_ok, Except.pure_eq_ok, not_not, not_or, gt_iff_lt,
    Int64.not_lt]
  constructor
  · rintro ⟨signer, payload, ⟨key, hkey, hsigned⟩, _, hclaims, _, hissuer, _, hsubject, _,
      ⟨hissued, hexpires⟩, rfl⟩
    subst hissuer
    exact ⟨⟨key, payload, hkey, hsigned, hclaims⟩, hsubject, hissued, hexpires⟩
  · rintro ⟨⟨key, payload, hkey, hsigned, hclaims⟩, hsubject, hissued, hexpires⟩
    exact ⟨_, payload, ⟨key, hkey, hsigned⟩, claims, hclaims, (), rfl, (), hsubject, (),
      ⟨hissued, hexpires⟩, rfl⟩

/-- An envelope that `verify_envelope` accepts, apart from the replay of its nonce. -/
structure EnvelopeVerified (cr : Crates) (encoded : Bytes) (trust : TrustStore)
    (recipient : String) (nowS maxClockSkewS : Int64) (v : VerifiedEnvelope) : Prop where
  signed : ∃ key payload, trust.lookup v.signer = some key ∧
    SignedUnder cr encoded envelopeAad v.signer key payload ∧
    cr.fromReader payload >>= ProtocolClaims.deserialize = some v.claims
  issuer_eq : v.claims.issuer = v.signer
  recipient_eq : v.claims.recipient = recipient
  fresh : nowS.absDiff v.claims.issuedAtS ≤ maxClockSkewS.unsignedAbs
  nonce_length : minNonceBytes ≤ v.claims.nonce.length

theorem checkEnvelope_eq_ok {encoded : Bytes} {trust : TrustStore} {recipient : String}
    {nowS maxClockSkewS : Int64} {v : VerifiedEnvelope} :
    checkEnvelope cr encoded trust recipient nowS maxClockSkewS = .ok v ↔
      EnvelopeVerified cr encoded trust recipient nowS maxClockSkewS v := by
  simp only [checkEnvelope, Except.bind_eq_ok, Prod.exists, verifySignedPayload_eq_ok,
    Except.okOr_eq_ok, Except.failIf_eq_ok, Except.pure_eq_ok, not_not, gt_iff_lt,
    UInt64.not_lt, Nat.not_lt]
  constructor
  · rintro ⟨signer, payload, ⟨key, hkey, hsigned⟩, claims, hclaims, _, hissuer, _, hrecipient, _,
      hfresh, _, hnonce, rfl⟩
    exact ⟨⟨key, payload, hkey, hsigned, hclaims⟩, hissuer, hrecipient, hfresh, hnonce⟩
  · rintro ⟨⟨key, payload, hkey, hsigned, hclaims⟩, hissuer, hrecipient, hfresh, hnonce⟩
    exact ⟨_, payload, ⟨key, hkey, hsigned⟩, _, hclaims, (), hissuer, (), hrecipient, (), hfresh,
      (), hnonce, rfl⟩

end

/-! ## Signing -/

/-- What has been signed at the end was signed before, or satisfies `P`. -/
def World.GrowsBy (P : Signing → Prop) (w w' : World) : Prop :=
  ∀ g ∈ w'.signings, g ∈ w.signings ∨ P g

namespace World

variable {P Q : Signing → Prop}

instance : Std.Refl (GrowsBy P) := ⟨fun _ _ hg => .inl hg⟩

instance : IsTrans World (GrowsBy P) where
  trans _ _ _ h₁ h₂ g hg := (h₂ g hg).elim (h₁ g) .inr

theorem GrowsBy.mono {w w' : World} (H : GrowsBy P w w') (h : ∀ g, P g → Q g) : GrowsBy Q w w' :=
  fun g hg => (H g hg).imp_right (h g)

theorem ask_eq_ok {source : Nat → Except String α} {wrap : String → ε} {w w' : World} {a : α} :
    ask source wrap w = .ok a w' ↔
      source w.tick = .ok a ∧ w' = { w with tick := w.tick + 1 } := by
  simp only [ask, bind_eq_ok, get_eq_ok, modify_eq_ok, ofExcept_eq_ok, and_assoc,
    exists_and_left, exists_eq_left, exists_const]

theorem ask_steps (source : Nat → Except String α) (wrap : String → ε) :
    Steps (GrowsBy P) (ask source wrap) := by
  refine .bind .get fun w => .bind (.modify fun w g hg => .inl hg) fun _ => .ofExcept _ _

end World

namespace Signing

/-- An envelope was made of this message. -/
structure IsEnvelope (cr : Crates) (identity : IdentityKey) (payload externalAad : Bytes)
    (g : Signing) : Prop where
  eq : g = ⟨identity.verifyingKey, unsignedMessage payload identity, externalAad⟩
  encodes : ∃ signature encoded, cr.toTaggedVec { g.message with signature } = some encoded

/-- The claims were signed as a protocol message. -/
def MadeFrom (cr : Crates) (claims : ProtocolClaims) (identity : IdentityKey) (g : Signing) :
    Prop :=
  ∃ payload, cr.intoWriter claims.serialize = some payload ∧
    g.IsEnvelope cr identity payload envelopeAad

/-- The claims were signed as a credential. -/
def IssuedFrom (cr : Crates) (claims : CredentialClaims) (issuer : IdentityKey) (g : Signing) :
    Prop :=
  ∃ payload, cr.intoWriter claims.serialize = some payload ∧
    g.IsEnvelope cr issuer payload credentialAad

end Signing

section

variable {cr : Crates} {payload aad encoded : Bytes} {identity : IdentityKey} {w w' : World}

theorem signPayload_eq_ok : signPayload cr payload identity aad w = .ok encoded w' ↔
    ∃ signature,
      identity.signer w.tick (cr.tbsData (unsignedMessage payload identity) aad) = .ok signature ∧
      cr.toTaggedVec { unsignedMessage payload identity with signature } = some encoded ∧
      w' = { tick := w.tick + 1
             signings := ⟨identity.verifyingKey, unsignedMessage payload identity, aad⟩ ::
               w.signings } := by
  simp only [signPayload, bind_eq_ok, World.ask_eq_ok, okOr_eq_ok, modify_eq_ok, pure_eq_ok,
    and_assoc, exists_and_left, exists_eq_left, exists_const]
  constructor
  · rintro ⟨signature, hsig, _, henc, rfl, rfl⟩
    exact ⟨signature, hsig, henc, rfl⟩
  · rintro ⟨signature, hsig, henc, rfl⟩
    exact ⟨signature, hsig, encoded, henc, rfl, rfl⟩

theorem signPayload_steps : Steps (World.GrowsBy (·.IsEnvelope cr identity payload aad))
    (signPayload cr payload identity aad) := by
  intro w
  refine Steps.bind_of_ok (World.ask_steps _ _) w fun signature w₁ _ =>
    Steps.bind_of_ok (.okOr _ _) w₁ fun encoded w₂ henc => ?_
  obtain ⟨henc, -⟩ := okOr_eq_ok.mp henc
  refine Steps.bind (.modify fun w g hg => ?_) (fun _ => .pure _) w₂
  rcases List.mem_cons.mp hg with rfl | hg
  · exact .inr ⟨rfl, signature, encoded, henc⟩
  · exact .inl hg

theorem issueCredential_eq_ok {claims : CredentialClaims} :
    issueCredential cr claims identity w = .ok encoded w' ↔ claims.issuer = identity.keyId ∧
      ∃ payload, cr.intoWriter claims.serialize = some payload ∧
        signPayload cr payload identity credentialAad w = .ok encoded w' := by
  simp only [issueCredential, bind_eq_ok, failIf_eq_ok, okOr_eq_ok, not_not, and_assoc,
    exists_and_left, exists_eq_left, exists_const]

theorem issueCredential_steps (claims : CredentialClaims) (issuer : IdentityKey) :
    Steps (World.GrowsBy (·.IssuedFrom cr claims issuer)) (issueCredential cr claims issuer) := by
  refine .bind (.failIf _ _) fun _ w => ?_
  refine Steps.bind_of_ok (.okOr _ _) w fun payload w' hpayload => ?_
  obtain ⟨hp, rfl⟩ := okOr_eq_ok.mp hpayload
  exact (signPayload_steps w').mono fun g hg => ⟨payload, hp, hg⟩

theorem signEnvelope_eq_ok {claims : ProtocolClaims} :
    signEnvelope cr claims identity w = .ok encoded w' ↔ claims.issuer = identity.keyId ∧
      ∃ payload, cr.intoWriter claims.serialize = some payload ∧
        signPayload cr payload identity envelopeAad w = .ok encoded w' := by
  simp only [signEnvelope, bind_eq_ok, failIf_eq_ok, okOr_eq_ok, not_not, and_assoc,
    exists_and_left, exists_eq_left, exists_const]

theorem signEnvelope_steps (claims : ProtocolClaims) (identity : IdentityKey) :
    Steps (World.GrowsBy (·.MadeFrom cr claims identity)) (signEnvelope cr claims identity) := by
  refine .bind (.failIf _ _) fun _ w => ?_
  refine Steps.bind_of_ok (.okOr _ _) w fun payload w' hpayload => ?_
  obtain ⟨hp, rfl⟩ := okOr_eq_ok.mp hpayload
  exact (signPayload_steps w').mono fun g hg => ⟨payload, hp, hg⟩

/-- No envelope is made by a signing that fails. -/
theorem signPayload_error {e : ProtocolError}
    (h : signPayload cr payload identity aad w = .error e w') : w'.signings = w.signings := by
  simp only [signPayload, World.ask, bind_eq_error, bind_eq_ok, okOr_eq_error, okOr_eq_ok,
    get_eq_error, get_eq_ok, modify_eq_error, modify_eq_ok, ofExcept_eq_error, ofExcept_eq_ok,
    pure_eq_error, and_false, exists_false, or_false, false_or, and_assoc, exists_and_left,
    exists_eq_left, exists_const] at h
  rcases h with ⟨_, -, -, rfl⟩ | ⟨_, -, -, -, rfl⟩ <;> rfl

theorem signEnvelope_error {claims : ProtocolClaims} {e : ProtocolError}
    (h : signEnvelope cr claims identity w = .error e w') : w'.signings = w.signings := by
  simp only [signEnvelope, bind_eq_error, failIf_eq_error, failIf_eq_ok, okOr_eq_error, okOr_eq_ok,
    and_assoc, exists_and_left, exists_eq_left, exists_const] at h
  rcases h with ⟨-, -, rfl⟩ | ⟨-, ⟨-, -, rfl⟩ | ⟨_, -, h⟩⟩
  · rfl
  · rfl
  · exact signPayload_error h

theorem issueCredential_error {claims : CredentialClaims} {e : ProtocolError}
    (h : issueCredential cr claims identity w = .error e w') : w'.signings = w.signings := by
  simp only [issueCredential, bind_eq_error, failIf_eq_error, failIf_eq_ok, okOr_eq_error,
    okOr_eq_ok, and_assoc, exists_and_left, exists_eq_left, exists_const] at h
  rcases h with ⟨-, -, rfl⟩ | ⟨-, ⟨-, -, rfl⟩ | ⟨_, -, h⟩⟩
  · rfl
  · rfl
  · exact signPayload_error h

end

/-- What was signed is read back, as its signer signed it. -/
theorem SignedUnder.eq_of_signed {cr : Crates} (hcr : cr.Faithful) {payload payload' : Bytes}
    {identity : IdentityKey} {aad aad' : Bytes} {w w' : World} {encoded : Bytes}
    (hsign : signPayload cr payload identity aad w = .ok encoded w') {signer : String}
    {key : VerifyingKey} (H : SignedUnder cr encoded aad' signer key payload') :
    payload' = payload ∧ signer = identity.keyId := by
  obtain ⟨signature, -, hencoded, -⟩ := signPayload_eq_ok.mp hsign
  obtain ⟨message, hmessage, -, hkeyId, -, hread⟩ := H.exists_message
  obtain ⟨message', hmessage', hheader, hpayload, -⟩ :=
    hcr.fromTaggedSlice_of_toTaggedVec rfl hencoded
  cases hmessage.symm.trans hmessage'
  refine ⟨Option.some.inj (hread.symm.trans hpayload), ?_⟩
  rw [hheader] at hkeyId
  exact Option.some.inj (hkeyId.symm.trans (String.toUtf8?_asBytes _))

/-- A message is verified as it was signed. -/
theorem EnvelopeVerified.eq_of_signed {cr : Crates} (hcr : cr.Faithful) {claims : ProtocolClaims}
    {identity : IdentityKey} {w w' : World} {encoded : Bytes}
    (hsign : signEnvelope cr claims identity w = .ok encoded w') {trust : TrustStore}
    {recipient : String} {nowS maxClockSkewS : Int64} {v : VerifiedEnvelope}
    (H : EnvelopeVerified cr encoded trust recipient nowS maxClockSkewS v) :
    v.claims = claims ∧ v.signer = identity.keyId := by
  obtain ⟨-, payload, hpayload, hsigned⟩ := signEnvelope_eq_ok.mp hsign
  obtain ⟨_, payload', -, hunder, hclaims⟩ := H.signed
  obtain ⟨rfl, hsigner⟩ := hunder.eq_of_signed hcr hsigned
  rw [hcr.fromReader_of_intoWriter hpayload, Option.bind_eq_bind, Option.bind_some,
    ProtocolClaims.deserialize_serialize] at hclaims
  exact ⟨(Option.some.inj hclaims).symm, hsigner⟩

/-- A credential is verified as it was issued. -/
theorem CredentialVerified.eq_of_issued {cr : Crates} (hcr : cr.Faithful)
    {claims claims' : CredentialClaims} {issuer : IdentityKey} {w w' : World} {encoded : Bytes}
    (hissue : issueCredential cr claims issuer w = .ok encoded w') {trust : TrustStore}
    {subject : String} {nowS : Int64}
    (H : CredentialVerified cr encoded trust subject nowS claims') : claims' = claims := by
  obtain ⟨-, payload, hpayload, hsigned⟩ := issueCredential_eq_ok.mp hissue
  obtain ⟨_, payload', -, hunder, hclaims⟩ := H.signed
  obtain ⟨rfl, -⟩ := hunder.eq_of_signed hcr hsigned
  rw [hcr.fromReader_of_intoWriter hpayload, Option.bind_eq_bind, Option.bind_some,
    CredentialClaims.deserialize_serialize] at hclaims
  exact (Option.some.inj hclaims).symm

/-- A message with the signature input of something signed has the key identifier of its signer, its
external data and its payload. -/
theorem Signing.IsEnvelope.eq_of_tbsData {cr : Crates} (hcr : cr.Faithful) {sig : Signing}
    {identity : IdentityKey} {payload aad aad' : Bytes} (H : sig.IsEnvelope cr identity payload aad)
    (haad : aad.length < 256) (haad' : aad'.length < 256) {encoded : Bytes} {message : CoseSign1}
    (hmessage : cr.fromTaggedSlice encoded = some message)
    (htbs : cr.tbsData message aad' = cr.tbsData sig.message sig.externalAad) :
    message.protectedHeader.header.keyId = identity.keyId.asBytes ∧ aad' = aad ∧
      message.payload.getD [] = payload := by
  obtain ⟨rfl, signature, b, hb⟩ := H
  have htbs' : cr.tbsData message aad' =
      cr.tbsData { unsignedMessage payload identity with signature } aad :=
    htbs.trans (hcr.tbsData_signature _ _ _).symm
  obtain ⟨hheader, haad, hpayload⟩ := hcr.of_tbsData_eq rfl hb hmessage haad haad' htbs'
  exact ⟨by rw [hheader]; rfl, haad, hpayload⟩

/-- The claims of a message with the signature input of a signed protocol message. -/
theorem Signing.MadeFrom.eq_of_tbsData {cr : Crates} (hcr : cr.Faithful) {sig : Signing}
    {claims claims' : ProtocolClaims} {identity : IdentityKey}
    (H : sig.MadeFrom cr claims identity) {encoded payload : Bytes} {message : CoseSign1}
    (hmessage : cr.fromTaggedSlice encoded = some message)
    (htbs : cr.tbsData message envelopeAad = cr.tbsData sig.message sig.externalAad)
    (hpayload : message.payload = some payload)
    (hclaims : cr.fromReader payload >>= ProtocolClaims.deserialize = some claims') :
    claims' = claims := by
  obtain ⟨payload', hwritten, henvelope⟩ := H
  have hsame := (henvelope.eq_of_tbsData hcr (by decide) (by decide) hmessage htbs).2.2
  rw [hpayload, Option.getD_some] at hsame
  rw [hsame, hcr.fromReader_of_intoWriter hwritten, Option.bind_eq_bind, Option.bind_some,
    ProtocolClaims.deserialize_serialize] at hclaims
  exact (Option.some.inj hclaims).symm

/-- The claims of a credential with the signature input of an issued one. -/
theorem Signing.IssuedFrom.eq_of_tbsData {cr : Crates} (hcr : cr.Faithful) {sig : Signing}
    {claims claims' : CredentialClaims} {issuer : IdentityKey}
    (H : sig.IssuedFrom cr claims issuer) {encoded payload : Bytes} {message : CoseSign1}
    (hmessage : cr.fromTaggedSlice encoded = some message)
    (htbs : cr.tbsData message credentialAad = cr.tbsData sig.message sig.externalAad)
    (hpayload : message.payload = some payload)
    (hclaims : cr.fromReader payload >>= CredentialClaims.deserialize = some claims') :
    claims' = claims := by
  obtain ⟨payload', hwritten, henvelope⟩ := H
  have hsame := (henvelope.eq_of_tbsData hcr (by decide) (by decide) hmessage htbs).2.2
  rw [hpayload, Option.getD_some] at hsame
  rw [hsame, hcr.fromReader_of_intoWriter hwritten, Option.bind_eq_bind, Option.bind_some,
    CredentialClaims.deserialize_serialize] at hclaims
  exact (Option.some.inj hclaims).symm

/-- What an identity signs verifies under its key. -/
def IdentityKey.Signs (cr : Crates) (identity : IdentityKey) : Prop :=
  ∀ {n payload signature}, identity.signer n payload = .ok signature →
    signature.length = 64 ∧ cr.verifyStrict identity.verifyingKey payload signature = true

/-- What an identity signs is an envelope under its key. -/
theorem SignedUnder.of_signed {cr : Crates} (hcr : cr.Faithful) {payload aad : Bytes}
    {identity : IdentityKey} (hidentity : identity.Signs cr) {w w' : World} {encoded : Bytes}
    (hsign : signPayload cr payload identity aad w = .ok encoded w') :
    SignedUnder cr encoded aad identity.keyId identity.verifyingKey payload := by
  obtain ⟨signature, hsignature, hencoded, -⟩ := signPayload_eq_ok.mp hsign
  obtain ⟨message, hmessage, hheader, hpayload, hread, htbs⟩ :=
    hcr.fromTaggedSlice_of_toTaggedVec rfl hencoded
  obtain ⟨hlength, hverifies⟩ := hidentity hsignature
  refine ⟨message, hmessage, ?_, ?_, ?_, hpayload⟩
  · rw [hheader]
    rfl
  · rw [hheader]
    exact String.toUtf8?_asBytes _
  · rw [verifySignature, hread, htbs, hcr.tbsData_signature, hlength, hverifies]
    rfl

/-- A signed message is accepted by its recipient while it is fresh. -/
theorem envelopeVerified_of_signed {cr : Crates} (hcr : cr.Faithful) {claims : ProtocolClaims}
    {identity : IdentityKey} (hidentity : identity.Signs cr) {w w' : World} {encoded : Bytes}
    (hsign : signEnvelope cr claims identity w = .ok encoded w') {trust : TrustStore}
    (htrust : trust.lookup identity.keyId = some identity.verifyingKey)
    {nowS maxClockSkewS : Int64}
    (hfresh : nowS.absDiff claims.issuedAtS ≤ maxClockSkewS.unsignedAbs)
    (hnonce : minNonceBytes ≤ claims.nonce.length) :
    EnvelopeVerified cr encoded trust claims.recipient nowS maxClockSkewS
      ⟨identity.keyId, claims⟩ := by
  obtain ⟨hissuer, payload, hpayload, hsigned⟩ := signEnvelope_eq_ok.mp hsign
  refine ⟨⟨identity.verifyingKey, payload, htrust, .of_signed hcr hidentity hsigned, ?_⟩,
    hissuer, rfl, hfresh, hnonce⟩
  rw [hcr.fromReader_of_intoWriter hpayload, Option.bind_eq_bind, Option.bind_some,
    ProtocolClaims.deserialize_serialize]

/-- A credential is accepted from its issue to its expiry. -/
theorem credentialVerified_of_issued {cr : Crates} (hcr : cr.Faithful) {claims : CredentialClaims}
    {issuer : IdentityKey} (hsigns : issuer.Signs cr) {w w' : World} {encoded : Bytes}
    (hissue : issueCredential cr claims issuer w = .ok encoded w') {trust : TrustStore}
    (htrust : trust.lookup issuer.keyId = some issuer.verifyingKey) {nowS : Int64}
    (hissued : claims.issuedAtS ≤ nowS) (hexpires : nowS ≤ claims.expiresAtS) :
    CredentialVerified cr encoded trust claims.subject nowS claims := by
  obtain ⟨hissuer, payload, hpayload, hsigned⟩ := issueCredential_eq_ok.mp hissue
  have hunder := SignedUnder.of_signed hcr hsigns hsigned
  rw [← hissuer] at htrust hunder
  refine ⟨⟨issuer.verifyingKey, payload, htrust, hunder, ?_⟩, rfl, hissued, hexpires⟩
  rw [hcr.fromReader_of_intoWriter hpayload, Option.bind_eq_bind, Option.bind_some,
    CredentialClaims.deserialize_serialize]

/-! ## Replay protection -/

namespace ReplayCache

variable [ReplayStateBackend B]

theorem withBackend_eq_ok {backend : B} {cache : ReplayCache B} :
    withBackend backend = .ok cache ↔ ∃ values, (ReplayStateBackend.load backend).1 = .ok values ∧
      cache = { consumed := values.toFinset, backend := some (ReplayStateBackend.load backend).2 } := by
  unfold withBackend
  rcases ReplayStateBackend.load backend with ⟨values | detail, backend'⟩ <;> simp [eq_comm]

theorem persistent_eq_ok {backend : B} {cache : ReplayCache B} :
    persistent (.ok backend) = .ok cache ↔ withBackend backend = .ok cache := Iff.rfl

theorem commit_consumed (nonce : Bytes) (cache : ReplayCache B) :
    (commit nonce cache).state.consumed = cache.consumed := by
  unfold commit
  split
  · rfl
  · split <;> rfl

variable {nonce : Bytes} {cache cache' : ReplayCache B}

theorem consume_eq_ok {u : Unit} : consume nonce cache = .ok u cache' ↔
    nonce ∉ cache.consumed ∧ ∃ committed, commit nonce cache = .ok () committed ∧
      cache' = { committed with consumed := insert nonce cache.consumed } := by
  have hcommitted {committed : ReplayCache B} (h : commit nonce cache = .ok () committed) :
      committed.consumed = cache.consumed := by
    have := commit_consumed nonce cache
    rwa [h, Result.state_ok] at this
  simp only [consume, bind_eq_ok, get_eq_ok, failIf_eq_ok, modify_eq_ok, and_assoc,
    exists_and_left, exists_eq_left, exists_const]
  constructor
  · rintro ⟨hnonce, _, committed, hcommit, rfl⟩
    exact ⟨hnonce, committed, hcommit, by rw [hcommitted hcommit]⟩
  · rintro ⟨hnonce, committed, hcommit, rfl⟩
    exact ⟨hnonce, (), committed, hcommit, by rw [hcommitted hcommit]⟩

/-- A consumption that fails: the identifier was there before, and nothing changes, or the
storage refuses, and only the storage may change. -/
theorem consume_eq_error {e : ProtocolError} (h : consume nonce cache = .error e cache') :
    e = .replay ∧ nonce ∈ cache.consumed ∧ cache' = cache ∨
      nonce ∉ cache.consumed ∧ commit nonce cache = .error e cache' := by
  simp only [consume, bind_eq_error, get_eq_error, get_eq_ok, failIf_eq_error,
    failIf_eq_ok, modify_eq_error, false_or, and_false, exists_false, or_false] at h
  obtain ⟨_, _, ⟨rfl, rfl⟩, ⟨hmem, rfl, rfl⟩ | ⟨_, _, ⟨hmem, rfl⟩, h⟩⟩ := h
  · exact .inl ⟨rfl, hmem, rfl⟩
  · exact .inr ⟨hmem, h⟩

theorem exists_consume_empty (nonce : Bytes) :
    ∃ cache, consume nonce ({} : ReplayCache B) = .ok () cache :=
  ⟨_, consume_eq_ok.mpr ⟨Finset.notMem_empty _, _, rfl, rfl⟩⟩

theorem consume_of_mem (h : nonce ∈ cache.consumed) :
    consume nonce cache = .error .replay cache := by
  cases hr : consume nonce cache with
  | ok u cache' => exact absurd h (consume_eq_ok.mp hr).1
  | error e cache' =>
    rcases consume_eq_error hr with ⟨rfl, -, rfl⟩ | ⟨hnot, -⟩
    · rfl
    · exact absurd h hnot

/-- The in-memory set of a failed consumption is unchanged. -/
theorem consume_error_consumed {e : ProtocolError} (h : consume nonce cache = .error e cache') :
    cache'.consumed = cache.consumed := by
  rcases consume_eq_error h with ⟨-, -, rfl⟩ | ⟨-, h⟩
  · rfl
  · have := commit_consumed nonce cache
    rwa [h, Result.state_error] at this

end ReplayCache

theorem verifyEnvelope_eq_ok [ReplayStateBackend B] {cr : Crates} {encoded : Bytes}
    {trust : TrustStore} {recipient : String} {nowS maxClockSkewS : Int64} {v : VerifiedEnvelope}
    {cache cache' : ReplayCache B} :
    verifyEnvelope cr encoded trust recipient nowS maxClockSkewS cache = .ok v cache' ↔
      EnvelopeVerified cr encoded trust recipient nowS maxClockSkewS v ∧
        ReplayCache.consume v.claims.nonce cache = .ok () cache' := by
  simp only [verifyEnvelope, bind_eq_ok, ofExcept_eq_ok, checkEnvelope_eq_ok, pure_eq_ok,
    and_assoc, exists_and_left, exists_eq_left]
  constructor
  · rintro ⟨v, hv, _, _, hconsume, rfl, rfl⟩
    exact ⟨hv, hconsume⟩
  · rintro ⟨hv, hconsume⟩
    exact ⟨v, hv, (), cache', hconsume, rfl, rfl⟩

end Access
