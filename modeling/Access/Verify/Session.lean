import Access.Transitions
import Access.Verify.Protocol

/-! # Establishing a session

What the messages of a session and `establish_session` change, and what a session that was
established went through. -/

namespace Access

open EStateM Host

/-! ## What is kept -/

/-- The part of the engine that `keep` shows is unchanged, and everything signed satisfies `P`. -/
def Keeps (keep : AccessEngine B → τ) (P : Signing → Prop) (s s' : Host B) : Prop :=
  keep s'.engine = keep s.engine ∧ s.world.GrowsBy P s'.world

namespace Keeps

variable {keep : AccessEngine B → τ} {P : Signing → Prop}

instance : Std.Refl (Keeps keep P) := ⟨fun s => ⟨rfl, Std.Refl.refl s.world⟩⟩

instance : IsTrans (Host B) (Keeps keep P) where
  trans _ _ _ h₁ h₂ := ⟨h₂.1.trans h₁.1, IsTrans.trans _ _ _ h₁.2 h₂.2⟩

theorem map {s s' : Host B} (H : Keeps keep P s s') (f : τ → τ') : Keeps (f ∘ keep) P s s' :=
  ⟨congrArg f H.1, H.2⟩

theorem assign {f : AccessEngine B → AccessEngine B} (h : ∀ e, keep (f e) = keep e) :
    Steps (Keeps keep P) (assign f) :=
  .modify fun s => ⟨h s.engine, Std.Refl.refl s.world⟩

theorem ofWorld {wrap : ε → SessionError} {x : EStateM ε World α}
    (hx : Steps (World.GrowsBy P) x) : Steps (Keeps keep P) (worldPart.run wrap x) :=
  .run hx fun _ _ h => ⟨rfl, h⟩

end Keeps

theorem assign_eq_ok {f : AccessEngine B → AccessEngine B} {u : PUnit} {s s' : Host B} :
    assign f s = .ok u s' ↔ s' = { s with engine := f s.engine } := modify_eq_ok

theorem assign_eq_error {f : AccessEngine B → AccessEngine B} {e : SessionError} {s s' : Host B} :
    assign f s = .error e s' ↔ False := modify_eq_error

/-- The engine without what an exchange of messages changes. -/
def AccessEngine.sansReplay (e : AccessEngine B) : AccessEngine B :=
  { e with stationReplay := {}, chaserReplay := {} }

/-- The engine without what a fresh proof changes. -/
def AccessEngine.sansProof (e : AccessEngine B) : AccessEngine B :=
  { e.sansReplay with holderProofAtS := none }

/-- The engine without what a session in preparation changes. -/
def AccessEngine.sansFacts (e : AccessEngine B) : AccessEngine B :=
  { e.sansProof with authorization := {}, verifiedCredentials := [] }

theorem Keeps.facts {P : Signing → Prop} {s s' : Host B}
    (H : Keeps AccessEngine.sansReplay P s s') : Keeps AccessEngine.sansFacts P s s' :=
  H.map AccessEngine.sansFacts

/-- Anything that is signed, except grants. -/
def Grantless (cr : Crates) (g : Signing) : Prop :=
  (∃ payload identity, g.IsEnvelope cr identity payload credentialAad) ∨
    ∃ claims identity, g.MadeFrom cr claims identity ∧ claims.grantId = none

/-! ## Exchanges -/

variable [ReplayStateBackend B] {cr : Crates} {self : EngineSetup} {s s' : Host B}

theorem exchange_eq_ok {claims : ProtocolClaims} {signer : IdentityKey} {trust : TrustStore}
    {recipient : String} {nowS : Int64} {v : VerifiedEnvelope} {t t' : ReplayCache B × World} :
    exchange cr claims signer trust recipient nowS t = .ok v t' ↔
      ∃ encoded, signEnvelope cr claims signer t.2 = .ok encoded t'.2 ∧
        EnvelopeVerified cr encoded trust recipient nowS maxClockSkewS v ∧
        ReplayCache.consume v.claims.nonce t.1 = .ok () t'.1 := by
  simp only [exchange, bind_eq_ok, Part.run_eq_ok, verifyEnvelope_eq_ok]
  constructor
  · rintro ⟨encoded, _, ⟨w, hsign, rfl⟩, c, ⟨hv, hconsume⟩, rfl⟩
    exact ⟨encoded, hsign, hv, hconsume⟩
  · rintro ⟨encoded, hsign, hv, hconsume⟩
    exact ⟨encoded, _, ⟨_, hsign, rfl⟩, _, ⟨hv, hconsume⟩, rfl⟩

theorem exchange_steps {claims : ProtocolClaims} {signer : IdentityKey} {trust : TrustStore}
    {recipient : String} {nowS : Int64} :
    Steps (fun t t' : ReplayCache B × World =>
      t.2.GrowsBy (·.MadeFrom cr claims signer) t'.2)
      (exchange cr claims signer trust recipient nowS) := by
  have : IsTrans (ReplayCache B × World) fun t t' => t.2.GrowsBy (·.MadeFrom cr claims signer) t'.2 :=
    ⟨fun _ _ _ h₁ h₂ => IsTrans.trans _ _ _ h₁ h₂⟩
  refine .bind (.run (signEnvelope_steps claims signer) fun _ _ h => h) fun encoded => ?_
  have hany : Steps (fun _ _ => True)
      (verifyEnvelope cr encoded trust recipient nowS maxClockSkewS : EStateM _ (ReplayCache B) _) :=
    fun _ => trivial
  exact .run hany fun t _ _ => Std.Refl.refl t.2

omit [ReplayStateBackend B] in
theorem randomNonce_keeps {keep : AccessEngine B → τ} {P : Signing → Prop} :
    Steps (Keeps keep P) (randomNonce self) :=
  .bind (.ofWorld (World.ask_steps _ _)) fun _ => .pure _

omit [ReplayStateBackend B] in
theorem randomNonce_length {nonce : Bytes} (h : randomNonce self s = .ok nonce s') :
    minNonceBytes ≤ nonce.length := by
  simp only [randomNonce, bind_eq_ok, pure_eq_ok] at h
  obtain ⟨filled, _, -, rfl, -⟩ := h
  rw [filled.2]
  decide

theorem exchangeRequest_keeps (nowS : Int64) :
    Steps (Keeps AccessEngine.sansReplay (Grantless cr) : Host B → Host B → Prop)
      (exchangeRequest cr self nowS) :=
  .bind randomNonce_keeps fun _ => .run exchange_steps fun _ _ h =>
    ⟨rfl, h.mono fun _ hg => .inr ⟨_, _, hg, rfl⟩⟩

theorem exchangeOffer_keeps (sessionId : String) (challenge : Bytes) (nowS : Int64) :
    Steps (Keeps AccessEngine.sansReplay (Grantless cr) : Host B → Host B → Prop)
      (exchangeOffer cr self sessionId challenge nowS) :=
  .bind randomNonce_keeps fun _ => .run exchange_steps fun _ _ h =>
    ⟨rfl, h.mono fun _ hg => .inr ⟨_, _, hg, rfl⟩⟩

theorem exchangeProof_keeps (sessionId : String) (challenge : Bytes) (credentials : List Bytes)
    (nowS : Int64) :
    Steps (Keeps AccessEngine.sansReplay (Grantless cr) : Host B → Host B → Prop)
      (exchangeProof cr self sessionId challenge credentials nowS) :=
  .bind randomNonce_keeps fun _ => .run exchange_steps fun _ _ h =>
    ⟨rfl, h.mono fun _ hg => .inr ⟨_, _, hg, rfl⟩⟩

/-- Claims were signed, and their envelope was verified as its recipient does. -/
structure Exchanged (cr : Crates) (claims : ProtocolClaims) (signer : IdentityKey)
    (trust : TrustStore) (recipient : String) (nowS : Int64) (v : VerifiedEnvelope) : Prop where
  exists_envelope : ∃ encoded w w', signEnvelope cr claims signer w = .ok encoded w' ∧
    EnvelopeVerified cr encoded trust recipient nowS maxClockSkewS v

theorem exchangeOffer_ok {sessionId : String} {challenge : Bytes} {nowS : Int64}
    {offer : VerifiedEnvelope} (h : exchangeOffer cr self sessionId challenge nowS s = .ok offer s') :
    ∃ nonce, Exchanged cr (offerClaims self sessionId challenge nonce nowS) self.station
      self.chaserPeerTrust self.chaser.keyId nowS offer := by
  simp only [exchangeOffer, bind_eq_ok, Part.run_eq_ok, exchange_eq_ok] at h
  obtain ⟨nonce, _, -, _, ⟨encoded, hsign, hv, -⟩, -⟩ := h
  exact ⟨nonce, encoded, _, _, hsign, hv⟩

theorem exchangeProof_ok {sessionId : String} {challenge : Bytes} {credentials : List Bytes}
    {nowS : Int64} {proof : VerifiedEnvelope}
    (h : exchangeProof cr self sessionId challenge credentials nowS s = .ok proof s') :
    ∃ nonce, Exchanged cr (proofClaims self sessionId challenge credentials nonce nowS) self.chaser
      self.stationPeerTrust self.station.keyId nowS proof := by
  simp only [exchangeProof, bind_eq_ok, Part.run_eq_ok, exchange_eq_ok] at h
  obtain ⟨nonce, _, -, _, ⟨encoded, hsign, hv, -⟩, -⟩ := h
  exact ⟨nonce, encoded, _, _, hsign, hv⟩

/-! ## The handshake -/

/-- A proof answers an offer of the station for a session. -/
structure Handshake (cr : Crates) (setup : EngineSetup) (sessionId : String) (challenge : Bytes)
    (nowS : Int64) (offer proof : VerifiedEnvelope) : Prop where
  offered : ∃ nonce, Exchanged cr (offerClaims setup sessionId challenge nonce nowS) setup.station
    setup.chaserPeerTrust setup.chaser.keyId nowS offer
  proved : ∃ credentials nonce, Exchanged cr
    (proofClaims setup sessionId challenge credentials nonce nowS) setup.chaser
    setup.stationPeerTrust setup.station.keyId nowS proof
  session_eq : proof.claims.sessionId = offer.claims.sessionId
  challenge_eq : proof.claims.challengeNonce = offer.claims.challengeNonce

theorem not_unbound {proof offer : VerifiedEnvelope} : ¬unbound proof offer ↔
    proof.claims.sessionId = offer.claims.sessionId ∧
      proof.claims.challengeNonce = offer.claims.challengeNonce := by
  simp only [unbound, not_or, not_not]

theorem proveHolder_keeps (sessionId : String) (scenario : AccessScenario) (nowS : Int64) :
    Steps (Keeps AccessEngine.sansReplay (Grantless cr) : Host B → Host B → Prop)
      (proveHolder cr self sessionId scenario nowS) := by
  refine .bind randomNonce_keeps fun challenge => ?_
  refine .bind (exchangeOffer_keeps sessionId challenge nowS) fun offer => ?_
  refine .bind (.ofWorld <| .mapM (fun claims => ?_) _) fun credentials => ?_
  · exact (issueCredential_steps claims _).mono fun _ _ h => h.mono fun _ ⟨payload, _, hg⟩ =>
      .inl ⟨payload, _, hg⟩
  refine .bind (exchangeProof_keeps sessionId challenge credentials nowS) fun proof => ?_
  exact .bind (.failIf _ _) fun _ => .pure _

theorem proveHolder_ok {sessionId : String} {scenario : AccessScenario} {nowS : Int64}
    {proof : VerifiedEnvelope} (h : proveHolder cr self sessionId scenario nowS s = .ok proof s') :
    ∃ challenge offer, Handshake cr self sessionId challenge nowS offer proof := by
  simp only [proveHolder, bind_eq_ok, failIf_eq_ok, pure_eq_ok] at h
  obtain ⟨challenge, _, -, offer, _, hoffer, credentials, _, -, proof, _, hproof, _, _,
    ⟨hbound, rfl⟩, rfl, rfl⟩ := h
  obtain ⟨hsession, hchallenge⟩ := not_unbound.mp hbound
  exact ⟨challenge, offer, exchangeOffer_ok hoffer, ⟨credentials, exchangeProof_ok hproof⟩,
    hsession, hchallenge⟩

/-! ## Sessions -/

theorem authorizeNewSession_keeps (scenario : AccessScenario) (nowS : Int64) :
    Steps (Keeps AccessEngine.sansFacts (Grantless cr) : Host B → Host B → Prop)
      (authorizeNewSession cr self scenario nowS) := by
  refine .bind randomNonce_keeps fun nonce => ?_
  refine .bind ((exchangeRequest_keeps nowS).mono fun _ _ => Keeps.facts) fun request => ?_
  refine .bind (.assign fun _ => rfl) fun _ => ?_
  refine .bind ((proveHolder_keeps _ scenario nowS).mono fun _ _ => Keeps.facts) fun proof => ?_
  refine .bind (.failIf _ _) fun _ => .bind (.ofExcept _ _) fun credentials => ?_
  refine .bind (.assign fun _ => rfl) fun _ => ?_
  refine .bind (.ofExcept _ _) fun _ => .bind (.ofExcept _ _) fun _ => ?_
  refine .bind (.assign fun _ => rfl) fun _ => ?_
  exact .bind (.ofExcept _ _) fun _ => .pure _

/-- What the authorization of a session went through. -/
structure SessionAuthorized (cr : Crates) (setup : EngineSetup) (sessionId : String)
    (nowS : Int64) (decision : AccessDecision) (credentials : List VerifiedCredentialEvidence) :
    Prop where
  exists_proof : ∃ challenge offer proof, Handshake cr setup sessionId challenge nowS offer proof ∧
    proof.claims.credentials ≠ [] ∧ verifyPresentation cr setup proof nowS = .ok credentials
  foundation : setup.config.protocolProfile.validateFoundation cr nowS setup.config.trustBundleId
    setup.config.trustBundleVersion setup.config.trustBundleIssuedAtS = .ok ()
  validated : setup.config.protocolProfile.validateCredentials credentials nowS = .ok ()
  allowed : setup.config.authorizationPolicyEngine.authorizeSession cr setup.chaser.keyId
    setup.station.keyId credentials true = .ok decision

theorem authorizeNewSession_ok {scenario : AccessScenario} {nowS : Int64} {sessionId : String}
    {request : VerifiedEnvelope} {decision : AccessDecision}
    (h : authorizeNewSession cr self scenario nowS s = .ok (sessionId, request, decision) s') :
    SessionAuthorized cr self sessionId nowS decision s'.engine.verifiedCredentials ∧
      s'.engine.authorization.identityVerified = true ∧
      s'.engine.holderProofAtS = some nowS := by
  simp only [authorizeNewSession, bind_eq_ok, assign_eq_ok, failIf_eq_ok, ofExcept_eq_ok,
    pure_eq_ok, Prod.mk.injEq] at h
  obtain ⟨_, _, -, _, s₂, -, _, _, rfl, proof, s₃, hproof, _, _, ⟨hpresent, rfl⟩, credentials, _,
    ⟨hverified, rfl⟩, _, _, rfl, _, _, ⟨hfoundation, rfl⟩, _, _, ⟨hcredentials, rfl⟩, _, _, rfl,
    decision, _, ⟨hallowed, rfl⟩, ⟨rfl, rfl, rfl⟩, rfl⟩ := h
  obtain ⟨challenge, offer, hhandshake⟩ := proveHolder_ok hproof
  have hkept := ((proveHolder_keeps _ scenario nowS).ok hproof).1
  exact ⟨⟨⟨challenge, offer, proof, hhandshake, hpresent, hverified⟩, hfoundation, hcredentials,
    hallowed⟩, congrArg (fun e : AccessEngine B => e.authorization.identityVerified) hkept, rfl⟩

/-- The state `establish_session` starts a session in. -/
def Host.resetFor (s : Host B) (scenario : AccessScenario) : Host B :=
  { s with engine := { s.engine.reset with scenario } }

theorem establishSession_error {nowS : Int64} {scenario : AccessScenario} {e : SessionError}
    (h : establishSession cr nowS scenario s = .error e s') :
    Keeps AccessEngine.sansFacts (Grantless cr) (s.resetFor scenario) s' := by
  simp only [establishSession, bind_eq_error, assign_eq_error, assign_eq_ok, get_eq_error,
    get_eq_ok, pure_eq_error, and_false, exists_false, or_false, false_or, and_assoc,
    exists_and_left, exists_eq_left, exists_const] at h
  exact (authorizeNewSession_keeps scenario nowS).error h

theorem establishSession_ok {nowS : Int64} {scenario : AccessScenario} {out : SessionOutcome}
    (h : establishSession cr nowS scenario s = .ok out s') :
    ∃ s₁, Keeps AccessEngine.sansFacts (Grantless cr) (s.resetFor scenario) s₁ ∧
      SessionAuthorized cr s.engine.toEngineSetup out.sessionId nowS out.authorizationDecision
        s₁.engine.verifiedCredentials ∧
      s₁.engine.authorization.identityVerified = true ∧
      s₁.engine.holderProofAtS = some nowS ∧
      s' = { s₁ with engine := s₁.engine.withSession out.sessionId } := by
  simp only [establishSession, bind_eq_ok, assign_eq_ok, get_eq_ok, pure_eq_ok, and_assoc,
    exists_and_left, exists_eq_left, exists_const, Prod.exists] at h
  obtain ⟨sessionId, request, decision, s₁, h, rfl, rfl⟩ := h
  obtain ⟨hsession, hidentity, hproof⟩ := authorizeNewSession_ok h
  exact ⟨s₁, (authorizeNewSession_keeps scenario nowS).ok h, hsession, hidentity, hproof, rfl⟩

end Access
