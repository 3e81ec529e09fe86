import Access.Reference
import Access.Verify.Entitlements

/-! # Where a redeemed grant comes from

An envelope that verifies under the station's key is one that was signed with it (`Unforged`), and
what the engine signs about a grant is the grant of an approved request. So a redeemed grant is
the one that was issued, if it is presented under the station's key identifier and the gate trusts
the station's key under it. -/

namespace Access

/-- An ideal signature on what is presented: if it verifies under the key of an identity, then the
engine has signed this input with that key. -/
def Unforged (cr : Crates) (w : World) (identity : IdentityKey) (encoded : Bytes) : Prop :=
  ∀ message, cr.fromTaggedSlice encoded = some message →
    verifySignature cr message envelopeAad identity.verifyingKey = true →
      ∃ sig ∈ w.signings, sig.key = identity.verifyingKey ∧
        cr.tbsData message envelopeAad = cr.tbsData sig.message sig.externalAad

/-- The protected header of an envelope names a signer. -/
def NamesSigner (cr : Crates) (encoded : Bytes) (signer : String) : Prop :=
  ∀ message, cr.fromTaggedSlice encoded = some message →
    message.protectedHeader.header.keyId.toUtf8? = some signer

variable {cr : Crates}

/-- A verified grant is the grant of an approved request. -/
theorem Logged.exists_request (hcr : cr.Faithful) {es : List (Event B)} {s : Host B}
    (H : Logged cr es s) {encoded : Bytes} {identity : IdentityKey} {trust : TrustStore}
    (hunforged : Unforged cr s.world identity encoded) (hsigner : NamesSigner cr encoded identity.keyId)
    (htrust : trust.lookup identity.keyId = some identity.verifyingKey) {recipient : String}
    {nowS maxClockSkewS : Int64} {v : VerifiedEnvelope}
    (hv : EnvelopeVerified cr encoded trust recipient nowS maxClockSkewS v) {grantId : String}
    (hgrant : v.claims.grantId = some grantId) :
    v.signer = identity.keyId ∧ ∃ e ∈ es, ∃ requestedState nowS₀ readiness i out,
      IssuedBy cr e requestedState nowS₀ readiness i out ∧
      v.claims = i.claims e.before.engine.toEngineSetup nowS₀ := by
  obtain ⟨key, payload, hkey, ⟨message, hmessage, -, hkeyId, hsignature, hpayload⟩, hclaims⟩ :=
    hv.signed
  have hname : v.signer = identity.keyId :=
    Option.some.inj (hkeyId.symm.trans (hsigner message hmessage))
  rw [hname, htrust] at hkey
  cases hkey
  refine ⟨hname, ?_⟩
  obtain ⟨sig, hsig, -, htbs⟩ := hunforged message hmessage hsignature
  rcases H sig hsig with (⟨payload', other, hcredential⟩ | ⟨claims, other, hmade, hnone⟩) |
    ⟨e, he, requestedState, nowS₀, readiness, i, out, hissued, hmade⟩
  · have := (hcredential.eq_of_tbsData hcr (by decide) (by decide) hmessage htbs).2.1
    exact absurd this (by decide)
  · rw [hmade.eq_of_tbsData hcr hmessage htbs hpayload hclaims, hnone] at hgrant
    cases hgrant
  · exact ⟨e, he, requestedState, nowS₀, readiness, i, out, hissued,
      hmade.eq_of_tbsData hcr hmessage htbs hpayload hclaims⟩

/-- An approved request issued the grant that was accepted, with its identifier, its expiry, its
session and its stage. -/
structure GrantOf (cr : Crates) (setup : EngineSetup) (v : VerifiedEnvelope) (e : Event B) :
    Prop where
  exists_request : ∃ requestedState nowS readiness issued,
    e.call = .requestTransition requestedState nowS readiness ∧ e.reply = .issued (.ok issued) ∧
    issued.approved = true ∧
    (∃ encoded w w', issued.signedGrantHex = some (Hex.encode encoded) ∧
      signEnvelope cr v.claims setup.station w = .ok encoded w') ∧
    issued.grantId = v.claims.grantId ∧ issued.grantExpiresAtS = v.claims.expiresAtS ∧
    issued.sessionId = v.claims.sessionId ∧
    ∃ event stage, transitionFor e.before.engine.state requestedState = some (event, stage) ∧
      v.claims.authorizedStage = some stage

/-- What was accepted is a grant that was issued. -/
structure Authentic (cr : Crates) (setup : EngineSetup) (es : List (Event B)) (nowS : Int64)
    (encoded : Bytes) (out : TransitionOutcome) : Prop where
  exists_envelope : ∃ v,
    EnvelopeVerified cr encoded setup.gateTrust setup.chaser.keyId nowS maxClockSkewS v ∧
    out.grantId = v.claims.grantId ∧ out.sessionId = v.claims.sessionId ∧
    v.claims.messageType = .authorizationGrant ∧ v.signer = setup.station.keyId ∧
    ∃ e ∈ es, GrantOf cr setup v e

theorem IssuedBy.grantOf {setup : EngineSetup} {v : VerifiedEnvelope} {e : Event B}
    {requestedState : UInt8} {nowS : Int64} {readiness : ReadinessEvidence} {i : Issuance}
    {out : TransitionOutcome} (H : IssuedBy cr e requestedState nowS readiness i out)
    (hsetup : e.before.engine.toEngineSetup = setup) (hclaims : v.claims = i.claims setup nowS) :
    GrantOf cr setup v e := by
  obtain ⟨w, -, hsign⟩ := H.issues.signed
  obtain ⟨event, htransition⟩ := H.issues.transition
  have hout := H.issues.outcome
  rw [hsetup] at hsign
  refine ⟨requestedState, nowS, readiness, out, H.call, H.reply, H.approved,
    ⟨i.encoded, w, e.after.world, by rw [hout]; rfl, hclaims ▸ hsign⟩, ?_, ?_, ?_, event, i.stage,
    htransition, ?_⟩
  all_goals
    first
    | rw [hout, hclaims]; rfl
    | rw [hclaims]; rfl

variable [ReplayStateBackend B]

/-- In every run, if the gate trusts the station's key under its identifier, then what is redeemed
under that identifier is a grant that an approved request of this engine signed: its type, its
signer, its expiry, its session, its stage and its identifier are those that were issued. -/
theorem redeemed_grant_issued (cr : Crates) (hcr : cr.Faithful) (setup : EngineSetup)
    (calls : List (Call B)) (s' : Host B) (signedGrantHex : String) (requestedState : UInt8)
    (nowS : Int64) (readiness : ReadinessEvidence) (out : TransitionOutcome) (encoded : Bytes)
    (h : redeemTransition cr signedGrantHex requestedState nowS readiness
      (Host.after cr setup calls) = .ok out s')
    (hencoded : Hex.decode signedGrantHex.asBytes = .ok encoded)
    (hunforged : Unforged cr (Host.after cr setup calls).world setup.station encoded)
    (hsigner : NamesSigner cr encoded setup.station.keyId)
    (htrust : setup.gateTrust.lookup setup.station.keyId = some setup.station.verifyingKey) :
    Authentic cr setup (history cr setup calls) nowS encoded out := by
  obtain ⟨a, redeems⟩ := redeemTransition_ok h
  have haccepts := redeems.accepts
  obtain ⟨encoded', hencoded', hv⟩ := haccepts.presented
  cases hencoded.symm.trans hencoded'
  have hsetup := (reached cr setup calls).setup_eq
  rw [show (Host.after cr setup calls).engine.gateTrust = setup.gateTrust from
    congrArg EngineSetup.gateTrust hsetup, show (Host.after cr setup calls).engine.chaser =
    setup.chaser from congrArg EngineSetup.chaser hsetup] at hv
  obtain ⟨hname, e, he, _, _, _, i, _, hissued, hclaims⟩ :=
    (backed cr setup calls).2.exists_request hcr hunforged hsigner htrust hv haccepts.grantId
  have husable := haccepts.usable
  simp only [GrantUnusable, not_or, not_not] at husable
  obtain ⟨later, earlier, hsplit⟩ := List.append_of_mem he
  obtain ⟨previous, -, hbefore, -, -⟩ := event_happens hsplit
  have hsetup₀ : e.before.engine.toEngineSetup = setup := by
    rw [hbefore]
    exact (reached cr setup previous).setup_eq
  rw [hsetup₀] at hclaims
  refine ⟨a.grant, hv, ?_, ?_, by rw [hclaims]; rfl, hname, e, he, hissued.grantOf hsetup₀ hclaims⟩
  · rw [redeems.outcome, haccepts.grantId]
    rfl
  · rw [redeems.outcome, husable.2.1]
    rfl

omit [ReplayStateBackend B] in
/-- An envelope whose message was signed. -/
theorem reference_signed {w : World} {identity : IdentityKey} {encoded : Bytes}
    (h : (Reference.fromTaggedSlice encoded).all (fun message =>
      message.protectedHeader.header.keyId.toUtf8? = some identity.keyId &&
      w.signings.any fun sig => sig.key = identity.verifyingKey &&
        Reference.tbsData message envelopeAad = Reference.tbsData sig.message sig.externalAad) =
      true) :
    Unforged reference w identity encoded ∧ NamesSigner reference encoded identity.keyId := by
  simp only [Option.all_eq_true, Bool.and_eq_true, decide_eq_true_eq, List.any_eq_true] at h
  have hall {message : CoseSign1} (hmessage : reference.fromTaggedSlice encoded = some message) :=
    h message hmessage
  refine ⟨fun message hmessage _ => ?_, fun message hmessage => (hall hmessage).1⟩
  obtain ⟨-, sig, hsig, hkey, htbs⟩ := hall hmessage
  exact ⟨sig, hsig, hkey, htbs⟩

omit [ReplayStateBackend B] in
/-- An envelope that does not verify under a key. -/
theorem reference_unforged {w : World} {identity : IdentityKey} {encoded : Bytes}
    (h : (Reference.fromTaggedSlice encoded).all (fun message =>
      !verifySignature reference message envelopeAad identity.verifyingKey) = true) :
    Unforged reference w identity encoded := by
  intro message hmessage hverifies
  have hnot := (Option.all_eq_true _ _).mp h message hmessage
  rw [hverifies] at hnot
  cases hnot

/-- The redemption of the simulation. -/
theorem redeemed_grant_issued_approach :
    ∃ out s', redeemTransition reference (Hex.encode Simulation.grant) 1 Simulation.nowS
        Simulation.steady (Simulation.after Simulation.requested) = .ok out s' ∧
      Authentic reference (Simulation.setup Simulation.protocolProfile) Simulation.earlier
        Simulation.nowS Simulation.grant out := by
  obtain ⟨-, -, -, -, hredeems, -, -, hsigned, -⟩ := Simulation.runs
  obtain ⟨out, s', h⟩ := Simulation.exists_of_isOk hredeems
  obtain ⟨hunforged, hsigner⟩ := reference_signed hsigned
  exact ⟨out, s', h, redeemed_grant_issued reference reference_faithful _ _ s' _ _ _ _ out _ h
    (Hex.decode_encode _) hunforged hsigner (by decide)⟩

/-- A grant that is redeemed, and that the station has not signed. -/
theorem redeemed_grant_forged :
    ¬∀ (cr : Crates) (_ : cr.Faithful) (setup : EngineSetup)
      (calls : List (Call FileReplayStateBackend)) (s' : Host FileReplayStateBackend)
      (signedGrantHex : String) (requestedState : UInt8) (nowS : Int64)
      (readiness : ReadinessEvidence) (out : TransitionOutcome) (encoded : Bytes),
      redeemTransition cr signedGrantHex requestedState nowS readiness
        (Host.after cr setup calls) = .ok out s' →
      Hex.decode signedGrantHex.asBytes = .ok encoded →
      Unforged cr (Host.after cr setup calls).world setup.station encoded →
      Authentic cr setup (history cr setup calls) nowS encoded out := by
  intro H
  obtain ⟨-, -, -, -, -, -, hredeems, -, hsigns, hunforged⟩ := Simulation.runs
  obtain ⟨out, s', h⟩ := Simulation.exists_of_isOk hredeems
  obtain ⟨encoded, w, hsign⟩ := Simulation.exists_of_isOk hsigns
  obtain ⟨v, hv, -, -, htype, -⟩ := H reference reference_faithful _ _ s' _ _ _ _ out _ h
    (Hex.decode_encode _) (reference_unforged hunforged)
  rw [show Simulation.forged = encoded from Simulation.envelope_eq hsign] at hv
  rw [(hv.eq_of_signed reference_faithful hsign).1] at htype
  cases htype

end Access
