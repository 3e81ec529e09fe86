import Access.ChaserAccess
import Access.Verify.EntitlementVerifier
import Access.Verify.Lifetime
import Mathlib.Data.Nat.ModEq

/-! # The verifier and the gate

An issued grant is checked twice: by the client's verifier, for the command of the chaser, and by the
gate when it is presented. Both accept it exactly while its envelope is fresh and it has not expired,
as long as the verifier has the station's key (`LastKeyIs`). -/

namespace Access

open EStateM EntitlementVerifier

/-- An authority with the name of an identity lists its key. -/
def ListsIdentity (cr : Crates) (bundle : ClientTrustBundle) (identity : IdentityKey) : Prop :=
  ∃ authority ∈ bundle.trustedAuthorities, authority.authorityId = identity.keyId ∧
    ∃ record ∈ authority.signingKeys, record.keyId = identity.keyId ∧
      record.verifyingKey cr = .ok identity.verifyingKey

/-- The last record of a bundle with the key identifier of an identity has its key. -/
def LastKeyIs (cr : Crates) (bundle : ClientTrustBundle) (identity : IdentityKey) : Prop :=
  ∃ record, bundle.records.findRev? (·.keyId = identity.keyId) = some record ∧
    record.verifyingKey cr = .ok identity.verifyingKey

/-- The command of the chaser for an issued grant. -/
structure CommandFor (setup : EngineSetup) (requestedState : UInt8) (issued : TransitionOutcome)
    (command : VerifyCommand) : Prop where
  name : command.command = "verify_entitlement"
  entitlementHex : command.entitlementHex = issued.signedGrantHex
  expectedAuthority : command.expectedAuthority = some setup.station.keyId
  expectedSessionId : command.expectedSessionId = issued.sessionId
  expectedStage : command.expectedStage =
    ChaserAccess.stageName.lookup (requestedState.toNat : Int)

/-- What the verifier returns of a grant is what the outcome of its request says. -/
structure Matches (setup : EngineSetup) (requestedState : UInt8) (issued : TransitionOutcome)
    (out : VerifiedEntitlement) : Prop where
  authorityId : out.authorityId = setup.station.keyId
  clientId : out.clientId = setup.chaser.keyId
  sessionId : issued.sessionId = some out.sessionId
  authorizedStage :
    ChaserAccess.stageName.lookup (requestedState.toNat : Int) = some out.authorizedStage
  grantId : issued.grantId = some out.grantId
  expiresAtS : issued.grantExpiresAtS = some out.expiresAtS
  protocolProfileId : issued.protocolProfileId = some out.protocolProfileId
  protocolProfileVersion : issued.protocolProfileVersion = some out.protocolProfileVersion
  ruleId : issued.ruleId = some out.ruleId
  policy : issued.authorizationDecision.map (·.policy) =
    some ⟨out.authorizationPolicyBundleId, out.authorizationPolicyBundleVersion,
      out.authorizationPolicySha256⟩

/-- The verifier and the gate agree on an issued grant, and the verifier and its outcome. -/
structure Agree (setup : EngineSetup) (requestedState : UInt8) (issued : TransitionOutcome)
    (verified : Result DynError (ReplayCache C) VerifiedEntitlement)
    (gate : Result SessionError (Host B) CheckedGrant) : Prop where
  accepts : (∃ out cache, verified = .ok out cache) ↔ ∃ checked s, gate = .ok checked s
  returns : ∀ out cache, verified = .ok out cache → Matches setup requestedState issued out

variable {cr : Crates} {s s₀ s₁ s' : Host B} {requestedState : UInt8} {t u : Int64}
  {readiness : ReadinessEvidence} {i : Issuance} {issued : TransitionOutcome}

/-- What an identity signs is verified under its key. -/
theorem verifiesUnder_of_signed (hcr : cr.Faithful) {claims : ProtocolClaims}
    {identity : IdentityKey} (hidentity : identity.Signs cr) {w w' : World} {encoded : Bytes}
    (h : signEnvelope cr claims identity w = .ok encoded w') :
    VerifiesUnder cr encoded identity.verifyingKey := by
  obtain ⟨-, payload, -, hsigned⟩ := signEnvelope_eq_ok.mp h
  obtain ⟨message, hmessage, -, -, hverifies, -⟩ :=
    (SignedUnder.of_signed hcr hidentity hsigned).exists_message
  exact ⟨message, hmessage, hverifies⟩

/-! ## The gate -/

theorem acceptGrant_eq [ReplayStateBackend B] (signedGrantHex : String) (requestedState : UInt8)
    (nowS : Int64) (readiness : ReadinessEvidence) :
    acceptGrant (B := B) cr signedGrantHex requestedState nowS readiness = (do
      let self := (← get).engine
      let c ← gateChecks cr signedGrantHex requestedState nowS
      let (fromStage, toStage) ← okOr (transitionNames self.state requestedState)
        (.transition .invalidTransition)
      let rule ← ofExcept .protocolProfile (self.evaluate cr fromStage toStage nowS readiness)
      failIf (GrantUnprovenanced c.grant.claims c.pending rule) .grantMismatch
      pure ⟨c.eventKind, c.stage, c.sessionId, c.grant, c.grantId, c.pending, rule⟩) := by
  simp [acceptGrant, gateChecks]

/-- What the gate checked of a presented grant, its nonce apart. -/
structure GateChecked (cr : Crates) (s : Host B) (signedGrantHex : String) (requestedState : UInt8)
    (nowS : Int64) (c : CheckedGrant) : Prop where
  transition : transitionFor s.engine.state requestedState = some (c.eventKind, c.stage)
  session : s.engine.sessionId = some c.sessionId
  presented : ∃ encoded, Hex.decode signedGrantHex.asBytes = .ok encoded ∧
    EnvelopeVerified cr encoded s.engine.gateTrust s.engine.chaser.keyId nowS maxClockSkewS c.grant
  grantId : c.grant.claims.grantId = some c.grantId
  pending : s.engine.pendingEntitlements.lookup c.grantId = some c.pending
  usable : ¬GrantUnusable c.grant.claims c.pending requestedState c.sessionId c.stage nowS

theorem gateChecks_eq_ok [ReplayStateBackend B] {signedGrantHex : String} {c : CheckedGrant} :
    gateChecks cr signedGrantHex requestedState u s = .ok c s' ↔
      GateChecked cr s signedGrantHex requestedState u c ∧ ∃ gateReplay,
        ReplayCache.consume c.grant.claims.nonce s.engine.gateReplay = .ok () gateReplay ∧
        s' = { s with engine := { s.engine with
          gateReplay, pendingEntitlements := s.engine.pendingEntitlements.erase c.grantId } } := by
  simp only [gateChecks, bind_eq_ok, get_eq_ok, okOr_eq_ok, ofExcept_eq_ok, failIf_eq_ok,
    pure_eq_ok, Part.run_eq_ok, verifyEnvelope_eq_ok, takePending_eq_ok, and_assoc,
    exists_and_left, exists_eq_left, exists_const, Prod.exists]
  constructor
  · rintro ⟨event, stage, htransition, sessionId, hsession, encoded, hdecode, grant, hgrant, _,
      ⟨gateReplay, hconsume, rfl⟩, grantId, hid, pending, hpending, husable, rfl, rfl⟩
    exact ⟨⟨htransition, hsession, ⟨encoded, hdecode, hgrant⟩, hid, hpending, husable⟩, gateReplay,
      hconsume, rfl⟩
  · rintro ⟨⟨htransition, hsession, ⟨encoded, hdecode, hgrant⟩, hid, hpending, husable⟩,
      gateReplay, hconsume, rfl⟩
    exact ⟨_, _, htransition, _, hsession, encoded, hdecode, _, hgrant, _,
      ⟨gateReplay, hconsume, rfl⟩, _, hid, _, hpending, husable, rfl, rfl⟩

/-- What holds of an issued grant at a time while it is usable. -/
def Issuance.InTime (i : Issuance) (t u : Int64) : Prop :=
  u.absDiff t ≤ maxClockSkewS.unsignedAbs ∧ u ≤ t.saturatingAdd i.rule.entitlementTtlS.toInt64

/-- The gate accepts a grant that has not been presented while it is in time. -/
theorem Issues.gateChecks_iff [ReplayStateBackend B] {e : Event B}
    (H : Issues cr e.before requestedState t readiness i issued e.after) (hcr : cr.Faithful)
    (hsetup : s.engine.toEngineSetup = e.before.engine.toEngineSetup)
    (hstation : e.before.engine.station.Signs cr)
    (htrust : e.before.engine.gateTrust.lookup e.before.engine.station.keyId =
      some e.before.engine.station.verifyingKey)
    (hunpresented : Unpresented cr e issued s) :
    (∃ c s', gateChecks cr (Hex.encode i.encoded) requestedState u s = .ok c s') ↔
      i.InTime t u := by
  obtain ⟨w, -, hsign⟩ := H.signed
  have hgrantId : issued.grantId = some i.grantId := by rw [H.outcome]; rfl
  have hhex : issued.signedGrantHex = some (Hex.encode i.encoded) := by rw [H.outcome]; rfl
  constructor
  · rintro ⟨c, s', h⟩
    obtain ⟨hchecked, -⟩ := gateChecks_eq_ok.mp h
    obtain ⟨encoded, hdecode, hverified⟩ := hchecked.presented
    cases (Hex.decode_encode i.encoded).symm.trans hdecode
    have hclaims := (hverified.eq_of_signed hcr hsign).1
    have husable := hchecked.usable
    have hfresh := hverified.fresh
    simp only [GrantUnusable, not_or, hclaims, Issuance.claims, grantClaims, Option.all_some,
      decide_eq_true_eq, gt_iff_lt, Int64.not_lt] at husable
    rw [hclaims] at hfresh
    exact ⟨hfresh, husable.2.2.2⟩
  · rintro ⟨hfresh, hexpiry⟩
    have hverified := envelopeVerified_of_signed hcr hstation hsign htrust hfresh H.nonce
    have hgateTrust : s.engine.gateTrust = e.before.engine.gateTrust :=
      congrArg EngineSetup.gateTrust hsetup
    have hrecipient : (i.claims e.before.engine.toEngineSetup t).recipient =
        s.engine.chaser.keyId := congrArg (·.chaser.keyId) hsetup.symm
    have hsession : s.engine.sessionId = e.before.engine.sessionId :=
      hunpresented.sessionId.trans (congrArg AccessEngine.sessionId H.engine :)
    have hstate : s.engine.state = e.before.engine.state :=
      hunpresented.state.trans (congrArg AccessEngine.state H.engine :)
    have hpending : s.engine.pendingEntitlements.lookup i.grantId =
        some { requestedState, authorizationDecision := i.decision } := by
      rw [hunpresented.pending i.grantId hgrantId]
      exact (congrArg (·.pendingEntitlements.lookup i.grantId) H.engine :).trans
        (Finmap.lookup_insert _)
    obtain ⟨event, htransition⟩ := H.transition
    obtain ⟨gateReplay, hconsume⟩ :=
      hunpresented.nonce _ _ hhex (readAs_of_signed hcr hsign)
    rw [← hgateTrust, hrecipient] at hverified
    refine ⟨⟨event, i.stage, i.sessionId, ⟨_, _⟩, i.grantId, _⟩, _, gateChecks_eq_ok.mpr
      ⟨⟨hstate ▸ htransition, hsession ▸ H.session,
        ⟨i.encoded, Hex.decode_encode _, hverified⟩, rfl, hpending, ?_⟩, gateReplay, hconsume, rfl⟩⟩
    simp [GrantUnusable, Issuance.claims, grantClaims, Int64.not_lt, hexpiry]

/-- In every run, the gate accepts a grant that has not been presented exactly while it is in
time. -/
theorem gate_accepts_iff [ReplayStateBackend B] (hcr : cr.Faithful) {setup : EngineSetup}
    (hstation : setup.station.Signs cr)
    (htrust : setup.gateTrust.lookup setup.station.keyId = some setup.station.verifyingKey)
    {calls : List (Call B)} {later earlier : List (Event B)} {e : Event B}
    (h : history cr setup calls = later ++ e :: earlier)
    (hcall : e.call = .requestTransition requestedState t readiness)
    (hreply : e.reply = .issued (.ok issued)) (happroved : issued.approved = true)
    {encoded : Bytes} (hhex : issued.signedGrantHex = some (Hex.encode encoded)) {expiry : Int64}
    (hexpiry : issued.grantExpiresAtS = some expiry)
    (hunpresented : Unpresented cr e issued (Host.after cr setup calls)) :
    (∃ c s', gateChecks cr (Hex.encode encoded) requestedState u (Host.after cr setup calls) =
      .ok c s') ↔ u.absDiff t ≤ maxClockSkewS.unsignedAbs ∧ u ≤ expiry := by
  obtain ⟨previous, -, hbefore, hhappens, -⟩ := event_happens h
  obtain ⟨i, H⟩ := hhappens.exists_issuance hcall hreply happroved
  have hsetup : e.before.engine.toEngineSetup = setup := by
    rw [hbefore]
    exact (reached cr setup previous).setup_eq
  have hsetup' := (reached cr setup calls).setup_eq
  have houtcome := H.outcome
  subst houtcome hsetup
  cases Hex.encode_inj (Option.some.inj hhex)
  cases hexpiry
  exact H.gateChecks_iff hcr hsetup' hstation htrust hunpresented

/-! ## The verifier -/

/-- The chaser's name of the stage that the station authorizes. -/
theorem stageName_of_transitionFor {state : DockingState} {event : DockingEvent}
    {stage : AuthorizedStage} (h : transitionFor state requestedState = some (event, stage)) :
    ChaserAccess.stageName.lookup (requestedState.toNat : Int) = some stage.name := by
  unfold transitionFor at h
  split at h <;> cases h <;> rfl

section

variable {command : VerifyCommand} {bundle : ClientTrustBundle} {trust : TrustStore}
  {out : VerifiedEntitlement}

theorem trustsAuthority_of_lists {identity : IdentityKey} (h : ListsIdentity cr bundle identity) :
    bundle.trustsAuthority identity.keyId identity.keyId = true := by
  obtain ⟨authority, hauthority, hname, record, hrecord, hkeyId, -⟩ := h
  rw [ClientTrustBundle.trustsAuthority, List.any_eq_true]
  refine ⟨authority, hauthority, ?_⟩
  rw [Bool.and_eq_true, List.any_eq_true]
  exact ⟨decide_eq_true hname, record, hrecord, decide_eq_true hkeyId⟩

/-- The verifier's checks of an issued grant that has not expired. -/
theorem Issues.exists_grantChecked
    (H : Issues cr s₀ requestedState t readiness i issued s₁)
    (hcommand : CommandFor s₀.engine.toEngineSetup requestedState issued command)
    (hlists : ListsIdentity cr bundle s₀.engine.station)
    (hexpiry : u ≤ t.saturatingAdd i.rule.entitlementTtlS.toInt64) :
    ∃ out, GrantChecked command bundle u
      ⟨s₀.engine.station.keyId, i.claims s₀.engine.toEngineSetup t⟩ out := by
  obtain ⟨event, htransition⟩ := H.transition
  have hsession : issued.sessionId = some i.sessionId := by rw [H.outcome]; rfl
  exact ⟨⟨true, bundle.bundleId, bundle.version, s₀.engine.station.keyId, bundle.clientId,
      i.grantId, i.sessionId, i.stage.name, _, i.rule.profileId, i.rule.profileVersion,
      i.rule.ruleId, i.decision.policy.bundleId, i.decision.policy.bundleVersion,
      i.decision.policy.policySha256⟩,
    { messageType := rfl
      expectedAuthority := hcommand.expectedAuthority
      trusted := trustsAuthority_of_lists hlists
      expiresAtS := rfl
      unexpired := hexpiry
      sessionId := rfl
      expectedSessionId := hcommand.expectedSessionId.trans hsession
      stage := rfl
      expectedStage := hcommand.expectedStage.trans (stageName_of_transitionFor htransition)
      grantId := rfl
      protocolProfileId := rfl
      protocolProfileVersion := rfl
      ruleId := rfl
      policyBundleId := rfl
      policyBundleVersion := rfl
      policySha256 := rfl
      bundle := ⟨rfl, rfl, rfl⟩
      authorityId := rfl
      verified := rfl }⟩

/-- What the verifier returns of an issued grant. -/
theorem Issues.matches (H : Issues cr s₀ requestedState t readiness i issued s₁)
    (hcommand : CommandFor s₀.engine.toEngineSetup requestedState issued command)
    (hclient : bundle.clientId = s₀.engine.chaser.keyId)
    (hchecked : GrantChecked command bundle u
      ⟨s₀.engine.station.keyId, i.claims s₀.engine.toEngineSetup t⟩ out) :
    Matches s₀.engine.toEngineSetup requestedState issued out := by
  have houtcome := H.outcome
  subst houtcome
  have hpolicyId := Option.some.inj hchecked.policyBundleId
  have hpolicyVersion := Option.some.inj hchecked.policyBundleVersion
  have hpolicySha := Option.some.inj hchecked.policySha256
  exact
    { authorityId := hchecked.authorityId
      clientId := hchecked.bundle.2.2.trans hclient
      sessionId := hchecked.sessionId
      authorizedStage := hcommand.expectedStage.symm.trans hchecked.expectedStage
      grantId := hchecked.grantId
      expiresAtS := hchecked.expiresAtS
      protocolProfileId := hchecked.protocolProfileId
      protocolProfileVersion := hchecked.protocolProfileVersion
      ruleId := hchecked.ruleId
      policy := by rw [← hpolicyId, ← hpolicyVersion, ← hpolicySha]; rfl }

end

section

variable [ReplayStateBackend C] {parse : String → Except String VerifyCommand} {unixTime : Int64}
  {input : String} {command : VerifyCommand} {bundle : ClientTrustBundle} {trust : TrustStore}
  {cache cache' : ReplayCache C} {out : VerifiedEntitlement}

/-- What an issued grant went through that the verifier accepts. -/
theorem Issues.of_verifyCommand (H : Issues cr s₀ requestedState t readiness i issued s₁)
    (hcr : cr.Faithful) (hparse : parse input = .ok command)
    (hhex : command.entitlementHex = some (Hex.encode i.encoded))
    (h : verifyCommand cr parse unixTime input bundle trust cache = .ok out cache') :
    EnvelopeVerified cr i.encoded trust bundle.clientId (command.nowS.getD unixTime) maxClockSkewS
        ⟨s₀.engine.station.keyId, i.claims s₀.engine.toEngineSetup t⟩ ∧
      GrantChecked command bundle (command.nowS.getD unixTime)
        ⟨s₀.engine.station.keyId, i.claims s₀.engine.toEngineSetup t⟩ out := by
  obtain ⟨_, _, encoded, ⟨signer, claims⟩, hparse', -, hhex', hdecode, hverified, hcheck, -⟩ :=
    verifyCommand_eq_ok.mp h
  obtain ⟨w, -, hsign⟩ := H.signed
  cases hparse.symm.trans hparse'
  cases hhex.symm.trans hhex'
  cases (Hex.decode_encode i.encoded).symm.trans hdecode
  obtain ⟨rfl, rfl⟩ := hverified.eq_of_signed hcr hsign
  exact ⟨hverified, checkGrant_eq_ok.mp hcheck⟩

/-- The verifier accepts an issued grant under the key that it has for the station. -/
theorem Issues.exists_key (H : Issues cr s₀ requestedState t readiness i issued s₁)
    (hcr : cr.Faithful) (hparse : parse input = .ok command)
    (hhex : command.entitlementHex = some (Hex.encode i.encoded))
    (h : verifyCommand cr parse unixTime input bundle trust cache = .ok out cache') :
    ∃ key, trust.lookup s₀.engine.station.keyId = some key ∧ VerifiesUnder cr i.encoded key := by
  obtain ⟨hverified, -⟩ := H.of_verifyCommand hcr hparse hhex h
  obtain ⟨key, _, hkey, ⟨message, hmessage, -, -, hsignature, -⟩, -⟩ := hverified.signed
  exact ⟨key, hkey, message, hmessage, hsignature⟩

/-- A verifier that has the key of the station accepts a grant while it is in time. -/
theorem Issues.verifyCommand_of_inTime (H : Issues cr s₀ requestedState t readiness i issued s₁)
    (hcr : cr.Faithful) (hstation : s₀.engine.station.Signs cr)
    (htrust : trust.lookup s₀.engine.station.keyId = some s₀.engine.station.verifyingKey)
    (hparse : parse input = .ok command)
    (hcommand : CommandFor s₀.engine.toEngineSetup requestedState issued command)
    (hclient : bundle.clientId = s₀.engine.chaser.keyId)
    (hlists : ListsIdentity cr bundle s₀.engine.station)
    (hunused : ∀ nonce, ∃ cache', ReplayCache.consume nonce cache = .ok () cache')
    (h : i.InTime t (command.nowS.getD unixTime)) :
    ∃ out cache', verifyCommand cr parse unixTime input bundle trust cache = .ok out cache' := by
  obtain ⟨w, -, hsign⟩ := H.signed
  obtain ⟨hfresh, hexpiry⟩ := h
  obtain ⟨out, hchecked⟩ := H.exists_grantChecked hcommand hlists hexpiry
  obtain ⟨cache', hconsume⟩ := hunused i.nonce
  have hhex : issued.signedGrantHex = some (Hex.encode i.encoded) := by rw [H.outcome]; rfl
  have hverified := envelopeVerified_of_signed hcr hstation hsign htrust hfresh H.nonce
  have hrecipient : (i.claims s₀.engine.toEngineSetup t).recipient = bundle.clientId := hclient.symm
  rw [hrecipient] at hverified
  exact ⟨out, cache', verifyCommand_eq_ok.mpr ⟨command, _, i.encoded, _, hparse, hcommand.name,
    hcommand.entitlementHex.trans hhex, Hex.decode_encode _, hverified,
    checkGrant_eq_ok.mpr hchecked, hconsume⟩⟩

end

/-! ## The agreement -/

/-- In every run, when a grant of an approved request has not been presented, and the engine whose
gate trusts the station's key is still in the same session and docking state: for the command of the
chaser at any time, over a bundle that lists the station's key and over an unused journal, the
verifier and the gate agree if, while the grant is in time, the last key of the bundle under the
station's identifier is the station's; and only then, if no two keys of the bundle verify the
grant. -/
theorem verifier_agrees_with_gate_iff [ReplayStateBackend B] [ReplayStateBackend C] (cr : Crates)
    (hcr : cr.Faithful) (setup : EngineSetup) (hstation : setup.station.Signs cr)
    (htrust : setup.gateTrust.lookup setup.station.keyId = some setup.station.verifyingKey)
    (calls : List (Call B)) (later earlier : List (Event B)) (e : Event B)
    (h : history cr setup calls = later ++ e :: earlier) (requestedState : UInt8) (t : Int64)
    (readiness : ReadinessEvidence) (issued : TransitionOutcome) (encoded : Bytes) (expiry : Int64)
    (hcall : e.call = .requestTransition requestedState t readiness)
    (hreply : e.reply = .issued (.ok issued)) (happroved : issued.approved = true)
    (hhex : issued.signedGrantHex = some (Hex.encode encoded))
    (hexpiry : issued.grantExpiresAtS = some expiry)
    (hunpresented : Unpresented cr e issued (Host.after cr setup calls))
    (parse : String → Except String VerifyCommand) (unixTime startedAtS : Int64) (input : String)
    (command : VerifyCommand) (parsed bundle : ClientTrustBundle) (trust : TrustStore)
    (cache : ReplayCache C) (hparse : parse input = .ok command)
    (hcommand : CommandFor setup requestedState issued command)
    (hstart : start cr parsed startedAtS = .ok (bundle, trust))
    (hlists : ListsIdentity cr bundle setup.station) (hclient : bundle.clientId = setup.chaser.keyId)
    (hunused : ∀ nonce, ∃ cache', ReplayCache.consume nonce cache = .ok () cache') (u : Int64)
    (hu : command.nowS.getD unixTime = u) :
    let agree := Agree setup requestedState issued
      (verifyCommand cr parse unixTime input bundle trust cache)
      (gateChecks cr (Hex.encode encoded) requestedState u (Host.after cr setup calls))
    let inTime := u.absDiff t ≤ maxClockSkewS.unsignedAbs ∧ u ≤ expiry
    ((inTime → LastKeyIs cr bundle setup.station) → agree) ∧
      (Distinguishes cr bundle encoded → agree → inTime → LastKeyIs cr bundle setup.station) := by
  intro agree inTime
  obtain ⟨previous, -, hbefore, hhappens, -⟩ := event_happens h
  obtain ⟨i, H⟩ := hhappens.exists_issuance hcall hreply happroved
  have hsetup : e.before.engine.toEngineSetup = setup := by
    rw [hbefore]
    exact (reached cr setup previous).setup_eq
  have hsetup' := (reached cr setup calls).setup_eq
  have houtcome := H.outcome
  subst houtcome hu
  cases Hex.encode_inj (Option.some.inj hhex)
  cases hexpiry
  subst hsetup
  obtain ⟨w, -, hsign⟩ := H.signed
  obtain ⟨-, hstore⟩ := start_eq_ok.mp hstart
  have hgate := H.gateChecks_iff (u := command.nowS.getD unixTime) hcr hsetup' hstation htrust
    hunpresented
  constructor
  · intro hkey
    refine ⟨⟨?_, ?_⟩, ?_⟩
    · rintro ⟨out, cache', hok⟩
      obtain ⟨hverified, hchecked⟩ := H.of_verifyCommand hcr hparse hcommand.entitlementHex hok
      exact hgate.mpr ⟨hverified.fresh, Option.some.inj hchecked.expiresAtS ▸ hchecked.unexpired⟩
    · intro haccepts
      obtain ⟨record, hlast, hrecord⟩ := hkey (hgate.mp haccepts)
      exact H.verifyCommand_of_inTime hcr hstation
        (lookup_trustStore_of_findRev hstore hlast hrecord) hparse hcommand hclient hlists hunused
        (hgate.mp haccepts)
    · intro out cache' hok
      exact H.matches hcommand hclient (H.of_verifyCommand hcr hparse hcommand.entitlementHex hok).2
  · intro hdistinct hagree hin
    obtain ⟨out, cache', hok⟩ := hagree.accepts.mpr (hgate.mpr hin)
    obtain ⟨key, hkey, hverifies⟩ := H.exists_key hcr hparse hcommand.entitlementHex hok
    obtain ⟨record, hmem, hlast, hrecord⟩ := lookup_trustStore hstore hkey
    obtain ⟨authority, hauthority, -, record', hmem', -, hrecord'⟩ := hlists
    have hmem'' : record' ∈ bundle.records := List.mem_flatMap.mpr ⟨authority, hauthority, hmem'⟩
    cases hdistinct record hmem record' hmem'' key _ hrecord hrecord' hverifies
      (verifiesUnder_of_signed hcr hstation hsign)
    exact ⟨record, hlast, hrecord⟩

/-! ## Two keys of the simulation -/

namespace Reference

/-- The checksum behind the stand-in signature, for a modulus. -/
def checksum (modulus start : Nat) (b : Bytes) : Nat :=
  b.foldl (fun n x => (n * 257 + x.toNat + 1) % modulus) start

theorem checksum_lt {modulus start : Nat} (h : start < modulus) (b : Bytes) :
    checksum modulus start b < modulus := by
  induction b generalizing start with
  | nil => exact h
  | cons x b ih => exact ih (Nat.mod_lt _ (Nat.zero_lt_of_lt h))

/-- The checksum of a message determines what it starts from. -/
theorem checksum_inj {modulus a b : Nat} (hcoprime : Nat.gcd modulus 257 = 1) (message : Bytes)
    (ha : a < modulus) (hb : b < modulus)
    (h : checksum modulus a message = checksum modulus b message) : a = b := by
  induction message generalizing a b with
  | nil => exact h
  | cons x message ih =>
    have hpos := Nat.zero_lt_of_lt ha
    have hstep : Nat.ModEq modulus (a * 257 + x.toNat + 1) (b * 257 + x.toNat + 1) :=
      ih (Nat.mod_lt _ hpos) (Nat.mod_lt _ hpos) h
    have hstart : Nat.ModEq modulus a b := Nat.ModEq.cancel_right_of_coprime hcoprime
      (Nat.ModEq.add_right_cancel' _ (Nat.ModEq.add_right_cancel' _ hstep))
    exact hstart.eq_of_lt_of_lt ha hb

theorem ofBigEndian_sign (key : VerifyingKey) (message : Bytes) :
    Cbor.ofBigEndian (sign key message) =
      checksum (2 ^ 512 - 569) (checksum (2 ^ 512 - 569) 1 key.bytes) message := by
  have hone : 1 < 2 ^ 512 - 569 := by decide +kernel
  have hle : 2 ^ 512 - 569 ≤ 256 ^ 64 := by decide +kernel
  have hlt := checksum_lt (checksum_lt hone key.bytes) message
  rw [Cbor.ofBigEndian, sign, Cbor.foldl_bigEndian, Nat.mul_zero, Nat.zero_add, List.foldl_append]
  exact Nat.mod_eq_of_lt (Nat.lt_of_lt_of_le hlt hle)

/-- Keys that sign a message alike have the same checksum. -/
theorem checksum_of_sign {key key' : VerifyingKey} {message : Bytes}
    (h : sign key message = sign key' message) :
    checksum (2 ^ 512 - 569) 1 key.bytes = checksum (2 ^ 512 - 569) 1 key'.bytes := by
  have hone : 1 < 2 ^ 512 - 569 := by decide +kernel
  have hsum := congrArg Cbor.ofBigEndian h
  rw [ofBigEndian_sign, ofBigEndian_sign] at hsum
  exact checksum_inj (by decide +kernel) message (checksum_lt hone _) (checksum_lt hone _) hsum

end Reference

namespace Simulation

/-- The command of the chaser for the grant of the simulation. -/
def verifyIssued (issued : TransitionOutcome) : VerifyCommand where
  command := "verify_entitlement"
  entitlementHex := issued.signedGrantHex
  expectedAuthority := some station.keyId
  expectedSessionId := issued.sessionId
  expectedStage := some "approach"
  nowS := some nowS

theorem commandFor_verifyIssued (issued : TransitionOutcome) :
    CommandFor (setup protocolProfile) 1 issued (verifyIssued issued) :=
  ⟨rfl, rfl, rfl, rfl, rfl⟩

theorem listsIdentity_station {authorities : List TrustedAuthority}
    (h : stationAuthority ∈ authorities) :
    ListsIdentity reference (clientBundle authorities) (setup protocolProfile).station :=
  ⟨stationAuthority, h, rfl, keyRecord station, .head _, rfl, verifyingKey_keyRecord _ _⟩

/-- The envelope of the simulation's grant, and when it expires. -/
theorem request_signed : ∃ i out, Issues reference (after established) 1 nowS steady i out
      (after requested) ∧ request.reply = .issued (.ok out) ∧ out.approved = true ∧
    out.signedGrantHex = some (Hex.encode i.encoded) ∧
    ∃ expiry, out.grantExpiresAtS = some expiry ∧ nowS ≤ expiry := by
  obtain ⟨i, out, H, hreply, happroved⟩ := request_issued
  refine ⟨i, out, H, hreply, happroved, by rw [H.outcome]; rfl, _, by rw [H.outcome]; rfl, ?_⟩
  rw [ruleTtl_of_issues H]
  decide

/-- The other key under the identifier of the station's verifies nothing that the station signs. -/
theorem not_verifiesUnder_rogueStation {claims : ProtocolClaims} {w w' : World} {encoded : Bytes}
    (h : signEnvelope reference claims station w = .ok encoded w') :
    ¬VerifiesUnder reference encoded rogueStation.verifyingKey := by
  rintro ⟨message, hmessage, hverifies⟩
  obtain ⟨message', hmessage', hverifies'⟩ :=
    verifiesUnder_of_signed reference_faithful (signs_identity _ _) h
  cases hmessage.symm.trans hmessage'
  simp only [verifySignature, reference, Bool.and_eq_true, decide_eq_true_eq] at hverifies hverifies'
  have hkeys := Reference.checksum_of_sign (hverifies.2.symm.trans hverifies'.2)
  revert hkeys
  decide +kernel

end Simulation

open Simulation

/-- The verifier that has the station's key, and the gate of the simulation. -/
theorem verifier_agrees_with_gate_iff_station :
    ∃ out encoded, request.reply = .issued (.ok out) ∧
      Agree (setup protocolProfile) 1 out
        (verifyCommand reference (fun _ => .ok (verifyIssued out)) nowS ""
          (clientBundle [stationAuthority])
          (Finmap.singleton station.keyId station.verifyingKey)
          ({} : ReplayCache FileReplayStateBackend))
        (gateChecks reference (Hex.encode encoded) 1 nowS (after requested)) := by
  obtain ⟨i, out, H, hreply, happroved, hhex, expiry, hexpiry, -⟩ := request_signed
  refine ⟨out, i.encoded, hreply, ?_⟩
  refine (verifier_agrees_with_gate_iff reference reference_faithful (setup protocolProfile)
    (signs_identity _ _) (by decide) requested [] _ request rfl 1 nowS steady out i.encoded _ rfl
    hreply happroved hhex hexpiry (unpresented_requested out) _ nowS nowS "" (verifyIssued out) _ _
    _ {} rfl (commandFor_verifyIssued out) start_station (listsIdentity_station (.head _)) rfl
    ReplayCache.exists_consume_empty nowS rfl).1 fun _ => ?_
  exact ⟨keyRecord station, rfl, verifyingKey_keyRecord _ _⟩

/-- A grant that the gate accepts, and a verifier with two keys for the station does not. -/
theorem verifier_disagrees_with_gate :
    ¬∀ (cr : Crates) (_ : cr.Faithful) (setup : EngineSetup) (_ : setup.station.Signs cr)
      (_ : setup.gateTrust.lookup setup.station.keyId = some setup.station.verifyingKey)
      (calls : List (Call FileReplayStateBackend))
      (later earlier : List (Event FileReplayStateBackend)) (e : Event FileReplayStateBackend)
      (_ : history cr setup calls = later ++ e :: earlier) (requestedState : UInt8) (t : Int64)
      (readiness : ReadinessEvidence) (issued : TransitionOutcome) (encoded : Bytes),
      e.call = .requestTransition requestedState t readiness → e.reply = .issued (.ok issued) →
      issued.approved = true → issued.signedGrantHex = some (Hex.encode encoded) →
      Unpresented cr e issued (Host.after cr setup calls) →
      ∀ (parse : String → Except String VerifyCommand) (unixTime startedAtS : Int64)
        (input : String) (command : VerifyCommand) (parsed bundle : ClientTrustBundle)
        (trust : TrustStore) (cache : ReplayCache FileReplayStateBackend),
      parse input = .ok command → CommandFor setup requestedState issued command →
      start cr parsed startedAtS = .ok (bundle, trust) → ListsIdentity cr bundle setup.station →
      bundle.clientId = setup.chaser.keyId →
      (∀ nonce, ∃ cache', ReplayCache.consume nonce cache = .ok () cache') → ∀ u,
      command.nowS.getD unixTime = u →
      Agree setup requestedState issued
        (verifyCommand cr parse unixTime input bundle trust cache)
        (gateChecks cr (Hex.encode encoded) requestedState u (Host.after cr setup calls)) := by
  intro h
  obtain ⟨i, out, H, hreply, happroved, hhex, expiry, hexpiry, hin⟩ := request_signed
  have hagree := h reference reference_faithful (setup protocolProfile) (signs_identity _ _)
    (by decide) requested [] _ request rfl 1 nowS steady out i.encoded rfl hreply happroved hhex
    (unpresented_requested out) (fun _ => .ok (verifyIssued out)) nowS nowS "" (verifyIssued out) _
    _ _ {} rfl (commandFor_verifyIssued out) start_rogue (listsIdentity_station (.head _)) rfl
    ReplayCache.exists_consume_empty nowS rfl
  have hgate := (gate_accepts_iff reference_faithful (signs_identity _ _) (by decide)
    (show history reference (setup protocolProfile) requested = [] ++ request :: _ from rfl) rfl
    hreply happroved hhex hexpiry (unpresented_requested out)).mpr ⟨by decide, hin⟩
  obtain ⟨verified, cache', hok⟩ := hagree.accepts.mpr hgate
  obtain ⟨key, hkey, hverifies⟩ := H.exists_key reference_faithful rfl hhex hok
  obtain ⟨w, -, hsign⟩ := H.signed
  have hsetup := (reached reference (setup protocolProfile) established).setup_eq
  simp only [after] at hkey hsign
  rw [hsetup] at hkey hsign
  cases hkey.symm.trans Finmap.lookup_singleton_eq
  exact not_verifiesUnder_rogueStation hsign hverifies

end Access
