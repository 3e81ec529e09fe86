import Access.Verify.Transitions
import Access.Verify.ProtocolProfile

/-! # What a request changes

A request for a transition decides nothing about the docking state: all it can leave is a fresh
holder proof, consumed nonces of the two parties, and, if it is approved, one pending entitlement.
What is pending, what was signed and what is returned then say the same. -/

namespace Access

open EStateM

/-- What no request changes. -/
structure Unmoved (s s' : Host B) : Prop where
  state : s'.engine.state = s.engine.state
  sessionId : s'.engine.sessionId = s.engine.sessionId
  verifiedCredentials : s'.engine.verifiedCredentials = s.engine.verifiedCredentials
  authorization : s'.engine.authorization = s.engine.authorization
  gateReplay : s'.engine.gateReplay = s.engine.gateReplay
  consumedGrants : s'.engine.consumedGrants = s.engine.consumedGrants

/-- Claims bind a grant to the parties, the session, the stage that was asked for, and the rule of
the profile that allows it. -/
structure Binds (s : Host B) (requestedState : UInt8) (claims : ProtocolClaims) : Prop where
  messageType : claims.messageType = .authorizationGrant
  station : claims.issuer = s.engine.station.keyId
  chaser : claims.recipient = s.engine.chaser.keyId
  session : ∃ sessionId, s.engine.sessionId = some sessionId ∧ claims.sessionId = some sessionId
  stage : ∃ event stage, transitionFor s.engine.state requestedState = some (event, stage) ∧
    claims.authorizedStage = some stage
  rule : ∃ fromStage toStage rule,
    transitionNames s.engine.state requestedState = some (fromStage, toStage) ∧
    s.engine.config.protocolProfile.findRule fromStage toStage = some rule ∧
    claims.ruleId = some rule.ruleId ∧
    claims.protocolProfileId = some s.engine.config.protocolProfile.profileId ∧
    claims.protocolProfileVersion = some s.engine.config.protocolProfile.profileVersion

/-- The claims that were signed agree with the pending entitlement and the outcome. -/
structure Concurs (claims : ProtocolClaims) (pending : PendingEntitlement)
    (out : TransitionOutcome) : Prop where
  bundleId : claims.authorizationPolicyBundleId = some pending.authorizationDecision.policy.bundleId
  bundleVersion : claims.authorizationPolicyBundleVersion =
    some pending.authorizationDecision.policy.bundleVersion
  policySha256 : claims.authorizationPolicySha256 =
    some pending.authorizationDecision.policy.policySha256
  decision : out.authorizationDecision = some pending.authorizationDecision
  grantId : claims.grantId = out.grantId
  sessionId : claims.sessionId = out.sessionId
  ruleId : claims.ruleId = out.ruleId
  protocolProfileId : claims.protocolProfileId = out.protocolProfileId
  protocolProfileVersion : claims.protocolProfileVersion = out.protocolProfileVersion
  expiresAtS : claims.expiresAtS = out.grantExpiresAtS

/-- What an approved request writes: one entitlement, under the identifier of the grant that was
signed. -/
structure Writes (cr : Crates) (s : Host B) (requestedState : UInt8) (out : TransitionOutcome)
    (s' : Host B) : Prop where
  exists_grant : ∃ grantId claims pending encoded w,
    out.grantId = some grantId ∧
    s'.engine.pendingEntitlements = s.engine.pendingEntitlements.insert grantId pending ∧
    pending.requestedState = requestedState ∧
    signEnvelope cr claims s.engine.station w = .ok encoded s'.world ∧
    out.signedGrantHex = some (Hex.encode encoded) ∧
    Binds s requestedState claims ∧ Concurs claims pending out

variable {cr : Crates} {s s' : Host B} {requestedState : UInt8} {nowS : Int64}
  {readiness : ReadinessEvidence} {out : TransitionOutcome}

theorem Unmoved.of_sansProof (h : s'.engine.sansProof = s.engine.sansProof) : Unmoved s s' where
  state := (congrArg AccessEngine.state h :)
  sessionId := (congrArg AccessEngine.sessionId h :)
  verifiedCredentials := (congrArg AccessEngine.verifiedCredentials h :)
  authorization := (congrArg AccessEngine.authorization h :)
  gateReplay := (congrArg AccessEngine.gateReplay h :)
  consumedGrants := (congrArg AccessEngine.consumedGrants h :)

theorem Refreshes.pending (h : Refreshes cr s s') :
    s'.engine.pendingEntitlements = s.engine.pendingEntitlements :=
  (congrArg AccessEngine.pendingEntitlements h.kept.1 :)

theorem Issues.unmoved {i : Issuance} (H : Issues cr s requestedState nowS readiness i out s') :
    Unmoved s s' where
  state := (congrArg AccessEngine.state H.engine :)
  sessionId := (congrArg AccessEngine.sessionId H.engine :)
  verifiedCredentials := (congrArg AccessEngine.verifiedCredentials H.engine :)
  authorization := (congrArg AccessEngine.authorization H.engine :)
  gateReplay := (congrArg AccessEngine.gateReplay H.engine :)
  consumedGrants := (congrArg AccessEngine.consumedGrants H.engine :)

theorem Issues.binds {i : Issuance} (H : Issues cr s requestedState nowS readiness i out s') :
    Binds s requestedState (i.claims s.engine.toEngineSetup nowS) := by
  obtain ⟨event, htransition⟩ := H.transition
  obtain ⟨-, -, rule, hrule, -, hdecision⟩ := evaluate_eq_ok.mp H.evaluated
  refine ⟨rfl, rfl, rfl, ⟨_, H.session, rfl⟩, ⟨event, i.stage, htransition, rfl⟩,
    i.fromStage, i.toStage, rule, H.names, hrule, ?_, ?_, ?_⟩
  · exact congrArg (some ∘ ProtocolRuleDecision.ruleId) hdecision
  · exact congrArg (some ∘ ProtocolRuleDecision.profileId) hdecision
  · exact congrArg (some ∘ ProtocolRuleDecision.profileVersion) hdecision

theorem Issues.writes {i : Issuance} (H : Issues cr s requestedState nowS readiness i out s') :
    Writes cr s requestedState out s' := by
  obtain ⟨w, -, hsign⟩ := H.signed
  have hpending : s'.engine.pendingEntitlements = s.engine.pendingEntitlements.insert i.grantId
      { requestedState, authorizationDecision := i.decision } :=
    (congrArg AccessEngine.pendingEntitlements H.engine :)
  have hbinds := H.binds
  have hout := H.outcome
  subst hout
  exact ⟨i.grantId, _, _, i.encoded, w, rfl, hpending, rfl, hsign, rfl, hbinds,
    rfl, rfl, rfl, rfl, rfl, rfl, rfl, rfl, rfl, rfl⟩

theorem decideTransition_signedGrantHex {e : AccessEngine B}
    {sessionId fromStage toStage : String}
    (h : e.decideTransition cr sessionId fromStage toStage nowS readiness = .error out) :
    out.signedGrantHex = none := by
  unfold AccessEngine.decideTransition at h
  dsimp only at h
  split at h
  · cases h
    rfl
  · split at h
    · cases h
      rfl
    · cases h

variable [ReplayStateBackend B]

/-- A denied request returns no grant. -/
theorem requestTransition_signedGrantHex
    (h : requestTransition cr requestedState nowS readiness s = .ok out s')
    (hdenied : out.approved = false) : out.signedGrantHex = none := by
  simp only [requestTransition, bind_eq_ok, get_eq_ok, okOr_eq_ok, and_assoc, exists_and_left,
    exists_eq_left, Prod.exists] at h
  obtain ⟨event, stage, -, sessionId, -, _, s₁, -, fromStage, toStage, -, h⟩ := h
  cases hdecide : s₁.engine.decideTransition cr sessionId fromStage toStage nowS readiness with
  | error denial =>
    simp only [hdecide, pure_eq_ok] at h
    obtain ⟨rfl, rfl⟩ := h
    exact decideTransition_signedGrantHex hdecide
  | ok verdict =>
    simp only [hdecide, issueGrant, bind_eq_ok, pure_eq_ok] at h
    obtain ⟨_, _, -, _, _, -, _, _, -, _, _, -, rfl, -⟩ := h
    cases hdenied

/-- Whatever a request comes to, it moves nothing; and unless it is approved, it leaves the pending
entitlements as they are and returns no grant. An approved one writes the entitlement of the grant
that it returns. -/
theorem requestTransition_frame (cr : Crates) (s : Host B) (requestedState : UInt8) (nowS : Int64)
    (readiness : ReadinessEvidence) :
    (∀ e s', requestTransition cr requestedState nowS readiness s = .error e s' →
      Unmoved s s' ∧ s'.engine.pendingEntitlements = s.engine.pendingEntitlements) ∧
    ∀ out s', requestTransition cr requestedState nowS readiness s = .ok out s' →
      Unmoved s s' ∧
      (out.approved = false →
        s'.engine.pendingEntitlements = s.engine.pendingEntitlements ∧ out.signedGrantHex = none) ∧
      (out.approved = true → Writes cr s requestedState out s') := by
  constructor
  · intro e s' h
    have hrefreshes := requestTransition_error h
    exact ⟨.of_sansProof hrefreshes.kept.1, hrefreshes.pending⟩
  · intro out s' h
    rcases requestTransition_ok h with ⟨hdenied, hrefreshes⟩ | ⟨i, hissues⟩
    · refine ⟨.of_sansProof hrefreshes.kept.1, ?_, ?_⟩
      · intro _
        exact ⟨hrefreshes.pending, requestTransition_signedGrantHex h hdenied⟩
      · intro happroved
        cases hdenied.symm.trans happroved
    · refine ⟨hissues.unmoved, ?_, fun _ => hissues.writes⟩
      intro hdenied
      rw [hissues.outcome] at hdenied
      cases hdenied

end Access
