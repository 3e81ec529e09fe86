import Access.Reference
import Access.Verify.Cedar
import Access.Verify.ProtocolProfile
import Access.Verify.Runs

/-! # What an approved request was approved for

The stage rule of a request is looked up by the names of its stages; the action that the policy is
asked about, and the age limit behind its freshness fact, are those of the first rule with the
identifier of that rule (`Resolves`). -/

namespace Access

/-- The first rule with the identifier of a rule has its action, and no smaller maximum age. -/
def Resolves (profile : ProtocolProfile) (rule : StageRuleProfile) : Prop :=
  ∃ found, profile.findRuleById rule.ruleId = some found ∧ found.action = rule.action ∧
    rule.readiness.maximumAgeMs ≤ found.readiness.maximumAgeMs

/-- An envelope is read as these claims. -/
structure ReadAs (cr : Crates) (encoded : Bytes) (claims : ProtocolClaims) : Prop where
  exists_message : ∃ message payload, cr.fromTaggedSlice encoded = some message ∧
    message.payload = some payload ∧
    cr.fromReader payload >>= ProtocolClaims.deserialize = some claims

variable {cr : Crates} {s s' : Host B}

theorem readAs_of_signed (hcr : cr.Faithful) {claims : ProtocolClaims} {identity : IdentityKey}
    {w w' : World} {encoded : Bytes} (h : signEnvelope cr claims identity w = .ok encoded w') :
    ReadAs cr encoded claims := by
  obtain ⟨-, payload, hpayload, hsigned⟩ := signEnvelope_eq_ok.mp h
  obtain ⟨signature, -, hencoded, -⟩ := signPayload_eq_ok.mp hsigned
  obtain ⟨message, hmessage, -, hread, -⟩ := hcr.fromTaggedSlice_of_toTaggedVec rfl hencoded
  refine ⟨message, payload, hmessage, hread, ?_⟩
  rw [hcr.fromReader_of_intoWriter hpayload, Option.bind_eq_bind, Option.bind_some,
    ProtocolClaims.deserialize_serialize]

theorem EnvelopeVerified.readAs {encoded : Bytes} {trust : TrustStore} {recipient : String}
    {nowS maxClockSkewS : Int64} {v : VerifiedEnvelope}
    (H : EnvelopeVerified cr encoded trust recipient nowS maxClockSkewS v) :
    ReadAs cr encoded v.claims := by
  obtain ⟨_, payload, -, ⟨message, hmessage, -, -, -, hpayload⟩, hclaims⟩ := H.signed
  exact ⟨message, payload, hmessage, hpayload, hclaims⟩

theorem ReadAs.eq {encoded : Bytes} {claims claims' : ProtocolClaims}
    (H : ReadAs cr encoded claims) (H' : ReadAs cr encoded claims') : claims = claims' := by
  obtain ⟨message, payload, hmessage, hpayload, hclaims⟩ := H.exists_message
  obtain ⟨message', payload', hmessage', hpayload', hclaims'⟩ := H'.exists_message
  cases hmessage.symm.trans hmessage'
  cases hpayload.symm.trans hpayload'
  exact Option.some.inj (hclaims.symm.trans hclaims')

/-- What holds of every approved request: it is `rule` that was checked, and the grant is for it. -/
structure ApprovedUnder (cr : Crates) (s : Host B) (rule : StageRuleProfile) (nowS : Int64)
    (readiness : ReadinessEvidence) (out : TransitionOutcome) : Prop where
  foundation : FoundationValid cr s.engine.config.protocolProfile nowS s.engine.config.trustBundleId
    s.engine.config.trustBundleVersion s.engine.config.trustBundleIssuedAtS
  credentials : ∀ credential ∈ s.engine.verifiedCredentials,
    CredentialValid s.engine.config.protocolProfile nowS credential
  readiness : readiness.ageMs nowS ≤ rule.readiness.maximumAgeMs
  session : s.engine.authorization.sessionAuthorized = true
  ttl : out.entitlementTtlS = some rule.entitlementTtlS
  signed : ∃ encoded claims, out.signedGrantHex = some (Hex.encode encoded) ∧
    ReadAs cr encoded claims ∧ claims.ruleId = some rule.ruleId

/-- The policy allows the action of a rule, on the credentials of the session and fresh evidence. -/
def AllowsRule (cr : Crates) (s : Host B) (rule : StageRuleProfile)
    (readiness : ReadinessEvidence) : Prop :=
  CedarAllows cr s.engine.config.authorizationPolicyEngine s.engine.chaser.keyId rule.action
    s.engine.station.keyId (context s.engine.verifiedCredentials true true (some readiness) true)

/-- The rule of an approved request. -/
theorem Issues.exists_rule {requestedState : UInt8} {nowS : Int64}
    {readiness : ReadinessEvidence} {i : Issuance} {out : TransitionOutcome}
    (H : Issues cr s requestedState nowS readiness i out s') : ∃ rule,
      s.engine.config.protocolProfile.findRule i.fromStage i.toStage = some rule ∧
      i.rule = s.engine.config.protocolProfile.decision rule ∧
      FoundationValid cr s.engine.config.protocolProfile nowS s.engine.config.trustBundleId
        s.engine.config.trustBundleVersion s.engine.config.trustBundleIssuedAtS ∧
      (∀ credential ∈ s.engine.verifiedCredentials,
        CredentialValid s.engine.config.protocolProfile nowS credential) ∧
      RuleSatisfied rule nowS (some nowS) s.engine.authorization.sessionAuthorized readiness := by
  obtain ⟨hfoundation, hcredentials, rule, hrule, hsatisfied, hdecision⟩ :=
    evaluate_eq_ok.mp H.evaluated
  exact ⟨rule, hrule, hdecision, hfoundation, hcredentials, hsatisfied⟩

/-- The action that was asked about is the one of the rule, if its identifier resolves. -/
theorem Issues.allowsRule {requestedState : UInt8} {nowS : Int64} {readiness : ReadinessEvidence}
    {i : Issuance} {out : TransitionOutcome} {rule : StageRuleProfile}
    (H : Issues cr s requestedState nowS readiness i out s')
    (hdecision : i.rule = s.engine.config.protocolProfile.decision rule)
    (hage : readiness.ageMs nowS ≤ rule.readiness.maximumAgeMs)
    (hsession : s.engine.authorization.sessionAuthorized = true)
    (hresolves : Resolves s.engine.config.protocolProfile rule) :
    AllowsRule cr s rule readiness := by
  obtain ⟨found, hfound, haction, hlimit⟩ := hresolves
  have hallowed := CedarPolicyEngine.allows_of_authorize H.authorized
  have hfound' : s.engine.config.protocolProfile.findRuleById i.rule.ruleId = some found := by
    rw [hdecision]
    exact hfound
  have hfresh : readinessFresh s.engine.config.protocolProfile i.rule nowS readiness = true := by
    simp only [readinessFresh, hfound', Option.map_some, Option.getD_some, decide_eq_true_eq]
    exact Int64.le_trans hage hlimit
  unfold AllowsRule
  simpa only [AccessEngine.proved, hfound', Option.map_some, Option.getD_some, haction, hsession,
    Option.isSome_some, hfresh] using hallowed

variable [ReplayStateBackend B]

/-- In every state a run can reach, an approved request was checked against the first rule with the
names of its stages: the window of the profile, the trust bundle, the credentials of the session,
the evidence and the session are as that rule and the profile require, and the signed grant is for
that rule. The ages are exact unless one is beyond 64 bits; and if the identifier of the rule
resolves to its action, that action is what the policy allowed. -/
theorem approved_under_rule (cr : Crates) (hcr : cr.Faithful) (hts : cr.TimestampsInRange)
    (setup : EngineSetup) (calls : List (Call B)) (requestedState : UInt8) (nowS : Int64)
    (readiness : ReadinessEvidence) (out : TransitionOutcome) (s' : Host B)
    (h : requestTransition cr requestedState nowS readiness (Host.after cr setup calls) =
      .ok out s') (happroved : out.approved = true) :
    let s := Host.after cr setup calls
    let profile := setup.config.protocolProfile
    ∃ fromStage toStage rule,
      transitionNames s.engine.state requestedState = some (fromStage, toStage) ∧
      profile.findRule fromStage toStage = some rule ∧
      ApprovedUnder cr s rule nowS readiness out ∧
      (EachAge AtMost profile rule nowS setup.config.trustBundleIssuedAtS
          s.engine.verifiedCredentials (some nowS) readiness ↔
        EachAge Measurable profile rule nowS setup.config.trustBundleIssuedAtS
          s.engine.verifiedCredentials (some nowS) readiness) ∧
      (Resolves profile rule → AllowsRule cr s rule readiness) := by
  intro s profile
  rcases requestTransition_ok h with ⟨hdenied, -⟩ | ⟨i, H⟩
  · rw [hdenied] at happroved
    cases happroved
  have hsetup : s.engine.toEngineSetup = setup := (reached cr setup calls).setup_eq
  obtain ⟨rule, hrule, hdecision, hfoundation, hcredentials, hsatisfied⟩ := H.exists_rule
  obtain ⟨-, hsession, -⟩ := (reached cr setup calls).sound _ H.session
  have hcompared := evaluate_compared hts hfoundation hcredentials hsatisfied
  have hallows := H.allowsRule hdecision hsatisfied.maximumAge hsession
  obtain ⟨w, -, hsigned⟩ := H.signed
  simp only [← hsetup, profile]
  refine ⟨i.fromStage, i.toStage, rule, H.names, hrule,
    ⟨hfoundation, hcredentials, hsatisfied.maximumAge, hsession, ?_, ?_⟩,
    hcompared.iff fun _ _ _ _ => Compared.atMost_iff, hallows⟩
  · rw [H.outcome, issuedOutcome, hdecision]
    rfl
  · exact ⟨i.encoded, _, by rw [H.outcome]; rfl, readAs_of_signed hcr hsigned,
      by rw [Issuance.claims, hdecision]; rfl⟩

/-- What the policy of the simulation needs for an approach. -/
theorem reference_allows_approach {engine : CedarPolicyEngine} {vehicleId stationId : String}
    {facts : CedarContext} (h : CedarAllows reference engine vehicleId "enter_approach" stationId
      facts) :
    Reference.holds facts "initial_hold_confirmed" = true ∧
      Reference.atMost facts "closing_rate_mmps" 600 = true := by
  obtain ⟨principal, action, resource, context, request, hprincipal, haction, hresource, hcontext,
    hrequest, -, hallow⟩ := h
  cases hprincipal
  cases haction
  cases hresource
  cases hcontext
  cases hrequest
  exact Reference.commercialDocking_approach rfl (reference_allow hallow)

theorem resolves_approachRule : Resolves Simulation.protocolProfile Simulation.approachRule :=
  ⟨Simulation.approachRule, rfl, rfl, Int64.le_refl _⟩

/-- The request of the simulation. -/
theorem approved_under_rule_approach :
    ∃ out s', requestTransition reference 1 Simulation.nowS Simulation.steady
        (Simulation.after Simulation.established) = .ok out s' ∧
      ApprovedUnder reference (Simulation.after Simulation.established) Simulation.approachRule
        Simulation.nowS Simulation.steady out ∧
      AllowsRule reference (Simulation.after Simulation.established) Simulation.approachRule
        Simulation.steady := by
  obtain ⟨-, hstate, hissued, -⟩ := Simulation.runs
  simp only [Simulation.after] at hstate
  obtain ⟨out, s', h, happroved⟩ := Simulation.exists_of_outcome hissued
  obtain ⟨fromStage, toStage, rule, hnames, hrule, hunder, -, hallows⟩ :=
    approved_under_rule reference reference_faithful reference_timestampsInRange
      (Simulation.setup Simulation.protocolProfile) Simulation.established 1 Simulation.nowS
      Simulation.steady out s' h happroved
  cases (Simulation.transitionNames_of_hold hstate).symm.trans hnames
  cases Simulation.findRule_approach.symm.trans hrule
  exact ⟨out, s', h, hunder, hallows resolves_approachRule⟩

namespace Simulation

/-- A profile in which the rule of the final approach comes first and has the identifier of the
rule of the approach. -/
def sharedIdProfile : ProtocolProfile :=
  { protocolProfile with
    stageRules := [{ finalApproachRule with ruleId := approachRule.ruleId }, approachRule] }

/-- Evidence on which the policy allows a final approach, and no approach. -/
def navigated : ReadinessEvidence :=
  readiness ["relative_navigation_valid", "approach_corridor_clear", "closing_rate_within_limit"] 1
    (1 / 100)

theorem not_cedarAllows_navigated (engine : CedarPolicyEngine) (vehicleId stationId : String)
    (credentials : List VerifiedCredentialEvidence) :
    ¬CedarAllows reference engine vehicleId approachRule.action stationId
      (context credentials true true (some navigated) true) := by
  intro h
  have hhold := (reference_allows_approach h).1
  cases hhold

theorem approved_sharedId : (outcome (requestTransition reference 1 nowS navigated
    (Host.after reference (setup sharedIdProfile) established))).any (·.approved) = true ∧
    (Host.after reference (setup sharedIdProfile) established).engine.state = .hold := by
  decide +kernel

end Simulation

/-- A request for an approach is approved, and the policy does not allow an approach. -/
theorem approved_other_action :
    ¬∀ (cr : Crates) (_ : cr.Faithful) (_ : cr.TimestampsInRange) (setup : EngineSetup)
      (calls : List (Call FileReplayStateBackend)) (requestedState : UInt8) (nowS : Int64)
      (readiness : ReadinessEvidence) (out : TransitionOutcome) (s' : Host FileReplayStateBackend),
      requestTransition cr requestedState nowS readiness (Host.after cr setup calls) =
        .ok out s' → out.approved = true →
      ∃ fromStage toStage rule, transitionNames (Host.after cr setup calls).engine.state
          requestedState = some (fromStage, toStage) ∧
        setup.config.protocolProfile.findRule fromStage toStage = some rule ∧
        AllowsRule cr (Host.after cr setup calls) rule readiness := by
  intro H
  obtain ⟨hissued, hstate⟩ := Simulation.approved_sharedId
  obtain ⟨out, s', h, happroved⟩ := Simulation.exists_of_outcome hissued
  obtain ⟨fromStage, toStage, rule, hnames, hrule, hallows⟩ :=
    H reference reference_faithful reference_timestampsInRange _ _ _ _ _ out s' h happroved
  cases (Simulation.transitionNames_of_hold hstate).symm.trans hnames
  cases (show some Simulation.approachRule = some rule from hrule)
  exact Simulation.not_cedarAllows_navigated _ _ _ _ hallows

end Access
