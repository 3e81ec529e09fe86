import Access.Verify.Entitlements
import Access.Verify.Issuing

/-! # What the policy says of a released transition

A redemption does not ask the policy. What is known of the evidence it is given is what the policy
allowed when the entitlement was issued, so far as the evidence says the same as then. -/

namespace Access

theorem stateNumber_inj {state state' : DockingState}
    (h : stateNumber state = stateNumber state') : state = state' := by
  cases state <;> cases state' <;> first | rfl | exact absurd h (by decide)

theorem eq_of_transitionFor {state state' : DockingState} {requested : UInt8}
    {x x' : DockingEvent × AuthorizedStage} (h : transitionFor state requested = some x)
    (h' : transitionFor state' requested = some x') : state = state' := by
  have hstage := (stage_of_transitionFor h).1
  have hstage' := (stage_of_transitionFor h').1
  exact stateNumber_inj (UInt8.toNat_inj.mp (by omega))

/-- The policy permits a transition under a rule, on the credentials of the session and the
evidence it is given. -/
def Permits (cr : Crates) (s : Host B) (rule : StageRuleProfile) (nowS : Int64)
    (readiness : ReadinessEvidence) : Prop :=
  ∃ decision, s.engine.config.authorizationPolicyEngine.authorizeTransition cr
    s.engine.chaser.keyId s.engine.station.keyId rule.action s.engine.verifiedCredentials
    s.engine.holderProofAtS.isSome s.engine.authorization.sessionAuthorized readiness
    (readiness.ageMs nowS ≤ rule.readiness.maximumAgeMs) = .ok decision

variable {cr : Crates} {s : Host B}

/-- Whatever the policy allowed the action of a rule on, it permits on evidence that says the same
and is fresh. -/
theorem AllowsRule.permits {s₀ : Host B} {rule : StageRuleProfile} {nowS : Int64}
    {readiness readiness₀ : ReadinessEvidence} (H : AllowsRule cr s₀ rule readiness₀)
    (hsession : s₀.engine.session = s.engine.session) (hfacts : SameFacts readiness readiness₀)
    (hsound : s.engine.authorization.sessionAuthorized = true)
    (hproof : s.engine.holderProofAtS.isSome = true)
    (hage : readiness.ageMs nowS ≤ rule.readiness.maximumAgeMs) :
    Permits cr s rule nowS readiness := by
  simp only [AccessEngine.session, Prod.mk.injEq] at hsession
  obtain ⟨hsetup, -, -, hcredentials⟩ := hsession
  refine CedarPolicyEngine.exists_authorize_iff.mpr ?_
  rw [hsound, hproof, decide_eq_true hage, hfacts.context_eq, ← hcredentials, ← hsetup]
  exact H

/-- The entitlement that a redemption takes is that of a request for the same stage, from the same
state and in the same session. -/
theorem Accepts.exists_request {es : List (Event B)} {signedGrantHex : String}
    {requestedState : UInt8} {nowS : Int64} {readiness : ReadinessEvidence} {a : AcceptedGrant}
    (H : Accepts cr s signedGrantHex requestedState nowS readiness a) (hbacked : Backed cr es s) :
    ∃ request nowS₀ readiness₀ i out, es.find? (approves a.grantId) = some request ∧
      IssuedBy cr request requestedState nowS₀ readiness₀ i out ∧
      request.before.engine.state = s.engine.state ∧
      request.before.engine.session = s.engine.session := by
  obtain ⟨request, nowS₀, readiness₀, i, out, hfind, hissued, -, -, hsession⟩ :=
    (hbacked _ _ H.pending).exists_request
  have hrequested : a.pending.requestedState = requestedState := by
    have husable := H.usable
    simp only [GrantUnusable, not_or, not_not] at husable
    exact husable.1
  rw [hrequested] at hissued
  obtain ⟨event, htransition⟩ := hissued.issues.transition
  have hstate := eq_of_transitionFor htransition H.transition
  exact ⟨request, nowS₀, readiness₀, i, out, hfind, hissued, hstate, hsession⟩

/-- What the policy allowed a request, when `rule` is the rule of its stages. -/
theorem IssuedBy.allowsRule {request : Event B} {requestedState : UInt8} {nowS : Int64}
    {readiness : ReadinessEvidence} {i : Issuance} {out : TransitionOutcome}
    {fromStage toStage : String} {rule : StageRuleProfile}
    (H : IssuedBy cr request requestedState nowS readiness i out)
    (hnames : transitionNames request.before.engine.state requestedState =
      some (fromStage, toStage))
    (hrule : request.before.engine.config.protocolProfile.findRule fromStage toStage = some rule)
    (hsession : request.before.engine.authorization.sessionAuthorized = true)
    (hresolves : Resolves request.before.engine.config.protocolProfile rule) :
    AllowsRule cr request.before rule readiness := by
  obtain ⟨rule₀, hrule₀, hdecision, -, -, hsatisfied⟩ := H.issues.exists_rule
  obtain ⟨hfrom, hto⟩ := Prod.mk.inj (Option.some.inj (H.issues.names.symm.trans hnames))
  rw [hfrom, hto] at hrule₀
  cases hrule.symm.trans hrule₀
  exact H.issues.allowsRule hdecision hsatisfied.maximumAge hsession hresolves

variable [ReplayStateBackend B]

/-- In every run, a redemption is of the entitlement of an approved request for the same stage, the
latest one for its grant; and if the identifier of the stage rule resolves, and the evidence
says the same as the evidence of that request, then the policy permits the transition on the
evidence of the redemption. -/
theorem redemption_permitted (cr : Crates) (setup : EngineSetup) (calls : List (Call B))
    (later earlier : List (Event B)) (e : Event B)
    (h : history cr setup calls = later ++ e :: earlier) (signedGrantHex : String)
    (requestedState : UInt8) (nowS : Int64) (readiness : ReadinessEvidence)
    (out : TransitionOutcome)
    (hcall : e.call = .redeemTransition signedGrantHex requestedState nowS readiness)
    (hreply : e.reply = .redeemed (.ok out)) :
    ∃ fromStage toStage rule grantId request nowS₀ readiness₀,
      transitionNames e.before.engine.state requestedState = some (fromStage, toStage) ∧
      setup.config.protocolProfile.findRule fromStage toStage = some rule ∧
      out.grantId = some grantId ∧ earlier.find? (approves grantId) = some request ∧
      request.call = .requestTransition requestedState nowS₀ readiness₀ ∧
      (Resolves setup.config.protocolProfile rule → SameFacts readiness readiness₀ →
        Permits cr e.before rule nowS readiness) := by
  obtain ⟨previous, hearlier, hbefore, H, -⟩ := event_happens h
  obtain ⟨before, call, reply, after⟩ := e
  dsimp only at hcall hreply hbefore H ⊢
  subst hcall hreply
  cases H with
  | @redeemed _ _ _ _ a _ _ redeems =>
    have haccepts := redeems.accepts
    obtain ⟨hsetup, hsound⟩ := reached cr setup previous
    have hbacked := (backed cr setup previous).1
    rw [← hbefore] at hsetup hsound hbacked
    rw [← hearlier] at hbacked
    obtain ⟨fromStage, toStage, hnames, hevaluated⟩ := haccepts.evaluated
    obtain ⟨-, -, rule, hrule, hsatisfied, -⟩ := evaluate_eq_ok.mp hevaluated
    obtain ⟨request, nowS₀, readiness₀, i, out₀, hfind, hissued, hstate, hsession⟩ :=
      haccepts.exists_request hbacked
    have hsetup₀ : request.before.engine.toEngineSetup = setup :=
      (congrArg Prod.fst hsession :).trans hsetup
    rw [hsetup] at hrule
    refine ⟨fromStage, toStage, rule, a.grantId, request, nowS₀, readiness₀, hnames, hrule,
      by rw [redeems.outcome]; rfl, hfind, hissued.call, fun hresolves hfacts => ?_⟩
    obtain ⟨-, hauthorized, hproof⟩ := hsound _ haccepts.session
    have hauthorized₀ : request.before.engine.authorization.sessionAuthorized = true := by
      rw [← hauthorized]
      exact (congrArg (·.2.2.1.sessionAuthorized) hsession :)
    have hallows := hissued.allowsRule (hstate ▸ hnames) (hsetup₀ ▸ hrule) hauthorized₀
      (hsetup₀ ▸ hresolves)
    exact hallows.permits hsession hfacts hauthorized hproof hsatisfied.maximumAge

/-- The redemption of the simulation, on the evidence of the request. -/
theorem redemption_permitted_approach :
    Permits reference (Simulation.after Simulation.requested) Simulation.approachRule
      Simulation.nowS Simulation.steady := by
  obtain ⟨-, -, -, hstate, hredeems, -⟩ := Simulation.runs
  obtain ⟨out, hreply⟩ := Simulation.reply_of_redeemTransition hredeems
  obtain ⟨fromStage, toStage, rule, _, request, nowS₀, readiness₀, hnames, hrule, -, hfind, hcall,
    hpermits⟩ := redemption_permitted reference _ _ _ _ _ (Simulation.history_redemptionOf _ _)
      (Hex.encode Simulation.grant) 1 Simulation.nowS Simulation.steady out rfl hreply
  rw [Simulation.before_redemptionOf] at hnames hpermits
  cases (Simulation.transitionNames_of_hold hstate).symm.trans hnames
  cases Simulation.findRule_approach.symm.trans hrule
  have hmem : request ∈ [_, _] := List.mem_of_find?_eq_some hfind
  have hreadiness : readiness₀ = Simulation.steady := by
    rcases List.mem_cons.mp hmem with rfl | hmem
    · cases hcall
      rfl
    · cases List.mem_singleton.mp hmem
      cases hcall
  cases hreadiness
  exact hpermits resolves_approachRule ⟨fun _ _ => rfl, rfl, rfl⟩

omit [ReplayStateBackend B] in
theorem not_permits_closing (s : Host B) :
    ¬Permits reference s Simulation.approachRule Simulation.nowS Simulation.closing := by
  rintro ⟨decision, h⟩
  have hrate := (reference_allows_approach (CedarPolicyEngine.allows_of_authorize h)).2
  have hclosing : ¬Simulation.closing.closingRateMps.ceilMilli ≤ 600 := by decide +kernel
  exact hclosing (of_decide_eq_true hrate)

/-- The evidence of a redemption is of a vehicle that is closing in too fast. -/
theorem redemption_not_permitted :
    ¬∀ (cr : Crates) (setup : EngineSetup) (calls : List (Call FileReplayStateBackend))
      (later earlier : List (Event FileReplayStateBackend)) (e : Event FileReplayStateBackend)
      (signedGrantHex : String) (requestedState : UInt8) (nowS : Int64)
      (readiness : ReadinessEvidence) (out : TransitionOutcome),
      history cr setup calls = later ++ e :: earlier →
      e.call = .redeemTransition signedGrantHex requestedState nowS readiness →
      e.reply = .redeemed (.ok out) →
      ∃ fromStage toStage rule,
        transitionNames e.before.engine.state requestedState = some (fromStage, toStage) ∧
        setup.config.protocolProfile.findRule fromStage toStage = some rule ∧
        Permits cr e.before rule nowS readiness := by
  intro H
  obtain ⟨-, -, -, hstate, -, hredeems, -⟩ := Simulation.runs
  obtain ⟨out, hreply⟩ := Simulation.reply_of_redeemTransition hredeems
  obtain ⟨fromStage, toStage, rule, hnames, hrule, hpermits⟩ := H reference _ _ _ _ _
    (Hex.encode Simulation.grant) 1 Simulation.nowS Simulation.closing out
    (Simulation.history_redemptionOf _ _) rfl hreply
  rw [Simulation.before_redemptionOf] at hnames
  cases (Simulation.transitionNames_of_hold hstate).symm.trans hnames
  cases Simulation.findRule_approach.symm.trans hrule
  exact not_permits_closing _ hpermits

end Access
