import Access.Verify.CommercialDocking
import Access.Verify.Issuing
import Access.Verify.StageOrder

/-! # Docking on evidence

With the stage rules of the simulation and the policies of the waystation, an approved request meets
the requirement for the stage after the current one (`approvedOn_of_history`). Every stage that an
engine is at or beyond was reached by the redemption of such a request in the current session. -/

namespace Access

open CommercialDocking Simulation

/-- The stage rule of a requested state. -/
def stageRule (requestedState : UInt8) : StageRuleProfile :=
  match requestedState with
  | 1 => approachRule
  | 2 => finalApproachRule
  | 3 => softCaptureRule
  | _ => hardDockRule

/-- A request for a state, one stage before it, was approved on credentials and evidence that meet
the requirement for its action, and the evidence was not too old. Readings are exact numbers. -/
structure ApprovedOn (request : Event B) (requestedState : UInt8) (issued : TransitionOutcome) :
    Prop where
  reply : request.reply = .issued (.ok issued)
  approved : issued.approved = true
  stage : (stateNumber request.before.engine.state).toNat + 1 = requestedState.toNat
  exists_evidence : ∃ nowS readiness required,
    request.call = .requestTransition requestedState nowS readiness ∧
    requirement (stageRule requestedState).action = some required ∧
    required.Met request.before.engine.verifiedCredentials true true readiness true ∧
    readiness.ageMs nowS ≤ (stageRule requestedState).readiness.maximumAgeMs

section

variable {profile : ProtocolProfile} (hrules : profile.stageRules = protocolProfile.stageRules)

include hrules

/-- The rule of a transition is the one of the requested state. -/
theorem findRule_stageRule {state : DockingState} {requestedState : UInt8}
    {fromStage toStage : String}
    (hnames : transitionNames state requestedState = some (fromStage, toStage)) :
    profile.findRule fromStage toStage = some (stageRule requestedState) := by
  rw [ProtocolProfile.findRule, hrules]
  unfold transitionNames at hnames
  split at hnames
  case h_5 => cases hnames
  all_goals
    cases hnames
    rfl

theorem resolves_stageRule (requestedState : UInt8) :
    Resolves profile (stageRule requestedState) := by
  rw [Resolves, ProtocolProfile.findRuleById, hrules]
  unfold stageRule
  split
  all_goals exact ⟨_, rfl, rfl, Int64.le_refl _⟩

end

section

variable {cr : Crates} {setup : EngineSetup}

theorem Crates.Evaluates.met_of_cedarAllows {engine : CedarPolicyEngine}
    (H : cr.Evaluates engine.policies CommercialDocking.policies)
    {vehicleId action stationId : String} {credentials : List VerifiedCredentialEvidence}
    {readiness : ReadinessEvidence}
    (h : CedarAllows cr engine vehicleId action stationId
      (context credentials true true (some readiness) true)) :
    stationId = "waystation-1" ∧ ∃ required, requirement action = some required ∧
      required.Met credentials true true readiness true := by
  apply (allows_iff_met vehicleId action stationId credentials true true readiness true).mp
  apply (H.authorize_iff "stage_transition" vehicleId action stationId
    CommercialDocking.wellFormed (nodup_context _ _ _ _ _) (provides_context _ _ _ _ _)).1.mp
  exact CedarPolicyEngine.exists_authorize_iff.mpr h

/-- One approved request. -/
theorem Issues.met {s s' : Host B} {requestedState : UInt8} {nowS : Int64}
    {readiness : ReadinessEvidence} {i : Issuance} {out : TransitionOutcome}
    (hissues : Issues cr s requestedState nowS readiness i out s')
    (hsession : s.engine.authorization.sessionAuthorized = true)
    (hrules : s.engine.config.protocolProfile.stageRules = protocolProfile.stageRules)
    (H : cr.Evaluates s.engine.config.authorizationPolicyEngine.policies
      CommercialDocking.policies) :
    s.engine.station.keyId = "waystation-1" ∧ ∃ required,
      requirement (stageRule requestedState).action = some required ∧
      required.Met s.engine.verifiedCredentials true true readiness true ∧
      readiness.ageMs nowS ≤ (stageRule requestedState).readiness.maximumAgeMs := by
  obtain ⟨rule, hrule, hdecision, -, -, hsatisfied⟩ := hissues.exists_rule
  cases (findRule_stageRule hrules hissues.names).symm.trans hrule
  have hallows := hissues.allowsRule hdecision hsatisfied.maximumAge hsession
    (resolves_stageRule hrules requestedState)
  obtain ⟨hstation, required, hrequired, hmet⟩ := H.met_of_cedarAllows hallows
  exact ⟨hstation, required, hrequired, hmet, hsatisfied.maximumAge⟩

variable [ReplayStateBackend B]

/-- What is approved in a run was approved at the waystation, on evidence. -/
theorem approvedOn_of_history
    (hrules : setup.config.protocolProfile.stageRules = protocolProfile.stageRules)
    (H : cr.Evaluates setup.config.authorizationPolicyEngine.policies CommercialDocking.policies)
    {calls : List (Call B)} {newer older : List (Event B)} {request : Event B}
    (h : history cr setup calls = newer ++ request :: older) {requestedState : UInt8}
    {nowS : Int64} {readiness : ReadinessEvidence} {issued : TransitionOutcome}
    (hcall : request.call = .requestTransition requestedState nowS readiness)
    (hreply : request.reply = .issued (.ok issued)) (happroved : issued.approved = true) :
    setup.station.keyId = "waystation-1" ∧ ApprovedOn request requestedState issued := by
  obtain ⟨previous, -, hbefore, hhappens, -⟩ := event_happens h
  obtain ⟨hsetup, hsound⟩ := reached cr setup previous
  rw [← hbefore] at hsetup hsound
  obtain ⟨s, call, reply, s'⟩ := request
  cases hcall
  cases hreply
  cases hhappens with
  | withheld _ _ _ hdenied =>
    rw [hdenied] at happroved
    cases happroved
  | issued _ _ _ hissues =>
    dsimp only at hsetup hsound
    obtain ⟨-, hsession, -⟩ := hsound _ hissues.session
    obtain ⟨_, htransition⟩ := hissues.transition
    obtain ⟨hstation, required, hrequired, hmet, hage⟩ := hissues.met hsession
      (hsetup ▸ hrules) (hsetup ▸ H)
    exact ⟨hsetup ▸ hstation, rfl, happroved, (stage_of_transitionFor htransition).1.symm,
      nowS, readiness, required, rfl, hrequired, hmet, hage⟩

/-- The entitlement of a request was redeemed, which led to a state. -/
structure RedeemedFor (redeem : Event B) (requestedState : UInt8) (issued : TransitionOutcome) :
    Prop where
  exists_outcome : ∃ out, redemption redeem = some out ∧ out.resultingState = requestedState ∧
    out.grantId = issued.grantId

/-- In the current session, a request for a state was approved on evidence, and its entitlement was
redeemed. -/
def ReachedOnEvidence (es : List (Event B)) (requestedState : UInt8) : Prop :=
  ∃ later redeem between request older issued,
    es = later ++ redeem :: (between ++ request :: older) ∧
    (later ++ redeem :: between).all (!establishes ·) ∧
    RedeemedFor redeem requestedState issued ∧ ApprovedOn request requestedState issued

omit [ReplayStateBackend B] in
theorem ReachedOnEvidence.cons {es : List (Event B)} {requestedState : UInt8}
    (h : ReachedOnEvidence es requestedState) {e : Event B} (he : establishes e = false) :
    ReachedOnEvidence (e :: es) requestedState := by
  obtain ⟨later, redeem, between, request, older, issued, rfl, hsession, hredeemed, hon⟩ := h
  refine ⟨e :: later, redeem, between, request, older, issued, rfl, ?_, hredeemed, hon⟩
  simpa [he] using hsession

omit [ReplayStateBackend B] in
theorem Happens.not_establishes {s s' : Host B} {c : Call B} {r : Reply}
    (H : Happens cr s c r s') {out : TransitionOutcome}
    (hout : redemption ⟨s, c, r, s'⟩ = some out) : establishes ⟨s, c, r, s'⟩ = false := by
  cases H with
  | redeemed => rfl
  | established | notEstablished | issued | withheld | notIssued | refused | enabled | replaced =>
    cases hout

/-- The stage that is reached now. -/
theorem reached_of_redemption
    (hrules : setup.config.protocolProfile.stageRules = protocolProfile.stageRules)
    (H : cr.Evaluates setup.config.authorizationPolicyEngine.policies CommercialDocking.policies)
    {calls : List (Call B)} {redeem : Event B} {older : List (Event B)}
    (h : history cr setup calls = [] ++ redeem :: older) {out : TransitionOutcome}
    (hout : redemption redeem = some out) (he : establishes redeem = false) :
    setup.station.keyId = "waystation-1" ∧
      ReachedOnEvidence (history cr setup calls) out.resultingState := by
  obtain ⟨g, hg, -, -, between, request, earlier, nowS, readiness, issued, rfl, -, hsession,
    hcall, hreply, happroved, hissued, -⟩ := (redeemed_inOrder h hout).usesUp
  have hrequest : history cr setup calls = (redeem :: between) ++ request :: earlier := h
  obtain ⟨hstation, hon⟩ := approvedOn_of_history hrules H hrequest hcall hreply happroved
  refine ⟨hstation, [], redeem, between, request, earlier, issued, h, ?_,
    ⟨out, hout, rfl, hg.trans hissued.symm⟩, hon⟩
  simpa [he] using hsession

/-- In every run of an engine with the stage rules of the simulation and the policies of the
waystation: for every stage up to the one the engine is at, a request for it was approved in the
current session, one stage before it, on credentials and evidence that meet the requirement for the
stage, and then its entitlement was redeemed. An engine that is at a stage belongs to the
waystation. Readings are exact numbers: their products with a thousand are not rounded. -/
theorem docked_on_evidence (cr : Crates) (setup : EngineSetup)
    (hrules : setup.config.protocolProfile.stageRules = protocolProfile.stageRules)
    (H : cr.Evaluates setup.config.authorizationPolicyEngine.policies CommercialDocking.policies)
    (calls : List (Call B)) (requestedState : UInt8) (hpos : 1 ≤ requestedState.toNat)
    (hle : requestedState.toNat ≤ (stateNumber (Host.after cr setup calls).engine.state).toNat) :
    setup.station.keyId = "waystation-1" ∧
      ReachedOnEvidence (history cr setup calls) requestedState := by
  induction calls with
  | nil =>
    have hzero : (stateNumber (Host.after (B := B) cr setup []).engine.state).toNat = 0 := rfl
    omega
  | cons c calls ih =>
    let e : Event B := Run.event (step cr) (Host.after cr setup calls) c
    have hhistory : history cr setup (c :: calls) = [] ++ e :: history cr setup calls := rfl
    obtain ⟨-, -, -, hhappens, -⟩ := event_happens hhistory
    -- a stage that the engine was already at was reached by what happened before
    have hkept (hle : requestedState.toNat ≤ (stateNumber e.before.engine.state).toNat)
        (he : establishes e = false) : setup.station.keyId = "waystation-1" ∧
          ReachedOnEvidence (history cr setup (c :: calls)) requestedState := by
      obtain ⟨hstation, hreached⟩ := ih hle
      exact ⟨hstation, hreached.cons he⟩
    cases hout : redemption e with
    | none =>
      have hstate := hhappens.state_eq hout
      by_cases he : establishes e = true
      · have hhold : (Host.after cr setup (c :: calls)).engine.state = .hold :=
          hstate.trans (if_pos he)
        rw [hhold] at hle
        exact absurd hle (by simp [stateNumber]; omega)
      · have hsame : (Host.after cr setup (c :: calls)).engine.state = e.before.engine.state :=
          hstate.trans (if_neg he)
        rw [hsame] at hle
        exact hkept hle (Bool.eq_false_iff.mpr he)
    | some out =>
      have hinOrder := redeemed_inOrder hhistory hout
      have he := hhappens.not_establishes hout
      have hafter : stateNumber (Host.after cr setup (c :: calls)).engine.state =
        out.resultingState := hinOrder.after
      rw [hafter, hinOrder.resulting, ← hinOrder.before] at hle
      rcases Nat.lt_or_eq_of_le hle with hlt | heq
      · exact hkept (Nat.le_of_lt_succ hlt) he
      have hrequested : out.resultingState = requestedState := by
        apply UInt8.toNat_inj.mp
        rw [hinOrder.resulting, ← hinOrder.before, heq]
      exact hrequested ▸ reached_of_redemption hrules H hhistory hout he

end

/-- The first redemption of a session. -/
theorem stateNumber_of_redeemed [ReplayStateBackend B] {cr : Crates} {setup : EngineSetup}
    {calls : List (Call B)} (hhold : (Host.after cr setup calls).engine.state = .hold) {c : Call B}
    {out : TransitionOutcome}
    (hreply : (Run.event (step cr) (Host.after cr setup calls) c).reply = .redeemed (.ok out)) :
    (stateNumber (Host.after cr setup (c :: calls)).engine.state).toNat = 1 := by
  have hhistory : history cr setup (c :: calls) =
    [] ++ Run.event (step cr) (Host.after cr setup calls) c :: history cr setup calls := rfl
  have hinOrder := redeemed_inOrder hhistory (redemption_of_reply hreply)
  have hbefore : stateNumber (Host.after cr setup calls).engine.state = out.previousState :=
    hinOrder.before
  have hafter : stateNumber (Host.after cr setup (c :: calls)).engine.state = out.resultingState :=
    hinOrder.after
  rw [hafter, hinOrder.resulting, ← hbefore, hhold]
  rfl

/-- The redemption of the simulation. -/
theorem docked_on_evidence_approach :
    ReachedOnEvidence (history reference (setup protocolProfile)
      (.redeemTransition (Hex.encode grant) 1 nowS steady :: requested)) 1 := by
  obtain ⟨-, -, -, hhold, hredeems, -⟩ := Simulation.runs
  obtain ⟨out, hreply⟩ := reply_of_redeemTransition hredeems
  simp only [after] at hhold hreply
  have hstage := stateNumber_of_redeemed hhold hreply
  exact (docked_on_evidence reference (setup protocolProfile) rfl (reference_evaluates _)
    (.redeemTransition (Hex.encode grant) 1 nowS steady :: requested) 1 (by decide)
    (Nat.le_of_eq hstage.symm)).2

end Access
