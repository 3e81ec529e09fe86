import Access.Verify.Credentials
import Access.Verify.Envelopes
import Access.Verify.Issuing

/-! # How long a grant can be redeemed

The expiry in a grant is the time of its issue and the lifetime of its rule. But its envelope is also
a message, which is stale once it is older than the clock skew; so a lifetime beyond that is not
usable, and one of the upper half of 64 bits is over when it begins. -/

namespace Access

/-- Nothing of a grant has been used since it was issued: its session and docking state are the
present ones, its entitlement is pending, and its nonce and its identifier can be consumed. -/
structure Unpresented [ReplayStateBackend B] (cr : Crates) (e : Event B)
    (issued : TransitionOutcome) (s : Host B) : Prop where
  sessionId : s.engine.sessionId = e.after.engine.sessionId
  state : s.engine.state = e.after.engine.state
  pending : ∀ grantId, issued.grantId = some grantId →
    s.engine.pendingEntitlements.lookup grantId = e.after.engine.pendingEntitlements.lookup grantId
  nonce : ∀ encoded claims, issued.signedGrantHex = some (Hex.encode encoded) →
    ReadAs cr encoded claims →
      ∃ cache, ReplayCache.consume claims.nonce s.engine.gateReplay = .ok () cache
  grantId : ∀ grantId, issued.grantId = some grantId →
    ∃ cache, ReplayCache.consume grantId.asBytes s.engine.consumedGrants = .ok () cache

/-- The profile allows a requested state. -/
def EvaluatesTo (cr : Crates) (s : Host B) (requestedState : UInt8) (nowS : Int64)
    (readiness : ReadinessEvidence) : Prop :=
  ∃ fromStage toStage rule, transitionNames s.engine.state requestedState =
    some (fromStage, toStage) ∧ s.engine.evaluate cr fromStage toStage nowS readiness = .ok rule

/-- A presentation is accepted. -/
def Redeemable [ReplayStateBackend B] (cr : Crates) (s : Host B) (signedGrantHex : String)
    (requestedState : UInt8) (nowS : Int64) (readiness : ReadinessEvidence) : Prop :=
  ∃ out s', redeemTransition cr signedGrantHex requestedState nowS readiness s = .ok out s'

variable {cr : Crates} {s s₀ s₁ : Host B} {e : Event B} {requestedState : UInt8} {t : Int64}
  {readiness₀ : ReadinessEvidence} {i : Issuance} {issued : TransitionOutcome}

/-- The rule of a transition does not depend on when it is looked up. -/
theorem Issues.rule_eq (H : Issues cr s₀ requestedState t readiness₀ i issued s₁)
    (hsetup : s.engine.toEngineSetup = s₀.engine.toEngineSetup)
    (hstate : s.engine.state = s₀.engine.state) {fromStage toStage : String} {u : Int64}
    {readiness : ReadinessEvidence} {rule : ProtocolRuleDecision}
    (hnames : transitionNames s.engine.state requestedState = some (fromStage, toStage))
    (hevaluate : s.engine.evaluate cr fromStage toStage u readiness = .ok rule) :
    rule = i.rule := by
  obtain ⟨rule₀, hrule₀, hdecision₀, -⟩ := H.exists_rule
  obtain ⟨-, -, rule₁, hrule₁, -, hdecision₁⟩ := evaluate_eq_ok.mp hevaluate
  rw [hstate, H.names] at hnames
  cases hnames
  rw [hsetup] at hrule₁ hdecision₁
  cases hrule₁.symm.trans hrule₀
  rw [hdecision₁, hdecision₀]

/-- A grant is accepted as long as its envelope is verified and it has not expired. -/
theorem Issues.accepts (H : Issues cr s₀ requestedState t readiness₀ i issued s₁)
    (hsetup : s.engine.toEngineSetup = s₀.engine.toEngineSetup)
    (hsession : s.engine.sessionId = s₀.engine.sessionId)
    (hstate : s.engine.state = s₀.engine.state)
    (hpending : s.engine.pendingEntitlements.lookup i.grantId =
      some { requestedState, authorizationDecision := i.decision }) {u : Int64}
    {readiness : ReadinessEvidence} {signer : String}
    (hverified : EnvelopeVerified cr i.encoded s.engine.gateTrust s.engine.chaser.keyId u
      maxClockSkewS ⟨signer, i.claims s₀.engine.toEngineSetup t⟩)
    (hexpiry : u ≤ t.saturatingAdd i.rule.entitlementTtlS.toInt64)
    (hevaluates : EvaluatesTo cr s requestedState u readiness) :
    ∃ event, Accepts cr s (Hex.encode i.encoded) requestedState u readiness
      ⟨event, i.stage, i.sessionId, ⟨signer, i.claims s₀.engine.toEngineSetup t⟩, i.grantId,
        { requestedState, authorizationDecision := i.decision }, i.rule⟩ := by
  obtain ⟨event, htransition⟩ := H.transition
  obtain ⟨fromStage, toStage, rule, hnames, hevaluate⟩ := hevaluates
  cases H.rule_eq hsetup hstate hnames hevaluate
  refine ⟨event, hstate ▸ htransition, hsession ▸ H.session,
    ⟨i.encoded, Hex.decode_encode _, hverified⟩, rfl, hpending, ?_,
    ⟨fromStage, toStage, hnames, hevaluate⟩, ?_⟩
  · simp [GrantUnusable, Issuance.claims, grantClaims, Int64.not_lt, hexpiry]
  · simp [GrantUnprovenanced, Issuance.claims, grantClaims]

theorem Happens.exists_issuance {c : Call B} {r : Reply} (H : Happens cr s₀ c r s₁)
    (hcall : c = .requestTransition requestedState t readiness₀) (hreply : r = .issued (.ok issued))
    (happroved : issued.approved = true) :
    ∃ i, Issues cr s₀ requestedState t readiness₀ i issued s₁ := by
  subst hcall hreply
  cases H with
  | issued _ _ _ issues => exact ⟨_, issues⟩
  | withheld _ _ _ denied =>
    rw [denied] at happroved
    cases happroved

variable [ReplayStateBackend B]

/-- An issued grant that is redeemed is fresh and has not expired. -/
theorem Issues.of_redeemable (H : Issues cr s₀ requestedState t readiness₀ i issued s₁)
    (hcr : cr.Faithful) {r : UInt8} {u : Int64} {readiness : ReadinessEvidence}
    (h : Redeemable cr s (Hex.encode i.encoded) r u readiness) :
    u.absDiff t ≤ maxClockSkewS.unsignedAbs ∧
      u ≤ t.saturatingAdd i.rule.entitlementTtlS.toInt64 := by
  obtain ⟨w, -, hsign⟩ := H.signed
  obtain ⟨out, s', h⟩ := h
  obtain ⟨a, redeems⟩ := redeemTransition_ok h
  obtain ⟨encoded, hdecode, hverified⟩ := redeems.accepts.presented
  cases (Hex.decode_encode i.encoded).symm.trans hdecode
  have hclaims := (hverified.eq_of_signed hcr hsign).1
  have husable := redeems.accepts.usable
  have hfresh := hverified.fresh
  simp only [GrantUnusable, not_or, hclaims, Issuance.claims, grantClaims, Option.all_some,
    decide_eq_true_eq, gt_iff_lt, Int64.not_lt] at husable
  rw [hclaims] at hfresh
  exact ⟨hfresh, husable.2.2.2⟩

/-- A grant that has not been presented is accepted if and only if its envelope is fresh and it has
not expired. -/
theorem Issues.redeemable_iff (H : Issues cr e.before requestedState t readiness₀ i issued e.after)
    (hcr : cr.Faithful) (hsound : SessionSound s.engine)
    (hsetup : s.engine.toEngineSetup = e.before.engine.toEngineSetup)
    (hstation : e.before.engine.station.Signs cr)
    (htrust : e.before.engine.gateTrust.lookup e.before.engine.station.keyId =
      some e.before.engine.station.verifyingKey)
    (hunpresented : Unpresented cr e issued s) {u : Int64} {readiness : ReadinessEvidence}
    (hevaluates : EvaluatesTo cr s requestedState u readiness) :
    Redeemable cr s (Hex.encode i.encoded) requestedState u readiness ↔
      u.absDiff t ≤ maxClockSkewS.unsignedAbs ∧
        u ≤ t.saturatingAdd i.rule.entitlementTtlS.toInt64 := by
  obtain ⟨w, -, hsign⟩ := H.signed
  have hgrantId : issued.grantId = some i.grantId := by rw [H.outcome]; rfl
  have hhex : issued.signedGrantHex = some (Hex.encode i.encoded) := by rw [H.outcome]; rfl
  constructor
  · exact H.of_redeemable hcr
  · rintro ⟨hfresh, hexpiry⟩
    have hsame : s.engine.gateTrust = e.before.engine.gateTrust ∧
        s.engine.chaser = e.before.engine.chaser :=
      ⟨congrArg EngineSetup.gateTrust hsetup, congrArg EngineSetup.chaser hsetup⟩
    have hverified := envelopeVerified_of_signed hcr hstation hsign htrust hfresh H.nonce
    have hpending : s.engine.pendingEntitlements.lookup i.grantId =
        some { requestedState, authorizationDecision := i.decision } := by
      rw [hunpresented.pending i.grantId hgrantId]
      exact (congrArg (·.pendingEntitlements.lookup i.grantId) H.engine :).trans
        (Finmap.lookup_insert _)
    have hrecipient : (i.claims e.before.engine.toEngineSetup t).recipient =
        s.engine.chaser.keyId := congrArg IdentityKey.keyId hsame.2.symm
    rw [← hsame.1, hrecipient] at hverified
    obtain ⟨event, haccepts⟩ := H.accepts hsetup
      (hunpresented.sessionId.trans (congrArg AccessEngine.sessionId H.engine :))
      (hunpresented.state.trans (congrArg AccessEngine.state H.engine :)) hpending
      hverified hexpiry hevaluates
    exact redeemTransition_of_accepts hsound haccepts
      (hunpresented.nonce _ _ hhex (readAs_of_signed hcr hsign)) (hunpresented.grantId _ hgrantId)

omit [ReplayStateBackend B] in
/-- Freshness and expiry, over the exact times. -/
theorem fresh_and_unexpired_iff {u : Int64} {ttl : UInt64} (ht : -2 ^ 63 < t.toInt)
    (htu : t ≤ u) :
    u.absDiff t ≤ maxClockSkewS.unsignedAbs ∧ u ≤ t.saturatingAdd ttl.toInt64 ↔
      u.toInt ≤ t.toInt + 30 ∧ u.toInt ≤ t.toInt + ttl.toNat ∧ ttl.toNat < 2 ^ 63 := by
  have htu := Int64.le_iff_toInt_le.mp htu
  have hskew : maxClockSkewS.toInt.natAbs = 30 := by decide
  rw [Int64.le_saturatingAdd_toInt64 ht htu, UInt64.le_iff_toNat_le, Int64.toNat_absDiff,
    Int64.toNat_unsignedAbs, hskew]
  omega

/-- In every run, a grant that has not been presented can be redeemed while its envelope is fresh and
it has not expired, if the profile allows the transition. -/
theorem redeemable_after_iff (hcr : cr.Faithful) {setup : EngineSetup}
    (hstation : setup.station.Signs cr)
    (htrust : setup.gateTrust.lookup setup.station.keyId = some setup.station.verifyingKey)
    {calls : List (Call B)} {later earlier : List (Event B)}
    (h : history cr setup calls = later ++ e :: earlier)
    (H : Issues cr e.before requestedState t readiness₀ i issued e.after)
    (hunpresented : Unpresented cr e issued (Host.after cr setup calls)) {u : Int64}
    {readiness : ReadinessEvidence}
    (hevaluates : EvaluatesTo cr (Host.after cr setup calls) requestedState u readiness) :
    Redeemable cr (Host.after cr setup calls) (Hex.encode i.encoded) requestedState u readiness ↔
      u.absDiff t ≤ maxClockSkewS.unsignedAbs ∧
        u ≤ t.saturatingAdd i.rule.entitlementTtlS.toInt64 := by
  obtain ⟨previous, -, hbefore, -⟩ := event_happens h
  have hreached := reached cr setup calls
  have hsetup : e.before.engine.toEngineSetup = setup := by
    rw [hbefore]
    exact (reached cr setup previous).setup_eq
  subst hsetup
  exact H.redeemable_iff hcr hreached.sound hreached.setup_eq hstation htrust hunpresented hevaluates

/-- In every run, when a grant of an approved request has not been presented, and the engine whose
gate trusts the station's key is still in the same session and docking state: if the profile allows
the transition at a later time, then the grant can be redeemed at that time exactly during its
advertised lifetime, if and only if that time is beyond the lifetime, or the lifetime is below the
upper half of 64 bits and the time is no further from the issue than the clock skew. -/
theorem redeemable_during_lifetime_iff (cr : Crates) (hcr : cr.Faithful)
    (hts : cr.TimestampsInRange) (setup : EngineSetup) (hstation : setup.station.Signs cr)
    (htrust : setup.gateTrust.lookup setup.station.keyId = some setup.station.verifyingKey)
    (calls : List (Call B)) (later earlier : List (Event B)) (e : Event B)
    (h : history cr setup calls = later ++ e :: earlier) (requestedState : UInt8) (t : Int64)
    (readiness₀ : ReadinessEvidence) (issued : TransitionOutcome) (signedGrantHex : String)
    (ttl : UInt64) (hcall : e.call = .requestTransition requestedState t readiness₀)
    (hreply : e.reply = .issued (.ok issued)) (happroved : issued.approved = true)
    (hhex : issued.signedGrantHex = some signedGrantHex) (httl : issued.entitlementTtlS = some ttl)
    (hunpresented : Unpresented cr e issued (Host.after cr setup calls)) (u : Int64) (htu : t ≤ u)
    (readiness : ReadinessEvidence)
    (hevaluates : EvaluatesTo cr (Host.after cr setup calls) requestedState u readiness) :
    (Redeemable cr (Host.after cr setup calls) signedGrantHex requestedState u readiness ↔
        u.toInt ≤ t.toInt + ttl.toNat) ↔
      (u.toInt ≤ t.toInt + ttl.toNat → u.toInt ≤ t.toInt + 30 ∧ ttl.toNat < 2 ^ 63) := by
  obtain ⟨_, -, -, hhappens, -⟩ := event_happens h
  obtain ⟨i, H⟩ := hhappens.exists_issuance hcall hreply happroved
  obtain ⟨rule, -, -, hfoundation, -⟩ := H.exists_rule
  have ht := (hfoundation.nowS_range hts).1
  rw [H.outcome] at hhex httl
  cases hhex
  cases httl
  rw [redeemable_after_iff hcr hstation htrust h H hunpresented hevaluates,
    fresh_and_unexpired_iff (by omega) htu]
  omega

end Access

/-! ## The grant of the simulation -/

namespace Access

variable {cr : Crates} {s s' : Host B} {r : Reply}

theorem Happens.gate_of_establish {nowS : Int64} {scenario : AccessScenario}
    (H : Happens cr s (.establishSession nowS scenario) r s') :
    s'.engine.gateReplay = s.engine.gateReplay.resetEphemeral ∧
      s'.engine.consumedGrants = s.engine.consumedGrants.resetEphemeral := by
  cases H with
  | established _ _ kept | notEstablished _ _ kept =>
    exact ⟨(congrArg AccessEngine.gateReplay kept.1 :),
      (congrArg AccessEngine.consumedGrants kept.1 :)⟩

theorem Happens.gate_of_request {requestedState : UInt8} {nowS : Int64}
    {readiness : ReadinessEvidence}
    (H : Happens cr s (.requestTransition requestedState nowS readiness) r s') :
    s'.engine.gateReplay = s.engine.gateReplay ∧
      s'.engine.consumedGrants = s.engine.consumedGrants := by
  cases H with
  | issued _ _ _ issues =>
    exact ⟨(congrArg AccessEngine.gateReplay issues.engine :),
      (congrArg AccessEngine.consumedGrants issues.engine :)⟩
  | withheld _ _ _ _ refreshes | notIssued _ _ _ refreshes =>
    exact ⟨(congrArg AccessEngine.gateReplay refreshes.kept.1 :),
      (congrArg AccessEngine.consumedGrants refreshes.kept.1 :)⟩

/-- The profile's verdict in an open session. -/
theorem evaluatesTo_of_evaluate (hsound : SessionSound s.engine)
    (hid : ∃ id, s.engine.sessionId = some id) {requestedState : UInt8} {nowS proofAt : Int64}
    {readiness : ReadinessEvidence} (hproof : s.engine.holderProofAtS = some proofAt)
    {fromStage toStage : String}
    (hnames : transitionNames s.engine.state requestedState = some (fromStage, toStage))
    (h : ∃ rule, s.engine.config.protocolProfile.evaluate cr fromStage toStage nowS
      s.engine.config.trustBundleId s.engine.config.trustBundleVersion
      s.engine.config.trustBundleIssuedAtS s.engine.verifiedCredentials (some proofAt) true
      readiness = .ok rule) : EvaluatesTo cr s requestedState nowS readiness := by
  obtain ⟨id, hid⟩ := hid
  obtain ⟨rule, h⟩ := h
  obtain ⟨-, hauthorized, -⟩ := hsound id hid
  refine ⟨fromStage, toStage, rule, hnames, ?_⟩
  rw [AccessEngine.evaluate, hproof, hauthorized]
  exact h

theorem Issues.after_sessionId {s₀ : Host B} {requestedState : UInt8} {nowS : Int64}
    {readiness : ReadinessEvidence} {i : Issuance} {out : TransitionOutcome}
    (H : Issues cr s₀ requestedState nowS readiness i out s) :
    s.engine.sessionId = some i.sessionId :=
  (congrArg AccessEngine.sessionId H.engine :).trans H.session

theorem Issues.after_holderProofAtS {s₀ : Host B} {requestedState : UInt8} {nowS : Int64}
    {readiness : ReadinessEvidence} {i : Issuance} {out : TransitionOutcome}
    (H : Issues cr s₀ requestedState nowS readiness i out s) :
    s.engine.holderProofAtS = some nowS :=
  (congrArg AccessEngine.holderProofAtS H.engine :)

namespace Simulation

theorem happens_after (previous : List (Call FileReplayStateBackend))
    (c : Call FileReplayStateBackend) :
    Happens reference (after previous) c (step reference (after previous) c).1
      (after (c :: previous)) :=
  step_happens reference (reached reference _ previous).sound c

/-- Nothing was presented in the simulation. -/
theorem gate_requested : (after requested).engine.gateReplay = {} ∧
    (after requested).engine.consumedGrants = {} := by
  have hestablished : Happens reference (after []) (.establishSession nowS .nominal) _
    (after established) := happens_after [] _
  have hrequested : Happens reference (after established) (.requestTransition 1 nowS steady) _
    (after requested) := happens_after established _
  have hreset : ({} : ReplayCache FileReplayStateBackend).resetEphemeral = {} := rfl
  obtain ⟨hreplay, hgrants⟩ := hestablished.gate_of_establish
  obtain ⟨hreplay', hgrants'⟩ := hrequested.gate_of_request
  rw [hreplay', hreplay, hgrants', hgrants]
  exact ⟨hreset, hreset⟩

theorem reply_of_requestTransition {s s' : Host FileReplayStateBackend} {requestedState : UInt8}
    {nowS : Int64} {readiness : ReadinessEvidence} {out : TransitionOutcome}
    (h : requestTransition reference requestedState nowS readiness s = .ok out s') :
    (step reference s (.requestTransition requestedState nowS readiness)).1 = .issued (.ok out) := by
  simp only [step, answer, h]

/-- The event of the request. -/
def request : Event FileReplayStateBackend :=
  Run.event (step reference) (after established) (.requestTransition 1 nowS steady)

theorem request_issued : ∃ i out, Issues reference (after established) 1 nowS steady i out
    (after requested) ∧ request.reply = .issued (.ok out) ∧ out.approved = true := by
  obtain ⟨-, -, hissued, -⟩ := Simulation.runs
  obtain ⟨out, s', h, happroved⟩ := exists_of_outcome hissued
  have hrequested : Happens reference (after established) (.requestTransition 1 nowS steady) _
    (after requested) := happens_after established _
  have hreply := reply_of_requestTransition h
  obtain ⟨i, H⟩ := hrequested.exists_issuance rfl hreply happroved
  exact ⟨i, out, H, by simp only [request, Run.event, hreply], happroved⟩

/-- The credentials of the session are those of the simulation. -/
theorem credentials_requested (h : ∃ id, (after requested).engine.sessionId = some id) :
    (after requested).engine.verifiedCredentials = credentials := by
  simp only [after] at h ⊢
  obtain ⟨id, hid⟩ := h
  obtain ⟨openedAtS, scenario, hopened⟩ := opened reference_faithful _ requested id hid
  obtain ⟨e, out, hfind, hcall, -⟩ := hopened.exists_event
  have hlatest : (history reference (setup protocolProfile) requested).find? establishes =
      some (Run.event (step reference) (after []) (.establishSession nowS .nominal)) := rfl
  cases hfind.symm.trans hlatest
  cases hcall
  exact hopened.evidence

theorem ttl_of_issues {i : Issuance} {out : TransitionOutcome} {s' : Host FileReplayStateBackend}
    (H : Issues reference (after established) 1 nowS steady i out s') :
    out.entitlementTtlS = some 60 := by
  obtain ⟨-, hstate, -⟩ := Simulation.runs
  obtain ⟨rule, hrule, hdecision, -⟩ := H.exists_rule
  obtain ⟨hfrom, hto⟩ :=
    Prod.mk.inj (Option.some.inj (H.names.symm.trans (transitionNames_of_hold hstate)))
  have hreached := reached reference (setup protocolProfile) established
  simp only [after] at hrule
  rw [hreached.setup_eq, hfrom, hto] at hrule
  cases findRule_approach.symm.trans hrule
  rw [H.outcome, issuedOutcome, hdecision]
  rfl

/-- What the profile allows on the credentials of the simulation, it allows after the request. -/
theorem evaluatesTo_requested {u : Int64} {readiness : ReadinessEvidence}
    {rule : ProtocolRuleDecision}
    (h : protocolProfile.evaluate reference "hold" "approach" u "waystation-1-trust" 42
      (nowS - 60) credentials (some nowS) true readiness = .ok rule) :
    EvaluatesTo reference (after requested) 1 u readiness := by
  obtain ⟨i, out, H, -⟩ := request_issued
  obtain ⟨-, -, -, hstate, -⟩ := Simulation.runs
  have hid : ∃ id, (after requested).engine.sessionId = some id := ⟨_, H.after_sessionId⟩
  have hcredentials := credentials_requested hid
  have hproof := H.after_holderProofAtS
  have hreached := reached reference (setup protocolProfile) requested
  simp only [after] at hid hcredentials hproof hstate ⊢
  refine evaluatesTo_of_evaluate hreached.sound hid hproof (transitionNames_of_hold hstate) ⟨rule, ?_⟩
  rw [hreached.setup_eq, hcredentials]
  exact h

theorem before_request : request.before = after established := by
  simp only [request, Run.event]

theorem after_request : request.after = after requested := Run.after_event _ _

/-- Nothing has been presented after the request. -/
theorem unpresented_requested (out : TransitionOutcome) :
    Unpresented reference request out (after requested) where
  sessionId := by rw [after_request]
  state := by rw [after_request]
  pending _ _ := by rw [after_request]
  nonce _ _ _ _ := by
    rw [gate_requested.1]
    exact ReplayCache.exists_consume_empty _
  grantId _ _ := by
    rw [gate_requested.2]
    exact ReplayCache.exists_consume_empty _

theorem ruleTtl_of_issues {i : Issuance} {out : TransitionOutcome} {s' : Host FileReplayStateBackend}
    (H : Issues reference (after established) 1 nowS steady i out s') :
    i.rule.entitlementTtlS = 60 := by
  have httl := ttl_of_issues H
  rw [H.outcome] at httl
  exact Option.some.inj httl

/-- At the time of its issue, the grant can be redeemed on whatever the profile allows. -/
theorem redeemable_requested {readiness : ReadinessEvidence} {rule : ProtocolRuleDecision}
    (h : protocolProfile.evaluate reference "hold" "approach" nowS "waystation-1-trust" 42
      (nowS - 60) credentials (some nowS) true readiness = .ok rule) :
    ∃ signedGrantHex, Redeemable reference (after requested) signedGrantHex 1 nowS readiness := by
  obtain ⟨i, out, H, -⟩ := request_issued
  have httl := ruleTtl_of_issues H
  rw [← before_request, ← after_request] at H
  refine ⟨_, (redeemable_after_iff reference_faithful (signs_identity _ _) (by decide)
    (show history reference (setup protocolProfile) requested = [] ++ request :: _ from rfl) H
    (unpresented_requested out) (evaluatesTo_requested h)).mpr ⟨by decide, ?_⟩⟩
  rw [httl]
  decide

/-- Half a minute and a second after the request. -/
def laterS : Int64 := nowS + 31

end Simulation

open Simulation

/-- The grant of the simulation, at the time of its issue. -/
theorem redeemable_during_lifetime_iff_approach :
    ∃ out signedGrantHex, request.reply = .issued (.ok out) ∧
      out.signedGrantHex = some signedGrantHex ∧
      Redeemable reference (after requested) signedGrantHex 1 nowS steady := by
  obtain ⟨i, out, H, hreply, happroved⟩ := request_issued
  have hhex : out.signedGrantHex = some (Hex.encode i.encoded) := by rw [H.outcome]; rfl
  refine ⟨out, _, hreply, hhex, ?_⟩
  exact (redeemable_during_lifetime_iff reference reference_faithful reference_timestampsInRange
    (setup protocolProfile) (signs_identity _ _) (by decide) requested [] _ request rfl 1 nowS
    steady out _ 60 rfl hreply happroved hhex (ttl_of_issues H) (unpresented_requested out) nowS
    (Int64.le_refl _) steady (evaluatesTo_requested rfl)).mpr (by decide) |>.mpr (by decide)

/-- A grant that is refused half a minute before its expiry. -/
theorem not_redeemable_during_lifetime :
    ¬∀ (cr : Crates) (_ : cr.Faithful) (_ : cr.TimestampsInRange) (setup : EngineSetup)
      (_ : setup.station.Signs cr)
      (_ : setup.gateTrust.lookup setup.station.keyId = some setup.station.verifyingKey)
      (calls : List (Call FileReplayStateBackend))
      (later earlier : List (Event FileReplayStateBackend)) (e : Event FileReplayStateBackend)
      (_ : history cr setup calls = later ++ e :: earlier) (requestedState : UInt8) (t : Int64)
      (readiness₀ : ReadinessEvidence) (issued : TransitionOutcome) (signedGrantHex : String)
      (ttl : UInt64), e.call = .requestTransition requestedState t readiness₀ →
      e.reply = .issued (.ok issued) → issued.approved = true →
      issued.signedGrantHex = some signedGrantHex → issued.entitlementTtlS = some ttl →
      Unpresented cr e issued (Host.after cr setup calls) → ∀ u, t ≤ u →
      ∀ readiness, EvaluatesTo cr (Host.after cr setup calls) requestedState u readiness →
      (Redeemable cr (Host.after cr setup calls) signedGrantHex requestedState u readiness ↔
        u.toInt ≤ t.toInt + ttl.toNat) := by
  intro h
  obtain ⟨i, out, H, hreply, happroved⟩ := request_issued
  have hhex : out.signedGrantHex = some (Hex.encode i.encoded) := by rw [H.outcome]; rfl
  have hredeemable := (h reference reference_faithful reference_timestampsInRange
    (setup protocolProfile) (signs_identity _ _) (by decide) requested [] _ request rfl 1 nowS
    steady out _ 60 rfl hreply happroved hhex (ttl_of_issues H) (unpresented_requested out) laterS
    (by decide) { steady with observedAtMs := laterS * 1000 } (evaluatesTo_requested rfl)).mpr (by decide)
  exact absurd (H.of_redeemable reference_faithful hredeemable).1 (by decide)

end Access
