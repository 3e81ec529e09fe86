import Access.Std.Ensures
import Access.Verify.Consumption
import Access.Verify.Envelopes
import Access.Verify.ProtocolProfile

/-! # Redemptions that fail

The gate consumes the nonce of a presented grant when it has verified the envelope, and takes the
pending entitlement before it checks it. A redemption that fails leaves the engine as it was unless an
envelope was verified. -/

namespace Access

open EStateM Host

/-- What is presented at the gate is an envelope which is right for the gate at the time, for a
transition that the docking state has, in a session. -/
structure AtGate (cr : Crates) (s : Host B) (signedGrantHex : String) (requestedState : UInt8)
    (nowS : Int64) (v : VerifiedEnvelope) : Prop where
  transition : ∃ eventKind stage,
    transitionFor s.engine.state requestedState = some (eventKind, stage)
  session : ∃ sessionId, s.engine.sessionId = some sessionId
  verified : ∃ encoded, Hex.decode signedGrantHex.asBytes = .ok encoded ∧
    EnvelopeVerified cr encoded s.engine.gateTrust s.engine.chaser.keyId nowS maxClockSkewS v

/-- The rest of `redeem_transition` accepts what is presented, and its grant can be consumed. -/
structure PassesGate [ReplayStateBackend B] (cr : Crates) (s : Host B) (signedGrantHex : String)
    (requestedState : UInt8) (nowS : Int64) (readiness : ReadinessEvidence)
    (v : VerifiedEnvelope) : Prop where
  nonce : s.engine.gateReplay.Commits v.claims.nonce
  accepts : ∃ a, Accepts cr s signedGrantHex requestedState nowS readiness a ∧ a.grant = v ∧
    a.grantId.asBytes ∉ s.engine.consumedGrants.consumed ∧
    s.engine.consumedGrants.Commits a.grantId.asBytes

/-- The gate's replay cache is the same. -/
def KeepsGate (s s' : Host B) : Prop := s'.engine.gateReplay = s.engine.gateReplay

instance : Std.Refl (KeepsGate (B := B)) := ⟨fun _ => rfl⟩

instance : IsTrans (Host B) KeepsGate := ⟨fun _ _ _ h₁ h₂ => Eq.trans h₂ h₁⟩

section

variable [ReplayStateBackend B] {cr : Crates} {s s' : Host B} {signedGrantHex : String}
  {requestedState : UInt8} {nowS : Int64} {readiness : ReadinessEvidence} {v : VerifiedEnvelope}

omit [ReplayStateBackend B] in
theorem AtGate.unique (H : AtGate cr s signedGrantHex requestedState nowS v) {v' : VerifiedEnvelope}
    (H' : AtGate cr s signedGrantHex requestedState nowS v') : v' = v := by
  obtain ⟨_, hdecode, hv⟩ := H.verified
  obtain ⟨_, hdecode', hv'⟩ := H'.verified
  cases hdecode.symm.trans hdecode'
  exact Except.ok.inj ((checkEnvelope_eq_ok.mpr hv').symm.trans (checkEnvelope_eq_ok.mpr hv))

omit [ReplayStateBackend B] in
theorem Accepts.atGate {a : AcceptedGrant}
    (H : Accepts cr s signedGrantHex requestedState nowS readiness a) :
    AtGate cr s signedGrantHex requestedState nowS a.grant where
  transition := ⟨_, _, H.transition⟩
  session := ⟨_, H.session⟩
  verified := H.presented

omit [ReplayStateBackend B] in
theorem takePending_keepsGate (grantId : String) :
    Steps (KeepsGate (B := B)) (takePending grantId) := by
  refine .bind .get fun s => .bind (.okOr _ _) fun pending => .bind (.modify fun s => ?_) fun _ =>
    .pure _
  rfl

/-- What a redemption that fails leaves: what the consumption of a presented nonce leaves, and nothing
else if that is what failed. -/
def LeftBy (cr : Crates) (s : Host B) (signedGrantHex : String) (requestedState : UInt8)
    (nowS : Int64) (s' : Host B) : Prop :=
  (s' = s ∧ ∀ v, ¬AtGate cr s signedGrantHex requestedState nowS v) ∨
    ∃ v, AtGate cr s signedGrantHex requestedState nowS v ∧
      ((∃ e cache, ReplayCache.consume v.claims.nonce s.engine.gateReplay = .error e cache ∧
          s' = gateReplayPart.set cache s) ∨
        ReplayCache.consume v.claims.nonce s.engine.gateReplay = .ok () s'.engine.gateReplay)

/-- What is left by a computation that keeps the gate, once the nonce has been consumed. -/
theorem LeftBy.of_keepsGate (H : AtGate cr s signedGrantHex requestedState nowS v)
    {cache : ReplayCache B}
    (hconsume : ReplayCache.consume v.claims.nonce s.engine.gateReplay = .ok () cache)
    (hkept : KeepsGate (gateReplayPart.set cache s) s') :
    LeftBy cr s signedGrantHex requestedState nowS s' := by
  have hgate : s'.engine.gateReplay = cache := hkept
  exact .inr ⟨v, H, .inr (hgate ▸ hconsume)⟩

/-- `redeem_transition` up to its consumption of the grant. -/
theorem acceptGrant_ensures (signedGrantHex : String) (requestedState : UInt8) (nowS : Int64)
    (readiness : ReadinessEvidence) :
    Ensures (acceptGrant cr signedGrantHex requestedState nowS readiness) s
      (fun a t => AtGate cr s signedGrantHex requestedState nowS a.grant ∧
        ReplayCache.consume a.grant.claims.nonce s.engine.gateReplay = .ok () t.engine.gateReplay)
      fun _ t => LeftBy cr s signedGrantHex requestedState nowS t := by
  apply ensures_bind.mpr
  apply ensures_get.mpr
  refine ensures_bind.mpr (ensures_okOr.mpr ⟨?_, ?_⟩)
  case refine_2 =>
    intro hnone
    refine .inl ⟨rfl, ?_⟩
    intro v H
    obtain ⟨_, _, htransition⟩ := H.transition
    cases hnone.symm.trans htransition
  rintro ⟨eventKind, stage⟩ htransition
  refine ensures_bind.mpr (ensures_okOr.mpr ⟨?_, ?_⟩)
  case refine_2 =>
    intro hnone
    refine .inl ⟨rfl, ?_⟩
    intro v H
    obtain ⟨_, hsession⟩ := H.session
    cases hnone.symm.trans hsession
  intro sessionId hsession
  refine ensures_bind.mpr (ensures_ofExcept.mpr ⟨?_, ?_⟩)
  case refine_2 =>
    intro e hdecode
    refine .inl ⟨rfl, ?_⟩
    intro v H
    obtain ⟨_, hdecode', -⟩ := H.verified
    cases hdecode.symm.trans hdecode'
  intro encoded hdecode
  refine ensures_bind.mpr (ensures_run.mpr (.intro ?_ ?_))
  case refine_2 =>
    intro e cache henvelope
    rcases verifyEnvelope_error_cases henvelope with ⟨rfl, hnot⟩ | ⟨v, hv, hconsume⟩
    · refine .inl ⟨rfl, ?_⟩
      intro v H
      obtain ⟨_, hdecode', hv⟩ := H.verified
      cases hdecode.symm.trans hdecode'
      exact hnot v hv
    · exact .inr ⟨v, ⟨⟨_, _, htransition⟩, ⟨_, hsession⟩, encoded, hdecode, hv⟩,
        .inl ⟨_, cache, hconsume, rfl⟩⟩
  -- From here on nothing changes the cache.
  intro v cache henvelope
  obtain ⟨hv, hconsume⟩ := verifyEnvelope_eq_ok.mp henvelope
  have H : AtGate cr s signedGrantHex requestedState nowS v :=
    ⟨⟨_, _, htransition⟩, ⟨_, hsession⟩, encoded, hdecode, hv⟩
  have hleft {t : Host B} (hkept : KeepsGate (gateReplayPart.set cache s) t) :
      LeftBy cr s signedGrantHex requestedState nowS t := .of_keepsGate H hconsume hkept
  refine ensures_bind.mpr (ensures_okOr.mpr ⟨?_, fun _ => hleft rfl⟩)
  intro grantId hgrantId
  refine ensures_bind.mpr (((takePending_keepsGate grantId).ensures _).mono ?_
    fun _ t hkept => hleft hkept)
  intro pending t hkept
  refine ensures_bind.mpr (ensures_failIf.mpr ⟨fun _ => ?_, fun _ => hleft hkept⟩)
  refine ensures_bind.mpr (ensures_okOr.mpr ⟨?_, fun _ => hleft hkept⟩)
  rintro ⟨fromStage, toStage⟩ -
  refine ensures_bind.mpr (ensures_ofExcept.mpr ⟨?_, fun _ _ => hleft hkept⟩)
  intro rule _
  refine ensures_bind.mpr (ensures_failIf.mpr ⟨fun _ => ?_, fun _ => hleft hkept⟩)
  have hgate : t.engine.gateReplay = cache := hkept
  exact ⟨H, hgate ▸ hconsume⟩

theorem redeemTransition_error_left {e : SessionError}
    (h : redeemTransition cr signedGrantHex requestedState nowS readiness s = .error e s') :
    LeftBy cr s signedGrantHex requestedState nowS s' := by
  have H : Ensures (redeemTransition cr signedGrantHex requestedState nowS readiness) s
      (fun _ _ => True) fun _ t => LeftBy cr s signedGrantHex requestedState nowS t := by
    apply ensures_bind.mpr
    apply ensures_get.mpr
    refine ensures_bind.mpr ((acceptGrant_ensures _ _ _ _).mono ?_ fun _ _ hleft => hleft)
    rintro a t ⟨hatGate, hconsume⟩
    refine ensures_bind.mpr (ensures_run.mpr (.intro ?_ ?_))
    · intro _ grants _
      refine ensures_bind.mpr (ensures_ofExcept.mpr ⟨fun _ _ => trivial, ?_⟩)
      intro _ _
      exact .inr ⟨a.grant, hatGate, .inr hconsume⟩
    · intro _ grants _
      exact .inr ⟨a.grant, hatGate, .inr hconsume⟩
  exact H.of_error h

/-- What a redemption that succeeds accepted and consumed. -/
theorem accepts_of_redeemTransition {out : TransitionOutcome}
    (h : redeemTransition cr signedGrantHex requestedState nowS readiness s = .ok out s') :
    ∃ a, Accepts cr s signedGrantHex requestedState nowS readiness a ∧
      (∃ cache, ReplayCache.consume a.grant.claims.nonce s.engine.gateReplay = .ok () cache) ∧
      ∃ cache, ReplayCache.consume a.grantId.asBytes s.engine.consumedGrants = .ok () cache := by
  simp only [redeemTransition, bind_eq_ok, get_eq_ok, ofExcept_eq_ok, assign_eq_ok, pure_eq_ok,
    Part.run_eq_ok, and_assoc, exists_and_left, exists_eq_left, exists_const] at h
  obtain ⟨a, s₁, haccept, _, _, ⟨grants, hgrants, rfl⟩, -⟩ := h
  obtain ⟨haccepts, gateReplay, hnonce, rfl⟩ := acceptGrant_eq_ok.mp haccept
  exact ⟨a, haccepts, ⟨gateReplay, hnonce⟩, grants, hgrants⟩

theorem passesGate_of_ok {out : TransitionOutcome}
    (h : redeemTransition cr signedGrantHex requestedState nowS readiness s = .ok out s')
    (H : AtGate cr s signedGrantHex requestedState nowS v) :
    PassesGate cr s signedGrantHex requestedState nowS readiness v := by
  obtain ⟨a, haccepts, hnonce, hgrant⟩ := accepts_of_redeemTransition h
  cases H.unique haccepts.atGate
  exact ⟨(ReplayCache.exists_consume.mp hnonce).2, a, haccepts, rfl,
    ReplayCache.exists_consume.mp hgrant⟩

theorem PassesGate.redeemed (hsound : SessionSound s.engine)
    (H : PassesGate cr s signedGrantHex requestedState nowS readiness v)
    (hunused : v.claims.nonce ∉ s.engine.gateReplay.consumed) :
    ∃ out s', redeemTransition cr signedGrantHex requestedState nowS readiness s = .ok out s' := by
  obtain ⟨a, haccepts, rfl, hgrant⟩ := H.accepts
  exact redeemTransition_of_accepts hsound haccepts
    (ReplayCache.exists_consume.mpr ⟨hunused, H.nonce⟩) (ReplayCache.exists_consume.mpr hgrant)

/-- A grant is outstanding and has not expired. -/
structure Outstanding (s : Host B) (nowS : Int64) (claims : ProtocolClaims) : Prop where
  pending : ∃ grantId, claims.grantId = some grantId ∧ grantId ∈ s.engine.pendingEntitlements
  unexpired : ∀ expiresAtS, claims.expiresAtS = some expiresAtS → nowS ≤ expiresAtS

omit [ReplayStateBackend B] in
theorem Accepts.outstanding {a : AcceptedGrant}
    (H : Accepts cr s signedGrantHex requestedState nowS readiness a) :
    Outstanding s nowS a.grant.claims where
  pending := ⟨a.grantId, H.grantId, Finmap.mem_of_lookup_eq_some H.pending⟩
  unexpired := by
    intro expiresAtS hexpires
    have husable := H.usable
    simp only [GrantUnusable, hexpires, not_or] at husable
    simpa [Int64.not_lt] using husable.2.2.2

/-- A grant that could be redeemed is lost when it is presented on evidence that the profile
refuses. -/
theorem lost_of_refused {out : TransitionOutcome} {stale : ReadinessEvidence}
    (h : redeemTransition cr signedGrantHex requestedState nowS readiness s = .ok out s')
    (hstale : ∀ fromStage toStage rule,
      transitionNames s.engine.state requestedState = some (fromStage, toStage) →
        s.engine.evaluate cr fromStage toStage nowS stale ≠ .ok rule) :
    ∃ v e s₁, AtGate cr s signedGrantHex requestedState nowS v ∧ Outstanding s nowS v.claims ∧
      redeemTransition cr signedGrantHex requestedState nowS stale s = .error e s₁ ∧ s₁ ≠ s := by
  obtain ⟨a, haccepts, ⟨cache, hconsume⟩, -⟩ := accepts_of_redeemTransition h
  cases hresult : redeemTransition cr signedGrantHex requestedState nowS stale s with
  | ok out' s₁ =>
    obtain ⟨a', haccepts', -⟩ := accepts_of_redeemTransition hresult
    obtain ⟨fromStage, toStage, hnames, hevaluate⟩ := haccepts'.evaluated
    exact absurd hevaluate (hstale _ _ _ hnames)
  | error e s₁ =>
    refine ⟨a.grant, e, s₁, haccepts.atGate, haccepts.outstanding, rfl, ?_⟩
    rintro rfl
    rcases redeemTransition_error_left hresult with ⟨-, hnot⟩ | ⟨v, hatGate, hleft⟩
    · exact hnot _ haccepts.atGate
    cases haccepts.atGate.unique hatGate
    rcases hleft with ⟨_, _, hfails, -⟩ | hkept
    · cases hconsume.symm.trans hfails
    · exact ReplayCache.state_consume_ne hkept rfl

end

/-- In every state a run can reach: a redemption leaves the engine as it was whenever it fails, if
and only if what it presents passes the rest of the checks and can be consumed, or consuming its
nonce changes nothing. -/
theorem failed_redemption_unchanged_iff [ReplayStateBackend B] (cr : Crates) (setup : EngineSetup)
    (calls : List (Call B)) (signedGrantHex : String) (requestedState : UInt8) (nowS : Int64)
    (readiness : ReadinessEvidence) :
    let s := Host.after cr setup calls
    (∀ e s', redeemTransition cr signedGrantHex requestedState nowS readiness s = .error e s' →
      s' = s) ↔
    ∀ v, AtGate cr s signedGrantHex requestedState nowS v →
      PassesGate cr s signedGrantHex requestedState nowS readiness v ∨
        s.engine.gateReplay.Inert v.claims.nonce := by
  intro s
  have hsound : SessionSound s.engine := (reached cr setup calls).sound
  constructor
  · intro hunchanged v hatGate
    cases hresult : redeemTransition cr signedGrantHex requestedState nowS readiness s with
    | ok out s' => exact .inl (passesGate_of_ok hresult hatGate)
    | error e s' =>
      cases hunchanged e s' hresult
      rcases redeemTransition_error_left hresult with ⟨-, hnot⟩ | ⟨v', hatGate', hleft⟩
      · exact absurd hatGate (hnot v)
      cases hatGate.unique hatGate'
      refine .inr (ReplayCache.state_consume_eq_iff.mp ?_)
      rcases hleft with ⟨e, cache, hconsume, hset⟩ | hconsume
      · have hcache : s.engine.gateReplay = cache := congrArg (·.engine.gateReplay) hset
        rw [hconsume, Result.state_error, hcache]
      · rw [hconsume, Result.state_ok]
  · intro hcondition e s' hresult
    rcases redeemTransition_error_left hresult with ⟨hsame, -⟩ | ⟨v, hatGate, hleft⟩
    · exact hsame
    rcases hleft with ⟨e, cache, hconsume, rfl⟩ | hconsume
    · rcases hcondition v hatGate with hpasses | hinert
      · by_cases hused : v.claims.nonce ∈ s.engine.gateReplay.consumed
        · rw [ReplayCache.consume_of_mem hused] at hconsume
          cases hconsume
          rfl
        · obtain ⟨out, s'', hok⟩ := hpasses.redeemed hsound hused
          cases hresult.symm.trans hok
      · have hstate := ReplayCache.state_consume_eq_iff.mpr hinert
        rw [hconsume] at hstate
        cases hstate
        rfl
    · rcases hcondition v hatGate with hpasses | hinert
      · obtain ⟨hunused, -⟩ := ReplayCache.consume_eq_ok.mp hconsume
        obtain ⟨out, s'', hok⟩ := hpasses.redeemed hsound hunused
        cases hresult.symm.trans hok
      · have hstate := ReplayCache.state_consume_eq_iff.mpr hinert
        rw [hconsume] at hstate
        exact absurd hstate (ReplayCache.state_consume_ne hconsume)

/-! ## Evidence that is too old -/

namespace Simulation

/-- Evidence from two seconds ago. -/
def stale : ReadinessEvidence := { steady with observedAtMs := (nowS - 2) * 1000 }

theorem not_evaluate_stale {fromStage toStage : String} {rule : ProtocolRuleDecision}
    (hnames : transitionNames (after requested).engine.state 1 = some (fromStage, toStage)) :
    (after requested).engine.evaluate reference fromStage toStage nowS stale ≠ .ok rule := by
  intro h
  obtain ⟨-, -, -, hstate, -⟩ := Simulation.runs
  have hreached := reached reference (setup protocolProfile) requested
  simp only [after] at hnames h hstate
  cases (transitionNames_of_hold hstate).symm.trans hnames
  rw [AccessEngine.evaluate, hreached.setup_eq] at h
  obtain ⟨-, -, found, hfound, hsatisfied, -⟩ := evaluate_eq_ok.mp h
  cases findRule_approach.symm.trans hfound
  exact absurd hsatisfied.maximumAge (by decide)

end Simulation

/-- An outstanding grant that has not expired is presented on evidence that is too old. -/
theorem failed_redemption_changes :
    ¬∀ (cr : Crates) (setup : EngineSetup) (calls : List (Call FileReplayStateBackend))
      (signedGrantHex : String) (requestedState : UInt8) (nowS : Int64)
      (readiness : ReadinessEvidence) (v : VerifiedEnvelope),
      AtGate cr (Host.after cr setup calls) signedGrantHex requestedState nowS v →
      Outstanding (Host.after cr setup calls) nowS v.claims →
      ∀ e s', redeemTransition cr signedGrantHex requestedState nowS readiness
        (Host.after cr setup calls) = .error e s' → s' = Host.after cr setup calls := by
  intro H
  obtain ⟨-, -, -, -, hredeems, -⟩ := Simulation.runs
  obtain ⟨out, s', hok⟩ := Simulation.exists_of_isOk hredeems
  obtain ⟨v, e, s₁, hatGate, houtstanding, hresult, hchanged⟩ := lost_of_refused hok
    fun _ _ _ hnames => Simulation.not_evaluate_stale hnames
  exact hchanged (H reference (Simulation.setup Simulation.protocolProfile) Simulation.requested
    (Hex.encode Simulation.grant) 1 Simulation.nowS Simulation.stale v hatGate houtstanding e s₁
    hresult)

end Access
