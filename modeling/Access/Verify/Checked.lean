import Access.Checked
import Access.Reference
import Access.Verify.Session

/-! # Where the arithmetic is exact

The engine with overflow checks does what the engine does, up to where a check stops it. That is in
`establish_session`, which gives its credentials a time before and a time after the present, and in
`request_transition`, which casts the lifetime of the rule; a redemption has nothing to check. -/

namespace Access

open EStateM Host

/-- The times that `establish_session` makes of the present are 64-bit times. -/
def Leeway (nowS : Int64) : Prop := -2 ^ 63 + 60 ≤ nowS.toInt ∧ nowS.toInt < 2 ^ 63 - 86400

instance (nowS : Int64) : Decidable (Leeway nowS) := inferInstanceAs (Decidable (_ ∧ _))

variable [ReplayStateBackend B] (cr : Crates)

/-- `establish_session` as far as the offer of a session. -/
def offerSession (nowS : Int64) (scenario : AccessScenario) : EngineM B Unit := do
  assign AccessEngine.reset
  assign fun engine => { engine with scenario }
  let self := (← get).engine.toEngineSetup
  let sessionId ← randomNonce self
  let _ ← exchangeRequest cr self nowS
  assign fun engine =>
    { engine with authorization := { engine.authorization with identityVerified := true } }
  let challenge ← randomNonce self
  let _ ← exchangeOffer cr self ("access-" ++ Hex.encode sessionId) challenge nowS
  pure ()

/-- The rule of a decision, once a grant under it has an identifier. -/
def approvedRule (self : EngineSetup) :
    Except TransitionOutcome (ProtocolRuleDecision × AccessDecision) →
      EngineM B (Option ProtocolRuleDecision)
  | .error _ => pure none
  | .ok (rule, _) => do
    let _ ← randomNonce self
    pure (some rule)

/-- `request_transition` as far as the identifier of a grant, and the rule of the grant, unless the
request is denied. -/
def approveTransition (requestedState : UInt8) (nowS : Int64) (readiness : ReadinessEvidence) :
    EngineM B (Option ProtocolRuleDecision) := do
  let self := (← get).engine
  let (_, _) ← okOr (transitionFor self.state requestedState) (.transition .invalidTransition)
  let sessionId ← okOr self.sessionId .sessionBinding
  refreshProof cr self.toEngineSetup sessionId nowS
  let self := (← get).engine
  let (fromStage, toStage) ← okOr (transitionNames self.state requestedState)
    (.transition .invalidTransition)
  approvedRule self.toEngineSetup
    (self.decideTransition cr sessionId fromStage toStage nowS readiness)

/-- The present of a session that is offered leaves room for the times of its credentials, and the
lifetime of a grant that is approved is one of the lower half of 64 bits. -/
def InRange (s : Host B) : Call B → Prop
  | .establishSession nowS scenario =>
    (∃ s', offerSession cr nowS scenario s = .ok () s') → Leeway nowS
  | .requestTransition requestedState nowS readiness => ∀ rule s',
    approveTransition cr requestedState nowS readiness s = .ok (some rule) s' →
      rule.entitlementTtlS.toNat < 2 ^ 63
  | .redeemTransition .. | .enablePersistentState _ | .setReplayState .. => True

section

variable {cr} {self : EngineSetup} {nowS : Int64} {scenario : AccessScenario} {s s' : Host B}

/-! ### The credentials -/

theorem sessionCredentials_checked :
    Checked.sessionCredentials self scenario nowS =
      if Leeway nowS then some (sessionCredentials self scenario nowS) else none := by
  have hrange := nowS.toInt_range
  have h60 : (60 : Int64).toInt = 60 := by decide
  have h1 : (1 : Int64).toInt = 1 := by decide
  have h86400 : (86400 : Int64).toInt = 86400 := by decide
  by_cases hnow : Leeway nowS
  · obtain ⟨hlow, hhigh⟩ := hnow
    have hissued : nowS.checkedSub 60 = some (nowS - 60) :=
      Int64.checkedSub_eq_some.mpr ⟨by omega, rfl⟩
    have hexpired : nowS.checkedSub 1 = some (nowS - 1) :=
      Int64.checkedSub_eq_some.mpr ⟨by omega, rfl⟩
    have hexpires : nowS.checkedAdd 86400 = some (nowS + 86400) :=
      Int64.checkedAdd_eq_some.mpr ⟨by omega, rfl⟩
    rw [if_pos ⟨hlow, hhigh⟩]
    unfold Checked.sessionCredentials sessionCredentials
    rw [hissued, hexpired, hexpires]
    cases scenario <;> rfl
  · rw [if_neg hnow]
    unfold Checked.sessionCredentials
    by_cases hlow : -2 ^ 63 + 60 ≤ nowS.toInt
    · have hnone : nowS.checkedAdd 86400 = none :=
        if_neg fun h => hnow ⟨hlow, by omega⟩
      rw [hnone]
      cases nowS.checkedSub 60 <;> cases nowS.checkedSub 1 <;> cases scenario <;> rfl
    · have hnone : nowS.checkedSub 60 = none := if_neg fun h => hlow (by omega)
      rw [hnone]
      rfl

/-! ### The checks change nothing else -/

theorem proveHolder_checks (sessionId : String) :
    Checks (Checked.proveHolder cr self sessionId scenario nowS : Checked.CheckedM B _)
      (proveHolder cr self sessionId scenario nowS) := by
  refine .bind (.plain _) fun challenge => .bind (.plain _) fun offer => .checked ?_
  intro claims hclaims
  rw [sessionCredentials_checked, Option.ite_none_right_eq_some, Option.some.injEq] at hclaims
  rw [← hclaims.2]
  exact .bind (.plain _) fun credentials => .bind (.plain _) fun proof =>
    .bind (.plain _) fun _ => .pure _

theorem establishSession_checks :
    Checks (Checked.establishSession cr nowS scenario : Checked.CheckedM B _)
      (establishSession cr nowS scenario) := by
  refine .bind (.plain _) fun _ => .bind (.plain _) fun _ => .bind (.plain _) fun s =>
    .bind ?_ fun authorized => .bind (.plain _) fun _ => .pure _
  exact .bind (.plain _) fun sessionId => .bind (.plain _) fun request => .bind (.plain _) fun _ =>
    .bind (proveHolder_checks _) fun proof => .plain _

theorem requestTransition_checks {requestedState : UInt8} {readiness : ReadinessEvidence} :
    Checks (Checked.requestTransition cr requestedState nowS readiness : Checked.CheckedM B _)
      (requestTransition cr requestedState nowS readiness) := by
  refine .bind (.plain _) fun s => .bind (.plain _) fun transition => .bind (.plain _) fun id =>
    .bind (.plain _) fun _ => .bind (.plain _) fun s' => .bind (.plain _) fun names => ?_
  cases hverdict : s'.engine.decideTransition cr id names.1 names.2 nowS readiness with
  | error outcome =>
    simp only [hverdict]
    exact .pure _
  | ok verdict =>
    simp only [hverdict]
    refine .bind (.plain _) fun grantId => .checked fun ttl _ => ?_
    exact .bind (.plain _) fun nonce => .plain _

/-! ### Where a check stops a call -/

theorem proveHolder_overflow {sessionId : String} :
    (∃ s', Checked.proveHolder cr self sessionId scenario nowS s = .error .overflow s') ↔
      (∃ challenge s₁ offer s', randomNonce self s = .ok challenge s₁ ∧
        exchangeOffer cr self sessionId challenge nowS s₁ = .ok offer s') ∧ ¬Leeway nowS := by
  simp only [Checked.proveHolder, bind_eq_error, plain_eq_overflow, plain_eq_ok, checked_eq_overflow,
    checked_eq_ok, sessionCredentials_checked, pure_eq_error, ite_eq_right_iff, reduceCtorEq,
    and_false, exists_false, or_false, false_or, imp_false]
  constructor
  · rintro ⟨_, challenge, s₁, hchallenge, offer, s', hoffer, hnow, rfl⟩
    exact ⟨⟨challenge, s₁, offer, _, hchallenge, hoffer⟩, hnow⟩
  · rintro ⟨⟨challenge, s₁, offer, s', hchallenge, hoffer⟩, hnow⟩
    exact ⟨s', challenge, s₁, hchallenge, offer, s', hoffer, hnow, rfl⟩

theorem establishSession_overflow :
    (∃ s', Checked.establishSession cr nowS scenario s = .error .overflow s') ↔
      (∃ s', offerSession cr nowS scenario s = .ok () s') ∧ ¬Leeway nowS := by
  have hproof (self : EngineSetup) (id : String) (s₁ s' : Host B) :
      Checked.proveHolder cr self id scenario nowS s₁ = .error .overflow s' → _ :=
    fun h => proveHolder_overflow.mp ⟨s', h⟩
  simp only [Checked.establishSession, Checked.authorizeNewSession, offerSession, bind_eq_error,
    bind_eq_ok, plain_eq_overflow, plain_eq_ok, pure_eq_error, pure_eq_ok, and_false, exists_false,
    or_false, false_or, assign_eq_ok, get_eq_ok, and_assoc, exists_and_left, exists_eq_left,
    exists_const]
  constructor
  · rintro ⟨s', b, s₁, hid, request, s₂, hrequest, h⟩
    obtain ⟨⟨challenge, s₃, offer, s₄, hchallenge, hoffer⟩, hnow⟩ := hproof _ _ _ _ h
    exact ⟨⟨s₄, b, s₁, hid, request, s₂, hrequest, challenge, s₃, hchallenge, offer, s₄,
      hoffer, trivial, rfl⟩, hnow⟩
  · rintro ⟨⟨_, b, s₁, hid, request, s₂, hrequest, challenge, s₃, hchallenge, offer, s₄, hoffer,
      -, -⟩, hnow⟩
    obtain ⟨s', h⟩ := proveHolder_overflow.mpr ⟨⟨challenge, s₃, offer, s₄, hchallenge, hoffer⟩, hnow⟩
    exact ⟨s', b, s₁, hid, request, s₂, hrequest, h⟩

omit [ReplayStateBackend B] in
theorem issueGrant_overflow {e : AccessEngine B} {sessionId : String} {stage : AuthorizedStage}
    {requestedState : UInt8} {rule : ProtocolRuleDecision} {decision : AccessDecision} :
    (∃ s', Checked.issueGrant cr e sessionId stage requestedState nowS rule decision s =
        .error .overflow s') ↔
      (∃ b s', randomNonce e.toEngineSetup s = .ok b s') ∧
        ¬rule.entitlementTtlS.toNat < 2 ^ 63 := by
  have hcast : rule.entitlementTtlS.checkedToInt64 = none ↔
      ¬rule.entitlementTtlS.toNat < 2 ^ 63 := by
    rw [UInt64.checkedToInt64, ite_eq_right_iff]
    simp only [reduceCtorEq, imp_false]
  simp only [Checked.issueGrant, bind_eq_error, plain_eq_overflow, plain_eq_ok, checked_eq_overflow,
    checked_eq_ok, hcast, and_false, exists_false, or_false, false_or]
  constructor
  · rintro ⟨_, b, s', h, hlarge, rfl⟩
    exact ⟨⟨b, _, h⟩, hlarge⟩
  · rintro ⟨⟨b, s', h⟩, hlarge⟩
    exact ⟨s', b, s', h, hlarge, rfl⟩

omit [ReplayStateBackend B] in
theorem settleDecision_overflow {e : AccessEngine B} {sessionId : String} {stage : AuthorizedStage}
    {requestedState : UInt8}
    {verdict : Except TransitionOutcome (ProtocolRuleDecision × AccessDecision)} :
    (∃ s', Checked.settleDecision cr e sessionId stage requestedState nowS verdict s =
        .error .overflow s') ↔
      ∃ rule s', approvedRule e.toEngineSetup verdict s = .ok (some rule) s' ∧
        ¬rule.entitlementTtlS.toNat < 2 ^ 63 := by
  cases verdict with
  | error outcome =>
    simp only [Checked.settleDecision, approvedRule, pure_eq_error, pure_eq_ok, reduceCtorEq,
      false_and, exists_false]
  | ok verdict =>
    simp only [Checked.settleDecision, issueGrant_overflow, approvedRule, bind_eq_ok, pure_eq_ok,
      Option.some.injEq]
    constructor
    · rintro ⟨⟨b, s', h⟩, hlarge⟩
      exact ⟨_, s', ⟨b, s', h, rfl, rfl⟩, hlarge⟩
    · rintro ⟨_, s', ⟨b, _, h, rfl, rfl⟩, hlarge⟩
      exact ⟨⟨b, _, h⟩, hlarge⟩

theorem requestTransition_overflow {requestedState : UInt8} {readiness : ReadinessEvidence} :
    (∃ s', Checked.requestTransition cr requestedState nowS readiness s = .error .overflow s') ↔
      ∃ rule s', approveTransition cr requestedState nowS readiness s = .ok (some rule) s' ∧
        ¬rule.entitlementTtlS.toNat < 2 ^ 63 := by
  simp only [Checked.requestTransition, approveTransition, bind_eq_error, bind_eq_ok,
    plain_eq_overflow, plain_eq_ok, false_or, get_eq_ok, okOr_eq_ok, and_assoc, exists_and_left,
    exists_eq_left, Prod.exists]
  constructor
  · rintro ⟨s', event, stage, htransition, id, hid, _, s₁, hproof, fromStage, toStage, hnames, h⟩
    obtain ⟨rule, s₂, hrule, hlarge⟩ := settleDecision_overflow.mp ⟨s', h⟩
    exact ⟨rule, s₂, ⟨event, stage, htransition, id, hid, (), s₁, hproof, fromStage, toStage, hnames,
      hrule⟩, hlarge⟩
  · rintro ⟨rule, s₂, ⟨event, stage, htransition, id, hid, _, s₁, hproof, fromStage, toStage, hnames,
      hrule⟩, hlarge⟩
    obtain ⟨s', h⟩ := settleDecision_overflow.mpr ⟨rule, s₂, hrule, hlarge⟩
    exact ⟨s', event, stage, htransition, id, hid, (), s₁, hproof, fromStage, toStage, hnames, h⟩

/-! ### Calls -/

omit [ReplayStateBackend B] in
/-- A method answers as it does without checks exactly when no check stops it. -/
theorem answer_checked {α : Type} {wrap : Except SessionError α → Reply}
    {x : Checked.CheckedM B α} {y : EngineM B α} (H : Checks x y) :
    Checked.answer wrap x s = some (answer wrap y s) ↔ ¬∃ s', x s = .error .overflow s' := by
  unfold Checked.answer
  rcases H s with ⟨s', overflow⟩ | same
  · rw [overflow]
    simp
  · have none : ¬∃ s', x s = .error .overflow s' := by
      rw [same]
      simp only [plain_eq_overflow, exists_false, not_false_eq_true]
    simp only [none, not_false_eq_true, iff_true]
    rw [same]
    unfold plain answer
    cases y s <;> rfl

omit [ReplayStateBackend B] in
theorem answer_plain {α : Type} {wrap : Except SessionError α → Reply} (y : EngineM B α) :
    Checked.answer wrap (plain y) s = some (answer wrap y s) := by
  rw [answer_checked (.plain y)]
  simp only [plain_eq_overflow, exists_false, not_false_eq_true]

end

/-- In every state, a call does all its arithmetic exactly, and then does the same with checks as
without, if and only if it is in range. -/
theorem step_exact_iff (cr : Crates) (s : Host B) (call : Call B) :
    Checked.step cr s call = some (step cr s call) ↔ InRange cr s call := by
  cases call with
  | establishSession nowS scenario =>
    simp only [Checked.step, step, InRange, answer_checked establishSession_checks,
      establishSession_overflow, not_and, not_not]
  | requestTransition requestedState nowS readiness =>
    simp only [Checked.step, step, InRange, answer_checked requestTransition_checks,
      requestTransition_overflow, not_exists, not_and, not_not]
  | redeemTransition signedGrantHex requestedState nowS readiness =>
    simp only [Checked.step, step, InRange, answer_plain]
  | enablePersistentState openFile => simp only [Checked.step, step, InRange, answer_plain]
  | setReplayState stationReplay chaserReplay gateReplay consumedGrants =>
    simp only [Checked.step, step, InRange, answer_plain]

/-! ### At the end of time -/

namespace Simulation

theorem offered_maxValue :
    isOk (offerSession (B := FileReplayStateBackend) reference Int64.maxValue .nominal (after [])) =
      true := by
  decide +kernel

end Simulation

/-- A session established at the last second of 64 bits overflows. -/
theorem step_not_exact :
    ¬∀ (cr : Crates) (setup : EngineSetup) (calls : List (Call FileReplayStateBackend))
      (call : Call FileReplayStateBackend),
      Checked.step cr (Host.after cr setup calls) call =
        some (step cr (Host.after cr setup calls) call) := by
  intro h
  obtain ⟨_, s', hoffered⟩ := Simulation.exists_of_isOk Simulation.offered_maxValue
  have hstep := h reference (Simulation.setup Simulation.protocolProfile) []
    (.establishSession Int64.maxValue .nominal)
  simp only [Checked.step, step, answer_checked establishSession_checks,
    establishSession_overflow] at hstep
  exact hstep ⟨⟨s', hoffered⟩, by decide⟩

end Access
