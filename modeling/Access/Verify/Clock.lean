import Access.Verify.Authority

/-! # The clock of the authority

A command without a time is handled at the whole seconds of the system clock, and evidence is
stamped in milliseconds. What is compared with the maximum age of a rule is the age at the beginning
of the second, so the age at which evidence is used can be up to 999 milliseconds beyond it
(`true_age_bounded_iff`). -/

namespace Access

open EStateM

namespace Authority

/-- The true time in milliseconds. -/
def SystemTime.millis (now : SystemTime) : Int := now.nanos / 1000000

theorem SystemTime.toInt_unixTime {now : SystemTime} (h : 0 ≤ now.nanos) :
    now.unixTime.toInt = now.millis / 1000 := by
  have hrange := now.inRange
  rw [unixTime, if_pos h, Int64.toInt_ofInt_of_le (by omega) (by omega), millis]
  omega

/-- A command that leaves the time to the process: for the redemption of an entitlement, or without
one for a transition. -/
def undated (entitlementHex : Option String) (requestedState : UInt8)
    (readiness : ReadinessEvidence) : Command :=
  match entitlementHex with
  | none => .transition requestedState none readiness
  | some entitlementHex => .redeemEntitlement requestedState entitlementHex none readiness

/-- A request that is approved, or a redemption that succeeds. -/
def Approves [ReplayStateBackend B] (cr : Crates) (s : Host B) (now : SystemTime)
    (command : Command) : Prop :=
  ∃ out, (handleCommand cr now (.ok command) s).1.value = some (.transition out) ∧
    out.approved = true

end Authority

open Authority

variable {cr : Crates} {s s' : Host B}

theorem handleCommand_of_redeemTransition [ReplayStateBackend B] {now : SystemTime}
    {requestedState : UInt8} {signedGrantHex : String} {readiness : ReadinessEvidence}
    {out : TransitionOutcome}
    (h : redeemTransition cr signedGrantHex requestedState now.unixTime readiness s = .ok out s') :
    handleCommand cr now (.ok (.redeemEntitlement requestedState signedGrantHex none readiness)) s =
      (⟨true, some (.transition out), none⟩, s') := by
  simp only [handleCommand, Option.getD_none, respond, h]

/-- What was checked of the evidence under which a transition is allowed. -/
structure AllowedOn (cr : Crates) (s : Host B) (requestedState : UInt8) (nowS : Int64)
    (readiness : ReadinessEvidence) (rule : StageRuleProfile) : Prop where
  names : ∃ fromStage toStage,
    transitionNames s.engine.state requestedState = some (fromStage, toStage) ∧
      s.engine.config.protocolProfile.findRule fromStage toStage = some rule
  range : -62167305600 ≤ nowS.toInt ∧ nowS.toInt ≤ 253402387199
  age : readiness.ageMs nowS ≤ rule.readiness.maximumAgeMs

theorem Issues.allowedOn (hts : cr.TimestampsInRange) {requestedState : UInt8} {nowS : Int64}
    {readiness : ReadinessEvidence} {i : Issuance} {out : TransitionOutcome}
    (H : Issues cr s requestedState nowS readiness i out s') :
    ∃ rule, AllowedOn cr s requestedState nowS readiness rule := by
  obtain ⟨rule, hrule, -, hfoundation, -, hsatisfied⟩ := H.exists_rule
  exact ⟨rule, ⟨_, _, H.names, hrule⟩, hfoundation.nowS_range hts, hsatisfied.maximumAge⟩

theorem Accepts.allowedOn (hts : cr.TimestampsInRange) {signedGrantHex : String}
    {requestedState : UInt8} {nowS : Int64} {readiness : ReadinessEvidence} {a : AcceptedGrant}
    (H : Accepts cr s signedGrantHex requestedState nowS readiness a) :
    ∃ rule, AllowedOn cr s requestedState nowS readiness rule := by
  obtain ⟨fromStage, toStage, hnames, hevaluate⟩ := H.evaluated
  obtain ⟨hfoundation, -, rule, hrule, hsatisfied, -⟩ := evaluate_eq_ok.mp hevaluate
  exact ⟨rule, ⟨_, _, hnames, hrule⟩, hfoundation.nowS_range hts, hsatisfied.maximumAge⟩

/-- The age that is compared is exact, unless every age is allowed. -/
theorem ageMs_le {nowS maximumAgeMs : Int64} {readiness : ReadinessEvidence}
    (range : -62167305600 ≤ nowS.toInt ∧ nowS.toInt ≤ 253402387199) :
    readiness.ageMs nowS ≤ maximumAgeMs ↔
      nowS.toInt * 1000 - readiness.observedAtMs.toInt ≤ maximumAgeMs.toInt ∨
        maximumAgeMs = Int64.maxValue := by
  obtain ⟨h₁, h₂⟩ := range
  have hms : (nowS.saturatingMul 1000).toInt = nowS.toInt * 1000 :=
    Int64.toInt_ofIntClamp_of_range (n := nowS.toInt * 1000) (by omega) (by omega)
  rw [ReadinessEvidence.ageMs, Int64.saturatingSub_le, hms]

variable [ReplayStateBackend B]

/-- An approved command without a time, at the whole seconds of the clock. -/
theorem Authority.Approves.allowedOn (hts : cr.TimestampsInRange) {now : SystemTime}
    {entitlementHex : Option String} {requestedState : UInt8} {readiness : ReadinessEvidence}
    (h : Approves cr s now (undated entitlementHex requestedState readiness)) :
    ∃ rule, AllowedOn cr s requestedState now.unixTime readiness rule := by
  obtain ⟨out, hvalue, happroved⟩ := h
  cases entitlementHex with
  | none =>
    obtain ⟨out', hrequest, hout⟩ := respond_value rfl hvalue
    cases hout
    rcases requestTransition_ok hrequest with ⟨hdenied, -⟩ | ⟨i, H⟩
    · rw [hdenied] at happroved
      cases happroved
    · exact H.allowedOn hts
  | some entitlementHex =>
    obtain ⟨out', hredeem, hout⟩ := respond_value rfl hvalue
    obtain ⟨a, H⟩ := redeemTransition_ok hredeem
    exact H.accepts.allowedOn hts

/-! ## Another stamp

The stamp of the evidence is read for its age alone: on the same evidence with another stamp within
the maximum age of the rule a command is approved as well. -/

section

variable {requestedState : UInt8} {nowS observedAtMs : Int64} {readiness : ReadinessEvidence}
  {fromStage toStage : String} {rule : StageRuleProfile} {d : ProtocolRuleDecision}

omit [ReplayStateBackend B] in
theorem evaluate_stamp {e : AccessEngine B}
    (hrule : e.config.protocolProfile.findRule fromStage toStage = some rule)
    (hage : { readiness with observedAtMs }.ageMs nowS ≤ rule.readiness.maximumAgeMs)
    (h : e.evaluate cr fromStage toStage nowS readiness = .ok d) :
    e.evaluate cr fromStage toStage nowS { readiness with observedAtMs } = .ok d := by
  obtain ⟨hfoundation, hcredentials, rule', hrule', hsatisfied, rfl⟩ := evaluate_eq_ok.mp h
  cases hrule.symm.trans hrule'
  exact evaluate_eq_ok.mpr ⟨hfoundation, hcredentials, rule, hrule,
    { hsatisfied with maximumAge := hage }, rfl⟩

omit [ReplayStateBackend B] in
theorem decideTransition_stamp {e : AccessEngine B} {sessionId : String}
    {decision : AccessDecision}
    (hrule : e.config.protocolProfile.findRule fromStage toStage = some rule)
    (hresolves : Resolves e.config.protocolProfile rule)
    (hage : { readiness with observedAtMs }.ageMs nowS ≤ rule.readiness.maximumAgeMs)
    (h : e.decideTransition cr sessionId fromStage toStage nowS readiness = .ok (d, decision)) :
    e.decideTransition cr sessionId fromStage toStage nowS { readiness with observedAtMs } =
      .ok (d, decision) := by
  obtain ⟨hevaluate, hauthorize⟩ := decideTransition_ok h
  obtain ⟨-, -, rule', hrule', hsatisfied, rfl⟩ := evaluate_eq_ok.mp hevaluate
  cases hrule.symm.trans hrule'
  obtain ⟨found, hfound, -, hlimit⟩ := hresolves
  have hfresh {readiness : ReadinessEvidence}
      (hage : readiness.ageMs nowS ≤ rule.readiness.maximumAgeMs) :
      readinessFresh e.config.protocolProfile (e.config.protocolProfile.decision rule) nowS
        readiness = true := by
    have hfound : e.config.protocolProfile.findRuleById
        (e.config.protocolProfile.decision rule).ruleId = some found := hfound
    simp only [readinessFresh, hfound, Option.map_some, Option.getD_some, decide_eq_true_eq]
    exact Int64.le_trans hage hlimit
  have hauthorize' : e.authorize cr (e.config.protocolProfile.decision rule) nowS
      { readiness with observedAtMs } = .ok decision := by
    rw [← hauthorize]
    simp only [AccessEngine.authorize, hfresh hage, hfresh hsatisfied.maximumAge]
    rfl
  simp only [AccessEngine.decideTransition, evaluate_stamp hrule hage hevaluate, hauthorize']

theorem requestTransition_stamp {out : TransitionOutcome}
    (hnames : transitionNames s.engine.state requestedState = some (fromStage, toStage))
    (hrule : s.engine.config.protocolProfile.findRule fromStage toStage = some rule)
    (hresolves : Resolves s.engine.config.protocolProfile rule)
    (hage : { readiness with observedAtMs }.ageMs nowS ≤ rule.readiness.maximumAgeMs)
    (h : requestTransition cr requestedState nowS readiness s = .ok out s')
    (happroved : out.approved = true) :
    requestTransition cr requestedState nowS { readiness with observedAtMs } s = .ok out s' := by
  simp only [requestTransition, bind_eq_ok, get_eq_ok, okOr_eq_ok, and_assoc, exists_and_left,
    exists_eq_left, Prod.exists] at h ⊢
  obtain ⟨event, stage, htransition, sessionId, hsession, u, s₁, hproof, fromStage', toStage',
    hnames', h⟩ := h
  refine ⟨event, stage, htransition, sessionId, hsession, u, s₁, hproof, fromStage', toStage',
    hnames', ?_⟩
  have hengine := proved_of_keeps ((refreshProof_steps sessionId nowS).ok hproof).kept
    (refreshProof_ok hproof)
  have hconfig : s₁.engine.config = s.engine.config := (congrArg (·.config) hengine :)
  have hstate : s₁.engine.state = s.engine.state := (congrArg AccessEngine.state hengine :)
  rw [hstate] at hnames'
  cases hnames.symm.trans hnames'
  cases hdecide : s₁.engine.decideTransition cr sessionId fromStage toStage nowS readiness with
  | error denial =>
    simp only [hdecide, pure_eq_ok] at h
    rw [← h.1, decideTransition_error hdecide] at happroved
    cases happroved
  | ok verdict =>
    obtain ⟨d, decision⟩ := verdict
    rw [decideTransition_stamp (hconfig ▸ hrule) (hconfig ▸ hresolves) hage hdecide]
    simpa only [hdecide] using h

theorem acceptGrant_stamp {entitlementHex : String} {a : AcceptedGrant}
    (hnames : transitionNames s.engine.state requestedState = some (fromStage, toStage))
    (hrule : s.engine.config.protocolProfile.findRule fromStage toStage = some rule)
    (hage : { readiness with observedAtMs }.ageMs nowS ≤ rule.readiness.maximumAgeMs)
    (h : acceptGrant cr entitlementHex requestedState nowS readiness s = .ok a s') :
    acceptGrant cr entitlementHex requestedState nowS { readiness with observedAtMs } s =
      .ok a s' := by
  simp only [acceptGrant, bind_eq_ok, get_eq_ok, okOr_eq_ok, ofExcept_eq_ok, failIf_eq_ok,
    pure_eq_ok, and_assoc, exists_and_left, exists_eq_left, Prod.exists] at h ⊢
  obtain ⟨event, stage, htransition, sessionId, hsession, encoded, hdecode, grant, s₁, hverify,
    grantId, hgrantId, pending, s₂, htake, u, husable, fromStage', toStage', hnames', d, hevaluate,
    h⟩ := h
  cases hnames.symm.trans hnames'
  exact ⟨event, stage, htransition, sessionId, hsession, encoded, hdecode, grant, s₁, hverify,
    grantId, hgrantId, pending, s₂, htake, u, husable, fromStage, toStage, hnames, d,
    evaluate_stamp hrule hage hevaluate, h⟩

theorem redeemTransition_stamp {entitlementHex : String} {out : TransitionOutcome}
    (hnames : transitionNames s.engine.state requestedState = some (fromStage, toStage))
    (hrule : s.engine.config.protocolProfile.findRule fromStage toStage = some rule)
    (hage : { readiness with observedAtMs }.ageMs nowS ≤ rule.readiness.maximumAgeMs)
    (h : redeemTransition cr entitlementHex requestedState nowS readiness s = .ok out s') :
    redeemTransition cr entitlementHex requestedState nowS { readiness with observedAtMs } s =
      .ok out s' := by
  simp only [redeemTransition, bind_eq_ok, get_eq_ok, and_assoc, exists_and_left,
    exists_eq_left] at h ⊢
  obtain ⟨a, s₁, haccept, h⟩ := h
  exact ⟨a, s₁, acceptGrant_stamp hnames hrule hage haccept, h⟩

theorem Authority.Approves.stamp {now : SystemTime} {entitlementHex : Option String}
    (h : Approves cr s now (undated entitlementHex requestedState readiness))
    (hnames : transitionNames s.engine.state requestedState = some (fromStage, toStage))
    (hrule : s.engine.config.protocolProfile.findRule fromStage toStage = some rule)
    (hresolves : entitlementHex.isSome = true ∨ Resolves s.engine.config.protocolProfile rule)
    (hage : { readiness with observedAtMs }.ageMs now.unixTime ≤ rule.readiness.maximumAgeMs) :
    Approves cr s now (undated entitlementHex requestedState { readiness with observedAtMs }) := by
  obtain ⟨out, hvalue, happroved⟩ := h
  refine ⟨out, ?_, happroved⟩
  cases entitlementHex with
  | none =>
    obtain ⟨out', hrequest, hout⟩ := respond_value rfl hvalue
    cases hout
    have hstamp := requestTransition_stamp hnames hrule (hresolves.resolve_left Bool.false_ne_true)
      hage hrequest happroved
    simp only [undated, handleCommand, Option.getD_none, respond, hstamp]
  | some entitlementHex =>
    obtain ⟨out', hredeem, hout⟩ := respond_value rfl hvalue
    cases hout
    rw [undated, handleCommand_of_redeemTransition
      (redeemTransition_stamp hnames hrule hage hredeem)]

end

/-! ## The true age -/

/-- On whatever evidence of the clock a command is approved, its true age is within a maximum. -/
def InTime (cr : Crates) (s : Host B) (now : SystemTime) (entitlementHex : Option String)
    (requestedState : UInt8) (maximumAgeMs : Int64) : Prop :=
  ∀ readiness : ReadinessEvidence, 0 ≤ readiness.observedAtMs.toInt →
    Approves cr s now (undated entitlementHex requestedState readiness) →
    now.millis - readiness.observedAtMs.toInt ≤ maximumAgeMs.toInt

section

variable {now : SystemTime} {entitlementHex : Option String} {requestedState : UInt8}
  {fromStage toStage : String} {rule : StageRuleProfile}

/-- What is approved was in time at the beginning of the second. -/
theorem Authority.Approves.age_le (hts : cr.TimestampsInRange) (hnow : 0 ≤ now.nanos)
    {readiness : ReadinessEvidence}
    (h : Approves cr s now (undated entitlementHex requestedState readiness))
    (hnames : transitionNames s.engine.state requestedState = some (fromStage, toStage))
    (hrule : s.engine.config.protocolProfile.findRule fromStage toStage = some rule) :
    now.millis / 1000 ≤ 253402387199 ∧
      (now.millis / 1000 * 1000 - readiness.observedAtMs.toInt ≤
        rule.readiness.maximumAgeMs.toInt ∨ rule.readiness.maximumAgeMs = Int64.maxValue) := by
  obtain ⟨rule', hallowed⟩ := h.allowedOn hts
  obtain ⟨_, _, hnames', hrule'⟩ := hallowed.names
  cases hnames.symm.trans hnames'
  cases hrule.symm.trans hrule'
  have hage := (ageMs_le hallowed.range).mp hallowed.age
  have hrange := hallowed.range.2
  rw [SystemTime.toInt_unixTime hnow] at hage hrange
  exact ⟨hrange, hage⟩

/-- With a whole second nothing is lost, and no evidence is older than the clock. -/
theorem inTime_of_whole (hts : cr.TimestampsInRange) (hnow : 0 ≤ now.nanos)
    (hnames : transitionNames s.engine.state requestedState = some (fromStage, toStage))
    (hrule : s.engine.config.protocolProfile.findRule fromStage toStage = some rule)
    (hwhole : now.millis % 1000 = 0 ∨ now.millis ≤ rule.readiness.maximumAgeMs.toInt) :
    InTime cr s now entitlementHex requestedState rule.readiness.maximumAgeMs := by
  intro readiness hstamp happroved
  obtain ⟨hrange, hage⟩ := happroved.age_le hts hnow hnames hrule
  rcases hage with hage | hmax
  · omega
  · have hlast : rule.readiness.maximumAgeMs.toInt = 9223372036854775807 := by
      rw [hmax]
      rfl
    omega

/-- Evidence whose age at the beginning of the second is the maximum is approved, too. -/
theorem whole_of_inTime (hts : cr.TimestampsInRange) (hnow : 0 ≤ now.nanos)
    {readiness : ReadinessEvidence}
    (happroved : Approves cr s now (undated entitlementHex requestedState readiness))
    (hnames : transitionNames s.engine.state requestedState = some (fromStage, toStage))
    (hrule : s.engine.config.protocolProfile.findRule fromStage toStage = some rule)
    (hresolves : entitlementHex.isSome = true ∨ Resolves s.engine.config.protocolProfile rule)
    (H : InTime cr s now entitlementHex requestedState rule.readiness.maximumAgeMs) :
    now.millis % 1000 = 0 ∨ now.millis ≤ rule.readiness.maximumAgeMs.toInt := by
  obtain ⟨hrange, hage⟩ := happroved.age_le hts hnow hnames hrule
  have hmillis : 0 ≤ now.millis := Int.ediv_nonneg hnow (by decide)
  have hlatest : now.millis / 1000 * 1000 - rule.readiness.maximumAgeMs.toInt < 2 ^ 63 := by
    rcases hage with hage | hmax
    · have := readiness.observedAtMs.toInt_lt
      omega
    · have hlast : rule.readiness.maximumAgeMs.toInt = 9223372036854775807 := by
        rw [hmax]
        rfl
      omega
  -- as old as is allowed, but not from before the epoch
  let stamp := max 0 (now.millis / 1000 * 1000 - rule.readiness.maximumAgeMs.toInt)
  have hstamp : (Int64.ofInt stamp).toInt = stamp :=
    Int64.toInt_ofInt_of_le (by omega) (by omega)
  have hage' : { readiness with observedAtMs := Int64.ofInt stamp }.ageMs now.unixTime ≤
      rule.readiness.maximumAgeMs := by
    have hunix := SystemTime.toInt_unixTime hnow
    refine (ageMs_le ⟨by omega, by omega⟩).mpr (.inl ?_)
    rw [hstamp, hunix]
    omega
  have hbounded := H { readiness with observedAtMs := Int64.ofInt stamp }
    (hstamp.symm ▸ le_max_left _ _) (happroved.stamp hnames hrule hresolves hage')
  rw [hstamp] at hbounded
  omega

end

/-- In every state a run can reach, when there is evidence on which a transition or a redemption
without a time is approved at a time of the system clock: all such evidence is within the maximum
age of the rule if the time is a whole second, or the maximum reaches back to the epoch. Otherwise
some is not; of a transition this supposes that the identifier of the rule leads to it. -/
theorem true_age_bounded_iff (cr : Crates) (hts : cr.TimestampsInRange) (setup : EngineSetup)
    (calls : List (Call B)) (now : SystemTime) (hnow : 0 ≤ now.nanos)
    (entitlementHex : Option String) (requestedState : UInt8) (readiness : ReadinessEvidence)
    (happroved : Approves cr (Host.after cr setup calls) now
      (undated entitlementHex requestedState readiness)) :
    ∃ fromStage toStage rule,
      transitionNames (Host.after cr setup calls).engine.state requestedState =
        some (fromStage, toStage) ∧
      setup.config.protocolProfile.findRule fromStage toStage = some rule ∧
      let whole := now.millis % 1000 = 0 ∨ now.millis ≤ rule.readiness.maximumAgeMs.toInt
      let inTime := InTime cr (Host.after cr setup calls) now entitlementHex requestedState
        rule.readiness.maximumAgeMs
      (whole → inTime) ∧
        (entitlementHex.isSome = true ∨ Resolves setup.config.protocolProfile rule →
          (inTime ↔ whole)) := by
  obtain ⟨rule, hallowed⟩ := happroved.allowedOn hts
  obtain ⟨fromStage, toStage, hnames, hrule⟩ := hallowed.names
  have hsetup := (reached cr setup calls).setup_eq
  have hrule' := hrule
  rw [hsetup] at hrule'
  refine ⟨fromStage, toStage, rule, hnames, hrule', inTime_of_whole hts hnow hnames hrule, ?_⟩
  intro hresolves
  rw [← hsetup] at hresolves
  exact ⟨whole_of_inTime hts hnow happroved hnames hrule hresolves,
    inTime_of_whole hts hnow hnames hrule⟩

/-! ## A redemption of the simulation -/

namespace Simulation

/-- A time of the simulation's second. -/
def clockAt (millis : Fin 1000) : SystemTime where
  nanos := (nowS.toInt * 1000 + millis) * 1000000
  inRange := by
    have : nowS.toInt = 1787900100 := by decide
    omega

theorem unixTime_clockAt (millis : Fin 1000) : (clockAt millis).unixTime = nowS := by
  have hnow : nowS.toInt = 1787900100 := by decide
  have hnanos : 0 ≤ (clockAt millis).nanos := by
    simp only [clockAt]
    omega
  rw [← Int64.toInt_inj, SystemTime.toInt_unixTime hnanos, SystemTime.millis]
  simp only [clockAt]
  omega

/-- Evidence that is as old at the beginning of the second as the rule of an approach allows. -/
def aged : ReadinessEvidence := { steady with observedAtMs := nowS * 1000 - 1000 }

/-- The grant of the simulation is redeemed in that second. -/
theorem approves_requested (readiness : ReadinessEvidence) {rule : ProtocolRuleDecision}
    (h : protocolProfile.evaluate reference "hold" "approach" nowS "waystation-1-trust" 42
      (nowS - 60) credentials (some nowS) true readiness = .ok rule) :
    ∃ signedGrantHex, ∀ millis, Approves reference (after requested) (clockAt millis)
      (undated (some signedGrantHex) 1 readiness) := by
  obtain ⟨signedGrantHex, out, s', hredeem⟩ := redeemable_requested h
  obtain ⟨a, H⟩ := redeemTransition_ok hredeem
  refine ⟨signedGrantHex, fun millis => ⟨out, ?_, ?_⟩⟩
  · rw [← unixTime_clockAt millis] at hredeem
    rw [undated, handleCommand_of_redeemTransition hredeem]
  · rw [H.outcome]
    rfl

theorem findRule_of_transitionNames {state : DockingState} {fromStage toStage : String}
    {rule : StageRuleProfile} (hstate : state = .hold)
    (hnames : transitionNames state 1 = some (fromStage, toStage))
    (hrule : protocolProfile.findRule fromStage toStage = some rule) : rule = approachRule := by
  cases (transitionNames_of_hold hstate).symm.trans hnames
  exact Option.some.inj (hrule.symm.trans findRule_approach)

end Simulation

open Simulation

/-- Evidence that is used at the beginning of its second, or after its first quarter. -/
theorem true_age_bounded_iff_steady : ∃ signedGrantHex,
    InTime reference (after requested) (clockAt 0) (some signedGrantHex) 1
      approachRule.readiness.maximumAgeMs ∧
    ¬InTime reference (after requested) (clockAt 250) (some signedGrantHex) 1
      approachRule.readiness.maximumAgeMs := by
  obtain ⟨-, -, -, hstate, -⟩ := Simulation.runs
  simp only [after] at hstate
  obtain ⟨signedGrantHex, happroved⟩ := approves_requested steady rfl
  refine ⟨signedGrantHex, ?_, ?_⟩
  · obtain ⟨fromStage, toStage, rule, hnames, hrule, hwhole, -⟩ :=
      true_age_bounded_iff reference reference_timestampsInRange (setup protocolProfile) requested
        (clockAt 0) (by decide) (some signedGrantHex) 1 steady (happroved 0)
    cases findRule_of_transitionNames hstate hnames hrule
    exact hwhole (.inl (by decide))
  · obtain ⟨fromStage, toStage, rule, hnames, hrule, -, hiff⟩ :=
      true_age_bounded_iff reference reference_timestampsInRange (setup protocolProfile) requested
        (clockAt 250) (by decide) (some signedGrantHex) 1 steady (happroved 250)
    cases findRule_of_transitionNames hstate hnames hrule
    intro hinTime
    exact absurd ((hiff (.inl rfl)).mp hinTime) (by decide)

/-- A redemption on evidence that is twice as old as its rule allows. -/
theorem true_age_unbounded :
    ¬∀ (cr : Crates) (_ : cr.TimestampsInRange) (setup : EngineSetup)
      (calls : List (Call FileReplayStateBackend)) (now : SystemTime) (_ : 0 ≤ now.nanos)
      (entitlementHex : Option String) (requestedState : UInt8) (readiness : ReadinessEvidence),
      0 ≤ readiness.observedAtMs.toInt →
      Approves cr (Host.after cr setup calls) now
        (undated entitlementHex requestedState readiness) →
      ∃ fromStage toStage rule,
        transitionNames (Host.after cr setup calls).engine.state requestedState =
          some (fromStage, toStage) ∧
        setup.config.protocolProfile.findRule fromStage toStage = some rule ∧
        now.millis - readiness.observedAtMs.toInt ≤ rule.readiness.maximumAgeMs.toInt := by
  intro H
  obtain ⟨signedGrantHex, happroved⟩ := approves_requested aged rfl
  obtain ⟨fromStage, toStage, rule, hnames, hrule, hage⟩ :=
    H reference reference_timestampsInRange (setup protocolProfile) requested (clockAt 999)
      (by decide) (some signedGrantHex) 1 aged (by decide) (happroved 999)
  obtain ⟨-, -, -, hstate, -⟩ := Simulation.runs
  simp only [after] at hstate
  cases findRule_of_transitionNames hstate hnames hrule
  exact absurd hage (by decide)

end Access
