import Access.Observers
import Access.Verify.TransitionChannel
import Mathlib.Algebra.Order.Floor.Semiring
import Mathlib.Data.Rat.Floor

/-! # Progress of the baseline controller

A controller that runs, and whose poses are acknowledged and requests approved, gets to the last
stage: what is left of its way is a number (`rank`), which no such event makes larger and which every
update without a request in flight, and every approval, makes smaller. -/

namespace Access.BaselineController

open StationAccess (TransitionDecision)

/-! ### Behind the goal -/

/-- The chaser is not behind the first goal, and is not sent back but for a reset. -/
structure Motion.Forward (m : Motion) : Prop where
  le_x : goalX .hold ≤ m.x
  le_call : ∀ call, m.poseCall = some call → goalX .hold ≤ call.pendingX
  x_le_call : m.resetPosePending = false → ∀ call, m.poseCall = some call → m.x ≤ call.pendingX

theorem goalX_le_hardDock (state : Stage) : goalX state ≤ goalX .hardDock := by
  cases state <;> norm_num [goalX]

section

variable {p : Parameters} {self : Controller}

theorem Motion.Forward.onDecision (h : self.motion.Forward) (decision : TransitionDecision) :
    (onDecision decision self).motion.Forward := by
  rcases onDecision_cases decision self with eq | ⟨next, -, -, -, -, eq⟩
  · rw [eq]
    exact h
  · rw [eq]
    exact ⟨h.le_x, h.le_call, h.x_le_call⟩

theorem Motion.Forward.settlePose {tick : Tick} {call : PoseCall} (h : self.motion.Forward)
    (flying : self.poseCall = some call) : (settlePose p tick call self).motion.Forward := by
  rw [settlePose_motion]
  refine ⟨?_, ?_, ?_⟩
  · by_cases success : tick.outcome = .success
    · simp only [if_pos success]
      exact h.le_call call flying
    · simp only [if_neg success]
      exact h.le_x
  · intro _ flying'
    cases flying'
  · intro _ _ flying'
    cases flying'

theorem Motion.Forward.sendPose (rate : 0 < p.updateRateHz) (speed : 0 ≤ p.approachSpeedMps)
    (h : self.motion.Forward) (bounded : self.motion.Bounded) :
    (sendPose p self).1.motion.Forward := by
  cases reset : self.resetRequested with
  | true =>
    rw [sendPose_reset reset]
    refine ⟨h.le_x, ?_, ?_⟩
    · intro call flying
      cases flying
      exact le_rfl
    · intro idle
      cases idle
  | false =>
    have ahead := le_nextX bounded.x_le (stepLength_nonneg rate speed self.state)
    rw [sendPose_move reset]
    refine ⟨h.le_x, ?_, ?_⟩
    · intro call flying
      cases flying
      exact le_trans h.le_x ahead
    · intro _ call flying
      cases flying
      exact ahead

theorem Motion.Forward.advancePose (rate : 0 < p.updateRateHz) (speed : 0 ≤ p.approachSpeedMps)
    (h : self.motion.Forward) (bounded : self.motion.Bounded) (tick : Tick) :
    (advancePose p tick self).1.motion.Forward := by
  rcases advancePose_cases p tick self with eq | ⟨-, eq⟩ | ⟨call, -, flying, -, eq⟩
  · rw [eq]
    exact h
  · rw [eq]
    exact h.sendPose rate speed bounded
  · rw [eq]
    exact (h.settlePose flying).sendPose rate speed (bounded.settlePose flying)

theorem Motion.Forward.step (rate : 0 < p.updateRateHz) (speed : 0 ≤ p.approachSpeedMps)
    (h : self.motion.Forward) (bounded : self.motion.Bounded) (input : Input) :
    (step p self input).2.motion.Forward := by
  cases input with
  | update tick =>
    have expired := expireRequest_motion p tick self
    rw [BaselineController.step, update_motion]
    exact Motion.Forward.advancePose rate speed (expired ▸ h) (expired ▸ bounded) tick
  | decision decision => exact h.onDecision decision
  | reset | run data | prepare => exact ⟨h.le_x, h.le_call, h.x_le_call⟩

theorem init_forward (p : Parameters) (now : Int) : (Controller.init p now).motion.Forward where
  le_x := le_rfl
  le_call := by
    intro call flying
    cases flying
  x_le_call := by
    intro _ call flying
    cases flying

end

/-! ### What is left of the way -/

/-- The number of stages after a stage. -/
def stagesLeft : Stage → Nat
  | .hold => 4
  | .approach => 3
  | .finalApproach => 2
  | .softCapture => 1
  | .hardDock => 0

/-- The step of the slowest stage. -/
def shortestStep (p : Parameters) : ℚ := stepLength p .hardDock

/-- The number of the shortest steps in a way. -/
def stepsIn (p : Parameters) (wayM : ℚ) : Nat := ⌈wayM / shortestStep p⌉₊

def stepsLeft (p : Parameters) (self : Controller) : Nat := stepsIn p (goalX self.state - self.x)

/-- The call in flight may be none, or may have been sent before the stage or the position was what
it is. -/
def callsLeft (p : Parameters) (self : Controller) : Nat :=
  if self.poseCall.map (·.pendingX) = some (nextX p self) then 0 else 1

def requestsLeft (self : Controller) : Nat :=
  if self.pending ∨ self.state = .hardDock then 0 else 1

/-- A reset has to be sent and to be acknowledged. -/
def resetsLeft (self : Controller) : Nat :=
  if self.resetRequested then 2 else if self.resetPosePending then 1 else 0

/-- More than is left within a stage. -/
def stageLength (p : Parameters) : Nat := stepsIn p (goalX .hardDock - goalX .hold) + 3

/-- What is left within the stage. -/
def rankInStage (p : Parameters) (self : Controller) : Nat :=
  stepsLeft p self + callsLeft p self + requestsLeft self

/-- What is left of the way to the last stage. -/
def rank (p : Parameters) (self : Controller) : Nat :=
  resetsLeft self * (5 * stageLength p) + stagesLeft self.state * stageLength p + rankInStage p self

/-- As much as can be left. -/
def updatesNeeded (p : Parameters) : Nat := 15 * stageLength p

section

variable {p : Parameters} {self after : Controller}

theorem callsLeft_le (p : Parameters) (self : Controller) : callsLeft p self ≤ 1 := by
  unfold callsLeft
  split <;> decide

theorem requestsLeft_le (self : Controller) : requestsLeft self ≤ 1 := by
  unfold requestsLeft
  split <;> decide

theorem resetsLeft_le : resetsLeft self ≤ 2 := by
  unfold resetsLeft
  split
  · exact le_rfl
  · split <;> decide

theorem stagesLeft_le (state : Stage) : stagesLeft state ≤ 4 := by
  cases state <;> decide

theorem stagesLeft_next {state next : Stage} (goes : nextState state = some next) :
    stagesLeft next + 1 = stagesLeft state := by
  cases state <;> cases goes <;> rfl

theorem shortestStep_pos (rate : 0 < p.updateRateHz) (speed : 0 < p.approachSpeedMps) :
    0 < shortestStep p :=
  div_pos (lt_min speed (by norm_num [maxStageSpeedMps])) rate

theorem shortestStep_le (rate : 0 < p.updateRateHz) {state : Stage} (moving : state ≠ .hold) :
    shortestStep p ≤ stepLength p state := by
  have slowest : maxStageSpeedMps .hardDock ≤ maxStageSpeedMps state := by
    cases state with
    | hold => exact absurd rfl moving
    | approach | finalApproach | softCapture | hardDock => norm_num [maxStageSpeedMps]
  exact div_le_div_of_nonneg_right (min_le_min_left _ slowest) rate.le

theorem stepsIn_mono (rate : 0 < p.updateRateHz) (speed : 0 < p.approachSpeedMps) {way longer : ℚ}
    (h : way ≤ longer) : stepsIn p way ≤ stepsIn p longer :=
  Nat.ceil_le_ceil (div_le_div_of_nonneg_right h (shortestStep_pos rate speed).le)

/-- A way that is shorter by a step, or that is gone, has a step less. -/
theorem stepsIn_lt (rate : 0 < p.updateRateHz) (speed : 0 < p.approachSpeedMps) {way rest : ℚ}
    (some_way : 0 < way) (h : rest ≤ way - min way (shortestStep p)) :
    stepsIn p rest < stepsIn p way := by
  have step := shortestStep_pos rate speed
  have positive : 0 < stepsIn p way := Nat.ceil_pos.mpr (div_pos some_way step)
  rcases min_cases way (shortestStep p) with ⟨eq, -⟩ | ⟨eq, -⟩
  · rw [eq, sub_self] at h
    have gone : stepsIn p rest = 0 := Nat.ceil_eq_zero.mpr (div_nonpos_of_nonpos_of_nonneg h step.le)
    rw [gone]
    exact positive
  · rw [eq] at h
    have fewer : stepsIn p rest ≤ stepsIn p (way - shortestStep p) := stepsIn_mono rate speed h
    have one_less : stepsIn p (way - shortestStep p) = stepsIn p way - 1 := by
      unfold stepsIn
      rw [sub_div, div_self step.ne', Nat.ceil_sub_one]
    omega

theorem stepsLeft_le (rate : 0 < p.updateRateHz) (speed : 0 < p.approachSpeedMps)
    (h : self.motion.Forward) : stepsLeft p self + 3 ≤ stageLength p := by
  have far : goalX self.state - self.x ≤ goalX .hardDock - goalX .hold :=
    sub_le_sub (goalX_le_hardDock _) h.le_x
  exact Nat.add_le_add_right (stepsIn_mono rate speed far) 3

theorem rankInStage_lt (rate : 0 < p.updateRateHz) (speed : 0 < p.approachSpeedMps)
    (h : self.motion.Forward) : rankInStage p self < stageLength p := by
  have := stepsLeft_le rate speed h
  have := callsLeft_le p self
  have := requestsLeft_le self
  unfold rankInStage
  omega

theorem rank_le (rate : 0 < p.updateRateHz) (speed : 0 < p.approachSpeedMps)
    (h : self.motion.Forward) : rank p self ≤ updatesNeeded p := by
  have inStage := rankInStage_lt rate speed h
  have stages : stagesLeft self.state * stageLength p ≤ 4 * stageLength p :=
    Nat.mul_le_mul_right _ (stagesLeft_le _)
  have resets : resetsLeft self * (5 * stageLength p) ≤ 2 * (5 * stageLength p) :=
    Nat.mul_le_mul_right _ resetsLeft_le
  unfold rank updatesNeeded
  omega

/-- Whatever is left after a part of a reset is less than that part. -/
theorem rank_lt_of_resets (rate : 0 < p.updateRateHz) (speed : 0 < p.approachSpeedMps)
    (h : after.motion.Forward) (resets : resetsLeft after < resetsLeft self) :
    rank p after < rank p self := by
  have inStage := rankInStage_lt rate speed h
  have stages : stagesLeft after.state * stageLength p ≤ 4 * stageLength p :=
    Nat.mul_le_mul_right _ (stagesLeft_le _)
  have one_less : (resetsLeft after + 1) * (5 * stageLength p) ≤
      resetsLeft self * (5 * stageLength p) := Nat.mul_le_mul_right _ resets
  rw [Nat.succ_mul] at one_less
  unfold rank
  omega

/-- Whatever is left within the next stage is less than the stage before. -/
theorem rank_lt_of_stages (rate : 0 < p.updateRateHz) (speed : 0 < p.approachSpeedMps)
    (h : after.motion.Forward) (resets : resetsLeft after = resetsLeft self)
    (goes : nextState self.state = some after.state) : rank p after < rank p self := by
  have inStage := rankInStage_lt rate speed h
  have stages : stagesLeft self.state * stageLength p =
      stagesLeft after.state * stageLength p + stageLength p := by
    rw [← stagesLeft_next goes, Nat.succ_mul]
  unfold rank
  rw [resets, stages]
  omega

/-- Without motion only a request can make a difference. -/
theorem rank_of_motion (same : after.motion = self.motion) :
    rank p after + requestsLeft self = rank p self + requestsLeft after := by
  have state : after.state = self.state := motion_state same
  have x : after.x = self.x := congrArg Motion.x same
  have poseCall : after.poseCall = self.poseCall := congrArg Motion.poseCall same
  have requested : after.resetRequested = self.resetRequested := congrArg Motion.resetRequested same
  have sent : after.resetPosePending = self.resetPosePending :=
    congrArg Motion.resetPosePending same
  have resets : resetsLeft after = resetsLeft self := by
    simp only [resetsLeft, requested, sent]
  have steps : stepsLeft p after = stepsLeft p self := by
    simp only [stepsLeft, state, x]
  have next : nextX p after = nextX p self := by
    simp only [nextX, state, x]
  have calls : callsLeft p after = callsLeft p self := by
    rw [callsLeft, callsLeft, poseCall, next]
  unfold rank rankInStage
  rw [resets, steps, calls, state]
  omega

/-! ### One update -/

variable {tick : Tick} {call : PoseCall}

theorem resetsLeft_eq_zero (asked : self.resetRequested = false)
    (sent : self.resetPosePending = false) : resetsLeft self = 0 := by
  simp only [resetsLeft, asked, sent, Bool.false_eq_true, if_false]

theorem resets_of_resetsLeft (h : resetsLeft self = 0) :
    self.resetRequested = false ∧ self.resetPosePending = false := by
  unfold resetsLeft at h
  split at h
  · cases h
  · split at h
    · cases h
    · exact ⟨Bool.eq_false_of_not_eq_true ‹_›, Bool.eq_false_of_not_eq_true ‹_›⟩

/-- The call that is sent is the one that was left. -/
theorem rank_sendPose (asked : self.resetRequested = false) :
    callsLeft p (sendPose p self).1 = 0 ∧
      rank p (sendPose p self).1 + callsLeft p self = rank p self := by
  rw [sendPose_move asked]
  have fresh : callsLeft p { self with poseCall := some { pendingX := nextX p self } } = 0 :=
    if_pos rfl
  refine ⟨fresh, ?_⟩
  have rest : rankInStage p { self with poseCall := some { pendingX := nextX p self } } =
      stepsLeft p self + 0 + requestsLeft self := by
    rw [rankInStage, fresh]
    rfl
  simp only [rank, rest]
  simp only [rankInStage, resetsLeft]
  omega

theorem resetsLeft_sendPose (asked : self.resetRequested = true) :
    resetsLeft (sendPose p self).1 < resetsLeft self := by
  rw [sendPose_reset asked]
  simp only [resetsLeft, asked, if_true, Bool.false_eq_true, if_false]
  decide

/-- A chaser at the goal of its stage, with no reset outstanding and the next call in flight. -/
structure AtGoal (p : Parameters) (before after : Controller) : Prop where
  state : after.state = before.state
  x : after.x = goalX before.state
  calls : callsLeft p after = 0
  idle : resetsLeft after = 0
  resumeTime : after.resumeTime = before.resumeTime
  rank_le : rank p after ≤ rank p before

/-- A pose that is acknowledged shortens the way, or the chaser was at the goal. -/
theorem stepsLeft_settlePose (rate : 0 < p.updateRateHz) (speed : 0 < p.approachSpeedMps)
    (bounded : self.motion.Bounded) (forward : self.motion.Forward)
    (fresh : call.pendingX = nextX p self) (way : self.x < goalX self.state) :
    stepsIn p (goalX self.state - call.pendingX) < stepsLeft p self := by
  have moving : self.state ≠ .hold := by
    intro hold
    rw [hold] at way
    exact absurd forward.le_x (not_le.mpr way)
  apply stepsIn_lt rate speed (sub_pos.mpr way)
  rw [fresh, nextX_eq bounded.x_le (stepLength_nonneg rate speed.le _)]
  have longer := min_le_min_left (goalX self.state - self.x) (shortestStep_le (p := p) rate moving)
  linarith

theorem settlePose_resetRequested_of_success (p : Parameters) (call : PoseCall)
    (success : tick.outcome = .success) :
    (settlePose p tick call self).resetRequested = self.resetRequested := by
  rw [settlePose_resetRequested, success]
  exact Bool.or_false _

/-- Where a pose that is acknowledged leaves the chaser, unless it was the reset's. -/
theorem settlePose_on_way (p : Parameters) (call : PoseCall) (sent : self.resetPosePending = false)
    (success : tick.outcome = .success) : (settlePose p tick call self).state = self.state ∧
      (settlePose p tick call self).x = call.pendingX := by
  have settled := settlePose_motion p tick call self
  constructor
  · exact (congrArg Motion.state settled).trans
      (if_neg fun both => by cases sent.symm.trans both.2)
  · exact (congrArg Motion.x settled).trans (if_pos success)

/-- What is left from there. -/
theorem rank_on_way (p : Parameters) (call : PoseCall) (asked : self.resetRequested = false)
    (sent : self.resetPosePending = false) (success : tick.outcome = .success) :
    callsLeft p (settlePose p tick call self) = 1 ∧
      rank p (settlePose p tick call self) = stagesLeft self.state * stageLength p +
        (stepsIn p (goalX self.state - call.pendingX) + 1 + requestsLeft self) := by
  obtain ⟨state, x⟩ := settlePose_on_way p call sent success
  have poseCall : (settlePose p tick call self).poseCall = none :=
    congrArg Motion.poseCall (settlePose_motion p tick call self)
  have calls : callsLeft p (settlePose p tick call self) = 1 := by
    rw [callsLeft, poseCall]
    rfl
  have steps : stepsLeft p (settlePose p tick call self) =
      stepsIn p (goalX self.state - call.pendingX) := by
    rw [stepsLeft, state, x]
  have requests : requestsLeft (settlePose p tick call self) = requestsLeft self := by
    rw [requestsLeft, requestsLeft, state, (settlePose_waits p tick call self).1]
  have asked' := (settlePose_resetRequested_of_success p call success).trans asked
  have resets := resetsLeft_eq_zero asked' (settlePose_resetPosePending call)
  refine ⟨calls, ?_⟩
  rw [rank, rankInStage, resets, calls, steps, requests, state]
  omega

/-- The call in flight was successful, and no reset is outstanding. -/
theorem rank_settlePose_on_way (rate : 0 < p.updateRateHz) (speed : 0 < p.approachSpeedMps)
    (bounded : self.motion.Bounded) (forward : self.motion.Forward)
    (flying : self.poseCall = some call) (success : tick.outcome = .success)
    (asked : self.resetRequested = false) (sent : self.resetPosePending = false)
    (idle : resetsLeft (sendPose p (settlePose p tick call self)).1 = 0) :
    rank p (sendPose p (settlePose p tick call self)).1 < rank p self ∨
      AtGoal p self (sendPose p (settlePose p tick call self)).1 := by
  have asked' := (settlePose_resetRequested_of_success p call success).trans asked
  obtain ⟨state, x⟩ := settlePose_on_way p call sent success
  obtain ⟨calls, rest⟩ := rank_on_way p call asked sent success
  obtain ⟨gone, sends⟩ := rank_sendPose (p := p) asked'
  rw [calls] at sends
  have total : rank p self = stagesLeft self.state * stageLength p + (stepsLeft p self +
      callsLeft p self + requestsLeft self) := by
    rw [rank, rankInStage, resetsLeft_eq_zero asked sent]
    omega
  have further : self.x ≤ call.pendingX := forward.x_le_call sent call flying
  have fewer : stepsIn p (goalX self.state - call.pendingX) ≤ stepsLeft p self :=
    stepsIn_mono rate speed (sub_le_sub_left further _)
  by_cases fresh : call.pendingX = nextX p self
  · rcases lt_or_eq_of_le bounded.x_le with way | there
    · left
      have := stepsLeft_settlePose rate speed bounded forward fresh way
      omega
    · right
      have near : call.pendingX ≤ goalX self.state := bounded.call_le call flying
      have arrived : call.pendingX = goalX self.state := le_antisymm near (there ▸ further)
      refine ⟨sendPose_state.trans state, ?_, gone, idle, ?_, ?_⟩
      · rw [sendPose_move asked']
        exact x.trans arrived
      · rw [sendPose_move asked']
        simp only [settlePose, success, sent, Bool.false_eq_true, if_false]
      · omega
  · left
    have stale : callsLeft p self = 1 := by
      rw [callsLeft, flying]
      exact if_neg fun eq => fresh (Option.some.inj eq)
    omega

/-- The call in flight was successful. -/
theorem rank_settlePose (rate : 0 < p.updateRateHz) (speed : 0 < p.approachSpeedMps)
    (bounded : self.motion.Bounded) (forward : self.motion.Forward)
    (flying : self.poseCall = some call) (success : tick.outcome = .success) :
    rank p (sendPose p (settlePose p tick call self)).1 < rank p self ∨
      AtGoal p self (sendPose p (settlePose p tick call self)).1 := by
  have settledForward : (settlePose p tick call self).motion.Forward := forward.settlePose flying
  have forward' := settledForward.sendPose rate speed.le (bounded.settlePose flying)
  have asked' : (settlePose p tick call self).resetRequested = self.resetRequested :=
    settlePose_resetRequested_of_success p call success
  cases asked : self.resetRequested with
  | true =>
    left
    apply rank_lt_of_resets rate speed forward'
    have := resetsLeft_sendPose (p := p) (asked'.trans asked)
    have both : resetsLeft (settlePose p tick call self) = resetsLeft self := by
      simp only [resetsLeft, asked', asked, if_true]
    omega
  | false =>
    have idle : resetsLeft (sendPose p (settlePose p tick call self)).1 = 0 := by
      apply resetsLeft_eq_zero
      · rw [sendPose_move (asked'.trans asked)]
        exact asked'.trans asked
      · rw [sendPose_resetPosePending (settlePose_resetPosePending call)]
        exact asked'.trans asked
    cases sent : self.resetPosePending with
    | true =>
      left
      apply rank_lt_of_resets rate speed forward'
      rw [idle]
      simp only [resetsLeft, asked, sent, Bool.false_eq_true, if_false, if_true]
      decide
    | false =>
      exact rank_settlePose_on_way rate speed bounded forward flying success asked sent idle

/-- With no call in flight. -/
theorem rank_sendPose_lt (rate : 0 < p.updateRateHz) (speed : 0 < p.approachSpeedMps)
    (bounded : self.motion.Bounded) (forward : self.motion.Forward) (idle : self.poseCall = none) :
    rank p (sendPose p self).1 < rank p self := by
  cases asked : self.resetRequested with
  | true =>
    apply rank_lt_of_resets rate speed (forward.sendPose rate speed.le bounded)
    exact resetsLeft_sendPose asked
  | false =>
    obtain ⟨-, sends⟩ := rank_sendPose (p := p) asked
    have calls : callsLeft p self = 1 := by
      rw [callsLeft, idle]
      rfl
    omega

/-- The pose service has answered. -/
theorem rank_advancePose_lt (rate : 0 < p.updateRateHz) (speed : 0 < p.approachSpeedMps)
    (bounded : self.motion.Bounded) (forward : self.motion.Forward)
    (ready : tick.serviceIsReady = true) (success : tick.outcome = .success) :
    rank p (advancePose p tick self).1 < rank p self ∨
      AtGoal p self (advancePose p tick self).1 := by
  cases flying : self.poseCall with
  | none =>
    left
    have eq : advancePose p tick self = sendPose p self := by
      simp only [advancePose, ready, flying]
      rfl
    rw [eq]
    exact rank_sendPose_lt rate speed bounded forward flying
  | some call =>
    have answered : tick.outcome ≠ .waiting := by
      rw [success]
      exact PoseOutcome.noConfusion
    rw [advancePose_answered ready flying answered]
    exact rank_settlePose rate speed bounded forward flying success

theorem rank_advancePose_le (rate : 0 < p.updateRateHz) (speed : 0 < p.approachSpeedMps)
    (bounded : self.motion.Bounded) (forward : self.motion.Forward)
    (undisturbed : tick.outcome = .waiting ∨ tick.outcome = .success) :
    rank p (advancePose p tick self).1 ≤ rank p self := by
  rcases advancePose_cases p tick self with eq | ⟨idle, eq⟩ | ⟨call, ready, -, answered, -⟩
  · rw [eq]
  · rw [eq]
    exact (rank_sendPose_lt rate speed bounded forward idle).le
  · have success := undisturbed.resolve_left answered
    rcases rank_advancePose_lt rate speed bounded forward ready success with less | goal
    · exact less.le
    · exact goal.rank_le

/-! ### Requests -/

theorem advancePose_waits (p : Parameters) (tick : Tick) (self : Controller) :
    (advancePose p tick self).1.pending = self.pending ∧
    (advancePose p tick self).1.halted = self.halted := by
  have sends (self : Controller) : (sendPose p self).1.pending = self.pending ∧
      (sendPose p self).1.halted = self.halted := by
    unfold sendPose
    split <;> exact ⟨rfl, rfl⟩
  rcases advancePose_cases p tick self with eq | ⟨-, eq⟩ | ⟨call, -, -, -, eq⟩
  · rw [eq]
    exact ⟨rfl, rfl⟩
  · rw [eq]
    exact sends self
  · rw [eq]
    obtain ⟨pending, halted⟩ := settlePose_waits p tick call self
    obtain ⟨pending', halted'⟩ := sends (settlePose p tick call self)
    exact ⟨pending'.trans pending, halted'.trans halted⟩

/-- The end of an update neither halts nor takes a request back. -/
theorem finishUpdate_waits (tick : Tick) (goal : ℚ) (self : Controller) :
    (finishUpdate tick goal self).1.halted = self.halted ∧
    (self.pending = true → (finishUpdate tick goal self).1.pending = true) := by
  have asks (self : Controller) : (requestAtGoal tick goal self).1.halted = self.halted ∧
      (self.pending = true → (requestAtGoal tick goal self).1.pending = true) := by
    unfold requestAtGoal requestTransition
    split
    · split
      · exact ⟨rfl, id⟩
      · exact ⟨rfl, fun _ => rfl⟩
    · exact ⟨rfl, id⟩
  unfold finishUpdate
  split
  · split
    · exact ⟨rfl, id⟩
    · exact asks _
  · exact asks self

theorem update_waits (unexpired : expireRequest p tick self = self) :
    (update p tick self).1.halted = self.halted ∧
      (self.pending = true → (update p tick self).1.pending = true) := by
  obtain ⟨pending, halted⟩ := advancePose_waits p tick self
  obtain ⟨halted', pending'⟩ := finishUpdate_waits tick (goalX self.state)
    (advancePose p tick self).1
  simp only [update, unexpired]
  split
  · exact ⟨halted, fun waits => pending.trans waits⟩
  · exact ⟨halted'.trans halted, fun waits => pending' (pending.trans waits)⟩

/-- A chaser at the goal asks for the next stage. -/
theorem AtGoal.asks (h : AtGoal p self (advancePose p tick self).1)
    (unexpired : expireRequest p tick self = self) (unasked : self.pending = false)
    (running : self.halted = false) (resumed : self.resumeTime.all (· ≤ tick.resumed) = true)
    {next : Stage} (goes : nextState self.state = some next) :
    (update p tick self).1.pending = true := by
  obtain ⟨pending, halted⟩ := advancePose_waits p tick self
  have asks (other : Controller) (state : other.state = self.state) (x : other.x = goalX self.state)
      (unasked : other.pending = false) (running : other.halted = false) :
      (requestAtGoal tick (goalX self.state) other).1.pending = true := by
    have there : |goalX self.state - other.x| < 1 / 10 ^ 6 ∧ !other.pending ∧ !other.halted := by
      rw [x, unasked, running, sub_self, abs_zero]
      norm_num
    rw [requestAtGoal, if_pos there, requestTransition, state, goes]
  obtain ⟨requested, sent⟩ := resets_of_resetsLeft h.idle
  simp only [update, unexpired]
  split
  · rename_i outstanding
    rw [requested, sent, or_self] at outstanding
    cases outstanding
  · simp only [finishUpdate, h.resumeTime]
    split
    · rename_i resumeTime paused
      rw [paused] at resumed
      rw [if_neg (not_lt.mpr (of_decide_eq_true resumed))]
      exact asks _ h.state h.x (pending.trans unasked) (halted.trans running)
    · exact asks _ h.state h.x (pending.trans unasked) (halted.trans running)

theorem requestsLeft_eq_zero (h : self.pending = true ∨ self.state = .hardDock) :
    requestsLeft self = 0 := if_pos h

theorem requestsLeft_eq_one (unasked : self.pending = false) (moving : self.state ≠ .hardDock) :
    requestsLeft self = 1 := by
  refine if_neg (not_or.mpr ⟨?_, moving⟩)
  rw [unasked]
  exact Bool.false_ne_true

theorem update_state_eq (unexpired : expireRequest p tick self = self) :
    (update p tick self).1.state = (advancePose p tick self).1.state := by
  have same := update_motion p tick self
  rw [unexpired] at same
  exact motion_state same

theorem requestsLeft_update_le (unexpired : expireRequest p tick self = self) :
    requestsLeft (update p tick self).1 ≤ requestsLeft (advancePose p tick self).1 := by
  obtain ⟨pending, -⟩ := advancePose_waits p tick self
  by_cases docked : (advancePose p tick self).1.state = .hardDock
  · rw [requestsLeft_eq_zero (.inr ((update_state_eq unexpired).trans docked))]
    exact Nat.zero_le _
  · cases asked : self.pending with
    | true =>
      rw [requestsLeft_eq_zero (.inl ((update_waits unexpired).2 asked))]
      exact Nat.zero_le _
    | false =>
      rw [requestsLeft_eq_one (pending.trans asked) docked]
      exact requestsLeft_le _

theorem rank_update (unexpired : expireRequest p tick self = self) :
    rank p (update p tick self).1 + requestsLeft (advancePose p tick self).1 =
      rank p (advancePose p tick self).1 + requestsLeft (update p tick self).1 := by
  have same := update_motion p tick self
  rw [unexpired] at same
  exact rank_of_motion same

/-- An update does not make more of the way. -/
theorem rank_update_le (rate : 0 < p.updateRateHz) (speed : 0 < p.approachSpeedMps)
    (bounded : self.motion.Bounded) (forward : self.motion.Forward)
    (unexpired : expireRequest p tick self = self)
    (undisturbed : tick.outcome = .waiting ∨ tick.outcome = .success) :
    rank p (update p tick self).1 ≤ rank p self := by
  have moves := rank_advancePose_le rate speed bounded forward undisturbed
  have requests := requestsLeft_update_le unexpired
  have total := rank_update unexpired
  omega

/-- An update without a request in flight makes less of it. -/
theorem rank_update_lt (rate : 0 < p.updateRateHz) (speed : 0 < p.approachSpeedMps)
    (bounded : self.motion.Bounded) (forward : self.motion.Forward)
    (unexpired : expireRequest p tick self = self) (ready : tick.serviceIsReady = true)
    (success : tick.outcome = .success) (unasked : self.pending = false)
    (running : self.halted = false) (resumed : self.resumeTime.all (· ≤ tick.resumed) = true) :
    rank p (update p tick self).1 ≤ rank p self - 1 := by
  have requests := requestsLeft_update_le unexpired
  have total := rank_update unexpired
  rcases rank_advancePose_lt rate speed bounded forward ready success with less | goal
  · omega
  · obtain ⟨pending, -⟩ := advancePose_waits p tick self
    have lower := goal.rank_le
    cases goes : nextState self.state with
    | some next =>
      have moving : (advancePose p tick self).1.state ≠ .hardDock := by
        rw [goal.state]
        intro docked
        rw [docked] at goes
        cases goes
      have left := requestsLeft_eq_one (pending.trans unasked) moving
      have asked := requestsLeft_eq_zero (.inl (goal.asks unexpired unasked running resumed goes))
      omega
    | none =>
      have docked : self.state = .hardDock := by
        cases state : self.state <;> rw [state] at goes <;> first | rfl | cases goes
      have arrived : rank p (advancePose p tick self).1 = 0 := by
        have steps : stepsLeft p (advancePose p tick self).1 = 0 := by
          rw [stepsLeft, goal.state, goal.x, sub_self, stepsIn, zero_div, Nat.ceil_zero]
        rw [rank, rankInStage, goal.idle, steps, goal.calls, goal.state, docked,
          requestsLeft_eq_zero (.inr (goal.state.trans docked))]
        simp only [stagesLeft, Nat.zero_mul, Nat.add_zero]
      omega

/-- An approval. -/
theorem rank_onDecision_lt (rate : 0 < p.updateRateHz) (speed : 0 < p.approachSpeedMps)
    (forward : self.motion.Forward) {decision : TransitionDecision} {next : Stage}
    (approves : Approves decision self next)
    (eq : onDecision decision self =
      { self with state := next, pending := false, requestTime := none }) :
    rank p (onDecision decision self) < rank p self := by
  apply rank_lt_of_stages rate speed (forward.onDecision decision)
  · rw [eq]
    rfl
  · rw [eq]
    exact approves.goes

end

/-! ### Runs without a disturbance -/

/-- The request in flight is given up. -/
def expires (p : Parameters) (tick : Tick) (self : Controller) : Bool :=
  self.pending && self.requestTime.any fun requestTime =>
    decide (p.decisionTimeoutS < ((tick.checked - requestTime : Int) : ℚ) / 10 ^ 9)

/-- No request is given up or denied, no pose is rejected or fails, and nothing resets the run. -/
def undisturbed (p : Parameters) (e : ControllerEvent) : Bool :=
  match e.call with
  | .update tick =>
    (tick.outcome == .waiting || tick.outcome == .success) && !expires p tick e.before
  | .decision decision =>
    !e.before.pending || decision.approved &&
      (nextState e.before.state).any (·.number == decision.resultingState)
  | .reset | .run _ | .prepare => false

/-- An approval, or an update without a request in flight that finds the service ready, the last pose
acknowledged and the time to resume come. -/
def advances (e : ControllerEvent) : Bool :=
  match e.call with
  | .update tick =>
    tick.serviceIsReady && tick.outcome == .success && !e.before.pending &&
      e.before.resumeTime.all (· ≤ tick.resumed)
  | .decision _ => e.before.pending
  | .reset | .run _ | .prepare => false

/-- A controller that runs. -/
structure Going (controller : Controller) : Prop where
  bounded : controller.motion.Bounded
  forward : controller.motion.Forward
  running : controller.halted = false

/-- At the end of the way. -/
structure Docked (controller : Controller) : Prop where
  state : controller.state = .hardDock
  x : controller.x = goalX .hardDock
  requested : controller.resetRequested = false
  sent : controller.resetPosePending = false

section

variable {p : Parameters} {self : Controller} {tick : Tick}

theorem expireRequest_eq_self (h : expires p tick self = false) :
    expireRequest p tick self = self := by
  unfold expireRequest
  split
  · rename_i requestTime asked
    refine if_neg fun late => ?_
    simp only [expires, asked, late.1, Option.any_some, Bool.true_and, decide_eq_false_iff_not] at h
    exact h late.2
  · rfl

/-- One event. -/
theorem Going.step (rate : 0 < p.updateRateHz) (speed : 0 < p.approachSpeedMps) (h : Going self)
    {input : Input} (calm : undisturbed p (Run.event (step p) self input) = true) :
    Going (step p self input).2 ∧ rank p (step p self input).2 ≤ rank p self ∧
      (advances (Run.event (BaselineController.step p) self input) = true →
        rank p (BaselineController.step p self input).2 ≤ rank p self - 1) := by
  have bounded := (step_bounded rate speed.le h.bounded input).1
  have forward := h.forward.step rate speed.le h.bounded input
  cases input with
  | update tick =>
    obtain ⟨outcome, unexpired⟩ := Bool.and_eq_true_iff.mp calm
    have unexpired := expireRequest_eq_self (Bool.not_inj unexpired)
    have outcome : tick.outcome = .waiting ∨ tick.outcome = .success :=
      ((Bool.or_eq_true ..).mp outcome).imp eq_of_beq eq_of_beq
    refine ⟨⟨bounded, forward, (update_waits unexpired).1.trans h.running⟩, ?_, ?_⟩
    · exact rank_update_le rate speed h.bounded h.forward unexpired outcome
    · intro counts
      obtain ⟨counts, resumed⟩ := Bool.and_eq_true_iff.mp counts
      obtain ⟨counts, unasked⟩ := Bool.and_eq_true_iff.mp counts
      obtain ⟨ready, success⟩ := Bool.and_eq_true_iff.mp counts
      exact rank_update_lt rate speed h.bounded h.forward unexpired ready (eq_of_beq success)
        (Bool.not_inj unasked) h.running resumed
  | decision decision =>
    rcases onDecision_effect decision self with ⟨idle, eq⟩ | ⟨next, approves, eq⟩ |
      ⟨pending, denied, -⟩
    · refine ⟨⟨bounded, forward, ?_⟩, ?_, ?_⟩
      · exact (congrArg Controller.halted eq).trans h.running
      · exact (congrArg (rank p) eq).le
      · intro pending
        cases idle.symm.trans pending
    · have less := rank_onDecision_lt rate speed h.forward approves eq
      refine ⟨⟨bounded, forward, ?_⟩, less.le, fun _ => Nat.le_sub_one_of_lt less⟩
      exact (congrArg Controller.halted eq).trans h.running
    · simp only [undisturbed, Run.event, pending, Bool.not_true, Bool.false_or,
        Bool.and_eq_true, Option.any_eq_true_iff_get] at calm
      obtain ⟨approved, some_next, resulting⟩ := calm
      exact absurd ⟨pending, (Option.some_get some_next).symm, approved, (eq_of_beq resulting).symm⟩
        (denied _)
  | reset | run data | prepare => cases calm

/-- All of them. -/
theorem Going.run (rate : 0 < p.updateRateHz) (speed : 0 < p.approachSpeedMps) (h : Going self)
    (inputs : List Input)
    (calm : ∀ e ∈ Run.history (BaselineController.step p) self inputs, undisturbed p e = true) :
    Going (Run.state (BaselineController.step p) self inputs) ∧
      ∀ e ∈ Run.history (BaselineController.step p) self inputs, rank p e.after ≤ rank p e.before ∧
        (advances e = true → rank p e.after ≤ rank p e.before - 1) := by
  induction inputs with
  | nil => exact ⟨h, fun e mem => by cases mem⟩
  | cons input inputs ih =>
    obtain ⟨last, calm⟩ := List.forall_mem_cons.mp calm
    obtain ⟨going, ranks⟩ := ih calm
    obtain ⟨going', rank_le, rank_lt⟩ := going.step rate speed last
    exact ⟨going', List.forall_mem_cons.mpr ⟨⟨rank_le, rank_lt⟩, ranks⟩⟩

/-- With nothing left the chaser is docked. -/
theorem Going.docked (rate : 0 < p.updateRateHz) (speed : 0 < p.approachSpeedMps) (h : Going self)
    (left : rank p self = 0) : Docked self := by
  have length : 0 < stageLength p := Nat.succ_pos _
  obtain ⟨rest, inStage⟩ := Nat.add_eq_zero_iff.mp left
  obtain ⟨resets, stages⟩ := Nat.add_eq_zero_iff.mp rest
  have resets : resetsLeft self = 0 := (Nat.mul_eq_zero.mp resets).resolve_right (by omega)
  have stages : stagesLeft self.state = 0 := (Nat.mul_eq_zero.mp stages).resolve_right (by omega)
  have steps : stepsLeft p self = 0 := by
    unfold rankInStage at inStage
    omega
  have state : self.state = .hardDock := by
    cases state : self.state <;> rw [state] at stages <;> first | rfl | cases stages
  have near : goalX self.state - self.x ≤ 0 := by
    have none_left := Nat.ceil_eq_zero.mp steps
    by_contra way
    exact absurd (div_pos (not_le.mp way) (shortestStep_pos rate speed)) (not_lt.mpr none_left)
  have there : self.x = goalX .hardDock :=
    state ▸ le_antisymm h.bounded.x_le (sub_nonpos.mp near)
  obtain ⟨requested, sent⟩ := resets_of_resetsLeft resets
  exact ⟨state, there, requested, sent⟩

/-! ### The hard dock -/

theorem Docked.of_motion {other : Controller} (h : Docked other) (same : self.motion = other.motion) :
    Docked self where
  state := (motion_state same).trans h.state
  x := (congrArg Motion.x same).trans h.x
  requested := (congrArg Motion.resetRequested same).trans h.requested
  sent := (congrArg Motion.resetPosePending same).trans h.sent

theorem Docked.sendPose (h : Docked self) : Docked (sendPose p self).1 := by
  rw [sendPose_move h.requested]
  exact ⟨h.state, h.x, h.requested, h.sent⟩

/-- Whatever the pose service answers. -/
theorem Docked.advancePose (h : Docked self) (bounded : self.motion.Bounded)
    (forward : self.motion.Forward) : Docked (advancePose p tick self).1 := by
  rcases advancePose_cases p tick self with eq | ⟨-, eq⟩ | ⟨call, -, flying, -, eq⟩
  · rw [eq]
    exact h
  · rw [eq]
    exact h.sendPose
  · rw [eq]
    have settled := settlePose_motion p tick call self
    have further : self.x ≤ call.pendingX := forward.x_le_call h.sent call flying
    have near : call.pendingX ≤ goalX self.state := bounded.call_le call flying
    rw [h.x] at further
    rw [h.state] at near
    have state : (settlePose p tick call self).state = .hardDock :=
      (congrArg Motion.state settled).trans
        ((if_neg fun both => by cases h.sent.symm.trans both.2).trans h.state)
    have x : (settlePose p tick call self).x = goalX .hardDock := by
      by_cases success : tick.outcome = .success
      · exact (congrArg Motion.x settled).trans ((if_pos success).trans (le_antisymm near further))
      · exact (congrArg Motion.x settled).trans ((if_neg success).trans h.x)
    have requested : (settlePose p tick call self).resetRequested = false := by
      rw [settlePose_resetRequested, h.requested, h.sent, Bool.and_false, Bool.or_false]
    exact Docked.sendPose ⟨state, x, requested, settlePose_resetPosePending call⟩

/-- A docked controller reports what the docking monitor waits for. -/
theorem Docked.reports (h : Docked self) (bounded : self.motion.Bounded)
    (forward : self.motion.Forward) : ∃ status, .status status ∈ (update p tick self).2 ∧
      DockingMonitor.onStatus (.ofStatus status) = .error {} := by
  have same := expireRequest_motion p tick self
  have docked : Docked (BaselineController.advancePose p tick (expireRequest p tick self)).1 :=
    (h.of_motion same).advancePose (same.symm ▸ bounded) (same.symm ▸ forward)
  obtain ⟨status, published, state, rangeM⟩ : ∃ status, publishStatus tick
      (BaselineController.advancePose p tick (expireRequest p tick self)).1 = .status status ∧
      status.state = Stage.hardDock.number ∧ status.rangeM = 0 := by
    refine ⟨_, rfl, congrArg Stage.number docked.state, ?_⟩
    simp only [docked.x]
    norm_num [goalX]
  refine ⟨status, ?_, if_pos ⟨state, ?_⟩⟩
  · simp only [update]
    split
    · rename_i outstanding
      rw [docked.requested, docked.sent, or_self] at outstanding
      cases outstanding
    · rw [published]
      exact List.mem_append_right _ (.head _)
  · simp only [StatusMessage.ofStatus, rangeM, JsonFloat.le]
    norm_num

end

/-- From any state in which the controller runs: after `updatesNeeded` events that advance it, with no
disturbance meanwhile, it is docked, and each of its updates reports what the docking monitor waits
for. An update advances it only when the time to resume has come. Positions are exact numbers: a
speed that rounding would lose moves the vehicle here. -/
theorem hardDock_reached (p : Parameters) (rate : 0 < p.updateRateHz)
    (speed : 0 < p.approachSpeedMps) (now : Int) (earlier later : List Input)
    (running : (Run.state (step p) (.init p now) earlier).halted = false)
    (calm : ∀ e ∈ Run.history (step p) (Run.state (step p) (.init p now) earlier) later,
      undisturbed p e = true)
    (enough : updatesNeeded p ≤
      (Run.history (step p) (Run.state (step p) (.init p now) earlier) later).countP advances) :
    Docked (Run.state (step p) (.init p now) (later ++ earlier)) ∧
      ∀ tick, ∃ status,
        .status status ∈ (update p tick (Run.state (step p) (.init p now) (later ++ earlier))).2 ∧
        DockingMonitor.onStatus (.ofStatus status) = .error {} := by
  have reachable := Run.invariant (step p) (.init p now)
    (I := fun _ self => self.motion.Bounded ∧ self.motion.Forward)
    ⟨init_bounded p now, init_forward p now⟩
    (fun _ self input ⟨bounded, forward⟩ => ⟨(step_bounded rate speed.le bounded input).1,
      forward.step rate speed.le bounded input⟩) earlier
  have going : Going (Run.state (step p) (.init p now) earlier) :=
    ⟨reachable.1, reachable.2, running⟩
  rw [Run.state_append]
  obtain ⟨arrived, ranks⟩ := going.run rate speed later calm
  have left := Run.rank_state_le (rank p) advances ranks
  have bound := rank_le rate speed going.forward
  have docked := arrived.docked rate speed (by omega)
  exact ⟨docked, fun tick => docked.reports arrived.bounded arrived.forward⟩

/-- One update in a thousand seconds. -/
def slow : Parameters := { updateRateHz := 1 / 1000 }

/-- An update that finds the last pose acknowledged, ten seconds after the start. -/
def acknowledged : Input := .update { tickWith .success with resumed := 10000000000 }

def approve (stage : Stage) : Input :=
  .decision { TransitionChannel.approval with resultingState := stage.number }

/-- The stages, with some updates in each, and the updates after them. -/
def cruise : List Input :=
  List.replicate 60 acknowledged ++
    [Stage.hardDock, .softCapture, .finalApproach, .approach].flatMap fun stage =>
      approve stage :: List.replicate 4 acknowledged

theorem updatesNeeded_slow : updatesNeeded slow = 60 := by
  decide +kernel

/-- A whole run. -/
theorem hardDock_reached_slow :
    Docked (Run.state (step slow) (.init slow 0) (cruise ++ [.run "nominal"])) := by
  have calm : ((Run.history (step slow) (Run.state (step slow) (.init slow 0) [.run "nominal"])
      cruise).all (undisturbed slow)) = true := by
    decide +kernel
  refine (hardDock_reached slow (by norm_num [slow]) (by norm_num [slow]) 0 [.run "nominal"] cruise
    rfl (List.all_eq_true.mp calm) ?_).1
  rw [updatesNeeded_slow]
  decide +kernel

end Access.BaselineController
