import Mathlib.Algebra.Order.AbsoluteValue.Basic
import Mathlib.Tactic.Linarith
import Mathlib.Tactic.NormNum
import Access.BaselineController

/-! # Motion of the baseline controller

The position acknowledged last and the pose in flight are not beyond the goal of the state:
`Bounded`. A stage forward moves the goal forward, and the state goes back only when the answer to a
reset pose has put the position at the first goal, with no call in flight. -/

namespace Access.BaselineController

open StationAccess (TransitionDecision)

/-! ### Goals and steps -/

theorem goalX_hold_le (state : Stage) : goalX .hold ≤ goalX state := by
  cases state <;> norm_num [goalX]

theorem goalX_le_next {state next : Stage} (h : nextState state = some next) :
    goalX state ≤ goalX next := by
  cases state <;> cases h <;> norm_num [goalX]

theorem stepLength_nonneg {p : Parameters} (rate : 0 < p.updateRateHz)
    (speed : 0 ≤ p.approachSpeedMps) (state : Stage) : 0 ≤ stepLength p state := by
  have limit : 0 ≤ maxStageSpeedMps state := by
    cases state <;> norm_num [maxStageSpeedMps]
  exact div_nonneg (le_min speed limit) rate.le

/-- From behind the goal, the next position is one step nearer, or the goal. -/
theorem nextX_eq {p : Parameters} {self : Controller} (h : self.x ≤ goalX self.state)
    (step : 0 ≤ stepLength p self.state) :
    nextX p self = self.x + min (goalX self.state - self.x) (stepLength p self.state) := by
  have ahead : 0 ≤ goalX self.state - self.x := sub_nonneg.mpr h
  simp only [nextX, copysign, abs_of_nonneg ahead]
  rw [if_neg (not_lt.mpr ahead), abs_of_nonneg (le_min ahead step)]

theorem le_nextX {p : Parameters} {self : Controller} (h : self.x ≤ goalX self.state)
    (step : 0 ≤ stepLength p self.state) : self.x ≤ nextX p self := by
  rw [nextX_eq h step]
  have := le_min (sub_nonneg.mpr h) step
  linarith

theorem nextX_le {p : Parameters} {self : Controller} (h : self.x ≤ goalX self.state)
    (step : 0 ≤ stepLength p self.state) : nextX p self ≤ goalX self.state := by
  rw [nextX_eq h step]
  have := min_le_left (goalX self.state - self.x) (stepLength p self.state)
  linarith

theorem nextX_sub_le {p : Parameters} {self : Controller} (h : self.x ≤ goalX self.state)
    (step : 0 ≤ stepLength p self.state) : nextX p self - self.x ≤ stepLength p self.state := by
  rw [nextX_eq h step]
  have := min_le_right (goalX self.state - self.x) (stepLength p self.state)
  linarith

/-! ### Where the chaser is and is sent -/

/-- What of a controller its motion depends on. -/
structure Motion where
  state : Stage
  x : ℚ
  poseCall : Option PoseCall
  resetRequested : Bool
  resetPosePending : Bool

def Controller.motion (self : Controller) : Motion where
  state := self.state
  x := self.x
  poseCall := self.poseCall
  resetRequested := self.resetRequested
  resetPosePending := self.resetPosePending

structure Motion.Bounded (m : Motion) : Prop where
  x_le : m.x ≤ goalX m.state
  call_le : ∀ call, m.poseCall = some call → call.pendingX ≤ goalX m.state
  reset : m.resetPosePending = true → ∃ call, m.poseCall = some call ∧ call.pendingX = goalX .hold

@[simp] theorem expireRequest_motion (p : Parameters) (tick : Tick) (self : Controller) :
    (expireRequest p tick self).motion = self.motion := by
  unfold expireRequest
  split
  · split <;> rfl
  · rfl

@[simp] theorem requestTransition_motion (tick : Tick) (self : Controller) :
    (requestTransition tick self).1.motion = self.motion := by
  unfold requestTransition
  split <;> rfl

@[simp] theorem requestAtGoal_motion (tick : Tick) (goal : ℚ) (self : Controller) :
    (requestAtGoal tick goal self).1.motion = self.motion := by
  unfold requestAtGoal
  split
  · rw [requestTransition_motion]
  · rfl

@[simp] theorem finishUpdate_motion (tick : Tick) (goal : ℚ) (self : Controller) :
    (finishUpdate tick goal self).1.motion = self.motion := by
  unfold finishUpdate
  split
  · split
    · rfl
    · rw [requestAtGoal_motion]
      rfl
  · rw [requestAtGoal_motion]

theorem motion_state {self other : Controller} (h : self.motion = other.motion) :
    self.state = other.state :=
  congrArg Motion.state h

/-- A decision changes the state only by one stage, when it was asked for and approves it. -/
theorem onDecision_cases (decision : TransitionDecision) (self : Controller) :
    (onDecision decision self).motion = self.motion ∨
    ∃ next, self.pending = true ∧ nextState self.state = some next ∧ decision.approved = true ∧
      decision.resultingState = next.number ∧
      (onDecision decision self).motion = { self.motion with state := next } := by
  unfold onDecision
  cases pending : self.pending with
  | false => exact .inl rfl
  | true =>
    cases h : nextState self.state with
    | none => exact .inl rfl
    | some next =>
      by_cases approves : decision.approved ∧ decision.resultingState = next.number
      · right
        refine ⟨next, rfl, rfl, approves.1, approves.2, ?_⟩
        simp only [if_pos approves]
        rfl
      · left
        simp only [if_neg approves]
        rfl

theorem Motion.Bounded.advance {m : Motion} (h : m.Bounded) {next : Stage}
    (goes : nextState m.state = some next) : ({ m with state := next } : Motion).Bounded where
  x_le := h.x_le.trans (goalX_le_next goes)
  call_le call flying := (h.call_le call flying).trans (goalX_le_next goes)
  reset := h.reset

theorem Motion.Bounded.onDecision {self : Controller} (h : self.motion.Bounded)
    (decision : TransitionDecision) : (onDecision decision self).motion.Bounded := by
  rcases onDecision_cases decision self with eq | ⟨next, -, goes, -, -, eq⟩
  · rw [eq]
    exact h
  · rw [eq]
    exact h.advance goes

theorem Motion.Bounded.requestReset {self : Controller} (h : self.motion.Bounded)
    (startAfterReset : Bool) : (requestReset startAfterReset self).motion.Bounded :=
  ⟨h.x_le, h.call_le, h.reset⟩

/-! ### Pose requests -/

/-- What an answered call does to the motion: it takes the chaser where it was sent, or leaves it;
the state goes back with the pose of a reset, and a rejected one is asked for again. -/
theorem settlePose_motion (p : Parameters) (tick : Tick) (call : PoseCall) (self : Controller) :
    (settlePose p tick call self).motion =
      { state := if tick.outcome = .success ∧ self.resetPosePending then .hold else self.state
        x := if tick.outcome = .success then call.pendingX else self.x
        poseCall := none
        resetRequested :=
          self.resetRequested || (tick.outcome = .rejected && self.resetPosePending)
        resetPosePending := false } := by
  unfold settlePose
  cases tick.outcome <;> cases self.resetPosePending <;> simp [Controller.motion]

theorem Motion.Bounded.settlePose {p : Parameters} {tick : Tick} {call : PoseCall}
    {self : Controller} (h : self.motion.Bounded) (flying : self.poseCall = some call) :
    (settlePose p tick call self).motion.Bounded := by
  rw [settlePose_motion]
  refine ⟨?_, ?_, ?_⟩
  · by_cases success : tick.outcome = .success
    · cases reset : self.resetPosePending with
      | true =>
        obtain ⟨sent, flying', at_hold⟩ := h.reset reset
        rw [show self.motion.poseCall = self.poseCall from rfl, flying] at flying'
        cases flying'
        simp [success, at_hold]
      | false =>
        simp only [if_pos success, if_neg (fun both => Bool.false_ne_true (And.right both))]
        exact h.call_le call flying
    · simp only [if_neg success, if_neg (fun both => success (And.left both))]
      exact h.x_le
  · intro sent flying'
    cases flying'
  · intro reset
    cases reset

/-- A pose that may be sent: the first goal for a reset, and otherwise a step towards the goal. -/
def Allowed (p : Parameters) (m : Motion) (x : ℚ) : Prop :=
  if m.resetPosePending then x = goalX .hold
  else m.x ≤ x ∧ x ≤ goalX m.state ∧
    x - m.x ≤ min p.approachSpeedMps (maxStageSpeedMps m.state) / p.updateRateHz

/-- The poses among what was sent are allowed, and are what is in flight. -/
def Commands (p : Parameters) (m : Motion) (sent : List Sent) : Prop :=
  ∀ x, .setPose x ∈ sent → m.poseCall = some { pendingX := x } ∧ Allowed p m x

variable {p : Parameters}

theorem sendPose_reset {self : Controller} (h : self.resetRequested = true) :
    sendPose p self =
      ({ self with
          poseCall := some { pendingX := goalX .hold }
          resetRequested := false
          resetPosePending := true },
        [.setPose (goalX .hold)]) := by
  rw [sendPose, if_pos h]

theorem sendPose_move {self : Controller} (h : self.resetRequested = false) :
    sendPose p self =
      ({ self with poseCall := some { pendingX := nextX p self } }, [.setPose (nextX p self)]) := by
  rw [sendPose, h, if_neg Bool.false_ne_true]

theorem sendPose_state {self : Controller} : (sendPose p self).1.state = self.state := by
  unfold sendPose
  split <;> rfl

/-- The call in flight was answered. -/
theorem advancePose_answered {tick : Tick} {self : Controller} {call : PoseCall}
    (ready : tick.serviceIsReady = true) (flying : self.poseCall = some call)
    (answered : tick.outcome ≠ .waiting) :
    advancePose p tick self = sendPose p (settlePose p tick call self) := by
  simp only [advancePose, ready, flying, if_neg answered]
  rfl

/-- Without the service or an answer nothing is done; otherwise the next pose is sent, after the
call in flight, if there is one, is settled. -/
theorem advancePose_cases (p : Parameters) (tick : Tick) (self : Controller) :
    advancePose p tick self = (self, []) ∨
    (self.poseCall = none ∧ advancePose p tick self = sendPose p self) ∨
    ∃ call, tick.serviceIsReady = true ∧ self.poseCall = some call ∧ tick.outcome ≠ .waiting ∧
      advancePose p tick self = sendPose p (settlePose p tick call self) := by
  cases ready : tick.serviceIsReady with
  | false =>
    left
    simp only [advancePose, ready]
    rfl
  | true =>
    cases flying : self.poseCall with
    | none =>
      refine .inr (.inl ⟨rfl, ?_⟩)
      simp only [advancePose, ready, flying]
      rfl
    | some call =>
      by_cases waiting : tick.outcome = .waiting
      · left
        simp only [advancePose, ready, flying, if_pos waiting]
        rfl
      · exact .inr (.inr ⟨call, rfl, rfl, waiting, advancePose_answered ready flying waiting⟩)

theorem sendPose_sent (p : Parameters) (self : Controller) :
    ∃ x, (sendPose p self).2 = [.setPose x] := by
  cases reset : self.resetRequested with
  | true => exact ⟨_, congrArg Prod.snd (sendPose_reset reset)⟩
  | false => exact ⟨_, congrArg Prod.snd (sendPose_move reset)⟩

/-- Nothing but a pose is sent. -/
theorem advancePose_sent (p : Parameters) (tick : Tick) (self : Controller) :
    ∀ sent ∈ (advancePose p tick self).2, ∃ x, sent = .setPose x := by
  intro sent mem
  rcases advancePose_cases p tick self with eq | ⟨-, eq⟩ | ⟨call, -, -, -, eq⟩
  · rw [eq] at mem
    cases mem
  · obtain ⟨x, pose⟩ := sendPose_sent p self
    rw [eq, pose] at mem
    exact ⟨x, List.mem_singleton.mp mem⟩
  · obtain ⟨x, pose⟩ := sendPose_sent p (settlePose p tick call self)
    rw [eq, pose] at mem
    exact ⟨x, List.mem_singleton.mp mem⟩

theorem sendPose_bounded (rate : 0 < p.updateRateHz) (speed : 0 ≤ p.approachSpeedMps)
    {self : Controller} (h : self.motion.Bounded) (idle : self.resetPosePending = false) :
    (sendPose p self).1.motion.Bounded ∧
    Commands p (sendPose p self).1.motion (sendPose p self).2 := by
  have step := stepLength_nonneg rate speed self.state
  cases reset : self.resetRequested with
  | true =>
    rw [sendPose_reset reset]
    refine ⟨⟨h.x_le, ?_, fun _ => ⟨_, rfl, rfl⟩⟩, ?_⟩
    · intro call flying
      cases flying
      exact goalX_hold_le self.state
    · intro x sent
      cases List.mem_singleton.mp sent
      exact ⟨rfl, rfl⟩
  | false =>
    rw [sendPose_move reset]
    refine ⟨⟨h.x_le, ?_, ?_⟩, ?_⟩
    · intro call flying
      cases flying
      exact nextX_le h.x_le step
    · intro flying
      cases idle.symm.trans flying
    · intro x sent
      cases List.mem_singleton.mp sent
      refine ⟨rfl, ?_⟩
      simp only [Allowed, Controller.motion, idle]
      exact ⟨le_nextX h.x_le step, nextX_le h.x_le step, nextX_sub_le h.x_le step⟩

theorem advancePose_bounded (rate : 0 < p.updateRateHz) (speed : 0 ≤ p.approachSpeedMps)
    {self : Controller} (h : self.motion.Bounded) (tick : Tick) :
    (advancePose p tick self).1.motion.Bounded ∧
    Commands p (advancePose p tick self).1.motion (advancePose p tick self).2 := by
  have silent : Commands p self.motion [] := by
    intro x sent
    cases sent
  rcases advancePose_cases p tick self with eq | ⟨flying, eq⟩ | ⟨call, -, flying, -, eq⟩
  · rw [eq]
    exact ⟨h, silent⟩
  · rw [eq]
    apply sendPose_bounded rate speed h
    cases reset : self.resetPosePending with
    | false => rfl
    | true =>
      obtain ⟨call, flying', -⟩ := h.reset reset
      cases flying.symm.trans flying'
  · rw [eq]
    apply sendPose_bounded rate speed (h.settlePose flying)
    rfl

theorem update_motion (p : Parameters) (tick : Tick) (self : Controller) :
    (update p tick self).1.motion = (advancePose p tick (expireRequest p tick self)).1.motion := by
  unfold update
  simp only
  split
  · rfl
  · simp only [finishUpdate_motion]

theorem setPose_finishUpdate {tick : Tick} {goal x : ℚ} {self : Controller} :
    .setPose x ∉ (finishUpdate tick goal self).2 := by
  have asks : ∀ other, .setPose x ∉ (requestAtGoal tick goal other).2 := by
    intro other
    unfold requestAtGoal requestTransition
    split
    · split <;> simp
    · simp
  unfold finishUpdate
  split
  · split
    · simp
    · exact asks _
  · exact asks _

theorem setPose_update {tick : Tick} {x : ℚ} {self : Controller}
    (sent : .setPose x ∈ (update p tick self).2) :
    .setPose x ∈ (advancePose p tick (expireRequest p tick self)).2 := by
  unfold update at sent
  simp only at sent
  split at sent
  · exact sent
  · rcases List.mem_append.mp sent with sent | sent
    · exact sent
    · rcases List.mem_cons.mp sent with status | sent
      · cases status
      · exact absurd sent setPose_finishUpdate

theorem update_bounded (rate : 0 < p.updateRateHz) (speed : 0 ≤ p.approachSpeedMps)
    {self : Controller} (h : self.motion.Bounded) (tick : Tick) :
    (update p tick self).1.motion.Bounded ∧
    Commands p (update p tick self).1.motion (update p tick self).2 := by
  have expired : (expireRequest p tick self).motion.Bounded := by
    rw [expireRequest_motion]
    exact h
  obtain ⟨bounded, commands⟩ := advancePose_bounded rate speed expired tick
  rw [update_motion]
  refine ⟨bounded, ?_⟩
  intro x sent
  exact commands x (setPose_update sent)

/-- The state goes back only with the pose of a reset. -/
theorem advancePose_state (p : Parameters) (tick : Tick) (self : Controller) :
    (advancePose p tick self).1.state = self.state ∨
      self.resetPosePending = true ∧ (advancePose p tick self).1.state = .hold := by
  rcases advancePose_cases p tick self with eq | ⟨-, eq⟩ | ⟨call, -, -, -, eq⟩
  · exact .inl (congrArg (·.1.state) eq)
  · rw [eq]
    exact .inl sendPose_state
  · rw [eq, sendPose_state]
    have settled := congrArg Motion.state (settlePose_motion p tick call self)
    by_cases reset : tick.outcome = .success ∧ self.resetPosePending
    · exact .inr ⟨reset.2, settled.trans (if_pos reset)⟩
    · exact .inl (settled.trans (if_neg reset))

theorem update_state (p : Parameters) (tick : Tick) (self : Controller) :
    (update p tick self).1.state = self.state ∨
      self.resetPosePending = true ∧ (update p tick self).1.state = .hold := by
  have before := expireRequest_motion p tick self
  rw [motion_state (update_motion p tick self), ← motion_state before]
  rcases advancePose_state p tick (expireRequest p tick self) with same | ⟨reset, hold⟩
  · exact .inl same
  · exact .inr ⟨(congrArg Motion.resetPosePending before).symm.trans reset, hold⟩

/-! ### Runs of the controller -/

/-- The state goes one stage forward on an approved decision that names the next stage while a
request is pending; otherwise it stays, or is the first one. -/
def Advances (e : ControllerEvent) : Prop :=
  e.after.state = e.before.state ∨ e.after.state = .hold ∨
  ∃ decision, e.call = .decision decision ∧ e.before.pending = true ∧
    nextState e.before.state = some e.after.state ∧ decision.approved = true ∧
    decision.resultingState = e.after.state.number

theorem step_advances (p : Parameters) (self : Controller) (input : Input) :
    Advances (Run.event (step p) self input) := by
  cases input with
  | update tick =>
    rcases update_state p tick self with same | ⟨-, hold⟩
    · exact .inl same
    · exact .inr (.inl hold)
  | decision decision =>
    rcases onDecision_cases decision self with eq | ⟨next, pending, goes, approved, resulting, eq⟩
    · exact .inl (motion_state eq)
    · have reached : (onDecision decision self).state = next := congrArg Motion.state eq
      refine .inr (.inr ⟨decision, rfl, pending, ?_, approved, ?_⟩)
      · exact goes.trans (congrArg some reached.symm)
      · exact resulting.trans (congrArg Stage.number reached.symm)
  | reset => exact .inl rfl
  | run data => exact .inl rfl
  | prepare => exact .inl rfl

theorem step_bounded (rate : 0 < p.updateRateHz) (speed : 0 ≤ p.approachSpeedMps)
    {self : Controller} (h : self.motion.Bounded) (input : Input) :
    (step p self input).2.motion.Bounded ∧
    Commands p (step p self input).2.motion (step p self input).1 := by
  cases input with
  | update tick => exact update_bounded rate speed h tick
  | decision decision =>
    refine ⟨h.onDecision decision, ?_⟩
    intro x sent
    cases sent
  | reset | run data | prepare =>
    refine ⟨h.requestReset _, ?_⟩
    intro x sent
    cases sent

theorem init_bounded (p : Parameters) (now : Int) : (Controller.init p now).motion.Bounded where
  x_le := le_rfl
  call_le := by
    intro call flying
    cases flying
  reset := by
    intro reset
    cases reset

/-- In every run, the position acknowledged last and the pose in flight are not beyond the goal of
the state, every pose sent is the first goal for a reset or a bounded step towards the goal, and the
state goes forward one stage at a time on decisions that were asked for. -/
theorem motion_within_stage (p : Parameters) (rate : 0 < p.updateRateHz)
    (speed : 0 ≤ p.approachSpeedMps) (now : Int) (inputs : List Input) :
    let self := Run.state (step p) (.init p now) inputs
    self.x ≤ goalX self.state ∧
    (∀ call, self.poseCall = some call → call.pendingX ≤ goalX self.state) ∧
    ∀ e ∈ Run.history (step p) (.init p now) inputs,
      Commands p e.after.motion e.reply ∧ Advances e := by
  have run := Run.invariant (step p) (.init p now)
    (I := fun es self => self.motion.Bounded ∧
      ∀ e ∈ es, Commands p e.after.motion e.reply ∧ Advances e)
    ⟨init_bounded p now, by intro e he; cases he⟩
    (by
      intro es self input ⟨bounded, sent⟩
      obtain ⟨bounded', commands⟩ := step_bounded rate speed bounded input
      refine ⟨bounded', ?_⟩
      intro e he
      rcases List.mem_cons.mp he with rfl | he
      · exact ⟨commands, step_advances p self input⟩
      · exact sent e he)
    inputs
  exact ⟨run.1.x_le, run.1.call_le, run.2⟩

/-- The parameters as they are declared, with the pose of a reset sent. -/
theorem motion_within_stage_declared :
    let p : Parameters := {}
    let tick : Tick := ⟨0, 0, 0, 0, 0, true, .success⟩
    let self := Run.state (step p) (.init p 0) [.update tick, .reset, .update tick]
    self.x ≤ goalX self.state := by
  intro p tick self
  have rate : 0 < p.updateRateHz := by norm_num [p]
  have speed : 0 ≤ p.approachSpeedMps := by norm_num [p]
  exact (motion_within_stage p rate speed 0 [.update tick, .reset, .update tick]).1

end Access.BaselineController
