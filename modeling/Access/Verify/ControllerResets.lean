import Access.Verify.BaselineController

/-! # Resets of the baseline controller

A message that asks for a reset makes one outstanding: it is requested, or its pose is in flight
(`Outstanding`). An update that finds the pose rejected asks for it again, and one that finds it
acknowledged ends the reset. But one that finds an exception forgets it. -/

namespace Access.BaselineController

variable {p : Parameters} {tick : Tick} {self : Controller}

/-- The messages that ask for a reset. -/
def Input.Resets : Input → Prop
  | .reset | .run _ | .prepare => True
  | .update _ | .decision _ => False

/-- A reset pose is in flight. -/
structure Motion.Resetting (m : Motion) : Prop where
  pending : m.resetPosePending = true
  call : m.poseCall = some { pendingX := goalX .hold }

/-- A reset was asked for, and its pose is not acknowledged yet. -/
def Motion.Outstanding (m : Motion) : Prop := m.resetRequested = true ∨ m.Resetting

/-- A timer update finds the reset pose that is in flight answered. -/
structure Answered (m : Motion) (tick : Tick) (outcome : PoseOutcome) : Prop where
  ready : tick.serviceIsReady = true
  outcome : tick.outcome = outcome
  resetting : m.Resetting

/-! ### Pose requests of a reset -/

theorem settlePose_resetRequested (call : PoseCall) :
    (settlePose p tick call self).resetRequested =
      (self.resetRequested || (tick.outcome = .rejected && self.resetPosePending)) :=
  congrArg Motion.resetRequested (settlePose_motion p tick call self)

theorem settlePose_resetPosePending (call : PoseCall) :
    (settlePose p tick call self).resetPosePending = false :=
  congrArg Motion.resetPosePending (settlePose_motion p tick call self)

theorem settlePose_state (call : PoseCall) (success : tick.outcome = .success)
    (reset : self.resetPosePending = true) : (settlePose p tick call self).state = .hold :=
  (congrArg Motion.state (settlePose_motion p tick call self)).trans (if_pos ⟨success, reset⟩)

theorem sendPose_outstanding (h : self.resetRequested = true) :
    (sendPose p self).1.motion.Outstanding := by
  rw [sendPose_reset h]
  exact .inr ⟨rfl, rfl⟩

theorem sendPose_resetPosePending (idle : self.resetPosePending = false) :
    (sendPose p self).1.resetPosePending = self.resetRequested := by
  cases asked : self.resetRequested with
  | true => rw [sendPose_reset asked]
  | false =>
    rw [sendPose_move asked]
    exact idle

/-- An outstanding reset stays outstanding, or is acknowledged, unless an exception ends it. -/
theorem advancePose_outstanding (h : self.motion.Outstanding)
    (kept : Answered self.motion tick .failed → self.resetRequested = true) :
    (advancePose p tick self).1.motion.Outstanding ∨
      Answered self.motion tick .success ∧ (advancePose p tick self).1.state = .hold := by
  rcases advancePose_cases p tick self with
    eq | ⟨flying, eq⟩ | ⟨call, ready, flying, answered, eq⟩
  · rw [eq]
    exact .inl h
  · rcases h with requested | resetting
    · rw [eq]
      exact .inl (sendPose_outstanding requested)
    · cases flying.symm.trans resetting.call
  · rw [eq]
    cases asked : (settlePose p tick call self).resetRequested with
    | true => exact .inl (sendPose_outstanding asked)
    | false =>
      -- Nothing asks for the reset any more: its pose was answered, and not rejected.
      right
      rw [settlePose_resetRequested] at asked
      obtain ⟨unasked, accepted⟩ := Bool.or_eq_false_iff.mp asked
      rcases h with requested | resetting
      · cases unasked.symm.trans requested
      · have pending : self.resetPosePending = true := resetting.pending
        have success : tick.outcome = .success := by
          cases outcome : tick.outcome with
          | success => rfl
          | waiting => exact absurd outcome answered
          | rejected =>
            rw [outcome, pending] at accepted
            cases accepted
          | failed => cases unasked.symm.trans (kept ⟨ready, outcome, resetting⟩)
        refine ⟨⟨ready, success, resetting⟩, ?_⟩
        rw [sendPose_state]
        exact settlePose_state call success pending

/-- A reset that fails is sent again if its pose was rejected or a reset is asked for. -/
theorem advancePose_retries {outcome : PoseOutcome} (h : Answered self.motion tick outcome)
    (answered : outcome ≠ .waiting) :
    (advancePose p tick self).1.resetPosePending =
      (self.resetRequested || decide (outcome = .rejected)) := by
  have pending : self.resetPosePending = true := h.resetting.pending
  rw [advancePose_answered h.ready h.resetting.call (h.outcome ▸ answered),
    sendPose_resetPosePending (settlePose_resetPosePending _), settlePose_resetRequested, pending,
    h.outcome, Bool.and_true]

/-- With no reset pose in flight before, one in flight after was sent. -/
theorem setPose_of_retries {outcome : PoseOutcome} (h : Answered self.motion tick outcome)
    (answered : outcome ≠ .waiting)
    (retries : (advancePose p tick self).1.resetPosePending = true) :
    .setPose (goalX .hold) ∈ (advancePose p tick self).2 := by
  rw [advancePose_answered h.ready h.resetting.call (h.outcome ▸ answered)] at retries ⊢
  rw [sendPose_resetPosePending (settlePose_resetPosePending _)] at retries
  rw [sendPose_reset retries]
  exact .head _

/-! ### One update -/

def Sent.isTransitionRequest : Sent → Bool
  | .transitionRequest _ => true
  | .status _ | .setPose _ => false

/-- The controller asks for the next stage. -/
def Requests (sent : List Sent) : Prop := sent.any Sent.isTransitionRequest = true

theorem not_requests_advancePose : ¬Requests (advancePose p tick self).2 := by
  intro requests
  obtain ⟨sent, mem, requests⟩ := List.any_eq_true.mp requests
  obtain ⟨x, rfl⟩ := advancePose_sent p tick self sent mem
  cases requests

/-- An update that leaves a reset outstanding has sent nothing but poses. -/
theorem update_outstanding (h : (update p tick self).1.motion.Outstanding) :
    (update p tick self).2 = (advancePose p tick (expireRequest p tick self)).2 := by
  rw [update_motion] at h
  have flagged : (advancePose p tick (expireRequest p tick self)).1.resetRequested = true ∨
      (advancePose p tick (expireRequest p tick self)).1.resetPosePending = true := by
    rcases h with requested | resetting
    · exact .inl requested
    · exact .inr resetting.pending
  simp only [update, if_pos flagged]

theorem setPose_subset_update {x : ℚ}
    (sent : .setPose x ∈ (advancePose p tick (expireRequest p tick self)).2) :
    .setPose x ∈ (update p tick self).2 := by
  simp only [update]
  split
  · exact sent
  · exact List.mem_append_left _ sent

/-! ### Runs after a message -/

/-- An update finds a reset pose answered. -/
def Settles (e : ControllerEvent) (outcome : PoseOutcome) : Prop :=
  ∃ tick, e.call = .update tick ∧ Answered e.before.motion tick outcome

/-- A reset pose is acknowledged, and the state returns to the first one. -/
def Acknowledges (e : ControllerEvent) : Prop := Settles e .success ∧ e.after.state = .hold

/-- A failed attempt is followed by another one at once. -/
def Retries (e : ControllerEvent) : Prop :=
  e.after.resetPosePending = true ∧ .setPose (goalX .hold) ∈ e.reply

/-- An exception ends a reset pose only where another reset has been asked for since. -/
def Recovers (e : ControllerEvent) : Prop := Settles e .failed → e.before.resetRequested = true

/-- A reset is not lost: nothing is requested before it is acknowledged, and no failure ends it. -/
structure Kept (es : List ControllerEvent) : Prop where
  acknowledged : ∀ e earlier, e :: earlier <:+ es → Requests e.reply →
    ∃ e' ∈ e :: earlier, Acknowledges e'
  retried : ∀ e ∈ es, Settles e .rejected ∨ Settles e .failed → Retries e

theorem retries_iff {input : Input} {outcome : PoseOutcome} (answered : outcome ≠ .waiting)
    (h : Settles (Run.event (step p) self input) outcome) :
    Retries (Run.event (step p) self input) ↔
      outcome = .rejected ∨ self.resetRequested = true := by
  obtain ⟨tick, asked, found⟩ := h
  cases asked
  have found : Answered (expireRequest p tick self).motion tick outcome := by
    rw [expireRequest_motion]
    exact found
  have flag : (update p tick self).1.resetPosePending =
      (self.resetRequested || decide (outcome = .rejected)) := by
    have same := congrArg Motion.resetRequested (expireRequest_motion p tick self)
    refine (congrArg Motion.resetPosePending (update_motion p tick self)).trans ?_
    exact (advancePose_retries found answered).trans (congrArg (· || _) same)
  have flag_iff : (update p tick self).1.resetPosePending = true ↔
      outcome = .rejected ∨ self.resetRequested = true := by
    rw [flag, Bool.or_eq_true, decide_eq_true_eq, or_comm]
  constructor
  · intro retries
    exact flag_iff.mp retries.1
  · intro asked
    refine ⟨flag_iff.mpr asked, ?_⟩
    apply setPose_subset_update
    apply setPose_of_retries found answered
    have pending := flag_iff.mpr asked
    exact (congrArg Motion.resetPosePending (update_motion p tick self)).symm.trans pending

theorem step_outstanding {input : Input} (h : self.motion.Outstanding)
    (recovers : Recovers (Run.event (step p) self input)) :
    ((step p self input).2.motion.Outstanding ∧ ¬Requests (step p self input).1) ∨
      Acknowledges (Run.event (step p) self input) := by
  cases input with
  | update tick =>
    have expired : (expireRequest p tick self).motion.Outstanding := by
      rw [expireRequest_motion]
      exact h
    have kept : Answered (expireRequest p tick self).motion tick .failed →
        (expireRequest p tick self).resetRequested = true := by
      intro failed
      rw [expireRequest_motion] at failed
      have same := congrArg Motion.resetRequested (expireRequest_motion p tick self)
      exact same.trans (recovers ⟨tick, rfl, failed⟩)
    rcases advancePose_outstanding expired kept with outstanding | ⟨found, hold⟩
    · left
      rw [← update_motion] at outstanding
      refine ⟨outstanding, ?_⟩
      show ¬Requests (update p tick self).2
      rw [update_outstanding outstanding]
      exact not_requests_advancePose
    · right
      rw [expireRequest_motion] at found
      exact ⟨⟨tick, rfl, found⟩, (motion_state (update_motion p tick self)).trans hold⟩
  | decision decision =>
    left
    refine ⟨?_, Bool.false_ne_true⟩
    rcases onDecision_cases decision self with eq | ⟨next, -, -, -, -, eq⟩
    · exact eq ▸ h
    · show (onDecision decision self).motion.Outstanding
      rw [eq]
      rcases h with requested | resetting
      · exact .inl requested
      · exact .inr ⟨resetting.pending, resetting.call⟩
  | reset | run data | prepare => exact .inl ⟨.inl rfl, Bool.false_ne_true⟩

/-- A run from a state in which a reset is outstanding. -/
theorem run_outstanding (h : self.motion.Outstanding) (inputs : List Input)
    (recovers : ∀ e ∈ Run.history (step p) self inputs, Recovers e) :
    ((Run.state (step p) self inputs).motion.Outstanding ∨
      ∃ e ∈ Run.history (step p) self inputs, Acknowledges e) ∧
    ∀ e earlier, e :: earlier <:+ Run.history (step p) self inputs → Requests e.reply →
      ∃ e' ∈ e :: earlier, Acknowledges e' := by
  induction inputs with
  | nil =>
    refine ⟨.inl h, ?_⟩
    intro e earlier split
    cases List.suffix_nil.mp split
  | cons input inputs ih =>
    obtain ⟨before, asked⟩ := ih fun e he => recovers e (.tail _ he)
    have this : (Run.state (step p) self (input :: inputs)).motion.Outstanding ∧
        ¬Requests (Run.event (step p) (Run.state (step p) self inputs) input).reply ∨
        ∃ e ∈ Run.history (step p) self (input :: inputs), Acknowledges e := by
      rcases before with outstanding | ⟨e, he, acknowledges⟩
      · rcases step_outstanding outstanding (recovers _ (.head _)) with next | acknowledges
        · exact .inl next
        · exact .inr ⟨_, .head _, acknowledges⟩
      · exact .inr ⟨e, .tail _ he, acknowledges⟩
    constructor
    · rcases this with next | acknowledged
      · exact .inl next.1
      · exact .inr acknowledged
    · intro e earlier split requests
      rcases List.suffix_cons_iff.mp split with same | split
      · cases same
        rcases this with next | acknowledged
        · exact absurd requests next.2
        · exact acknowledged
      · exact asked e earlier split requests

/-- For every state and every run after a message that asks for a reset, with further messages and
decisions: the reset is not lost if and only if no reset pose ends in an exception, unless another
reset has been asked for while it was in flight. -/
theorem reset_kept_iff (p : Parameters) (self : Controller) (message : Input)
    (resets : message.Resets) (inputs : List Input) :
    let es := Run.history (step p) (step p self message).2 inputs
    Kept es ↔ ∀ e ∈ es, Recovers e := by
  intro es
  have outstanding : (step p self message).2.motion.Outstanding := by
    cases message with
    | update | decision => cases resets
    | reset | run | prepare => exact .inl rfl
  constructor
  · intro kept e he failed
    obtain ⟨later, earlier, split⟩ := List.append_of_mem he
    obtain ⟨previous, input, rfl, -⟩ := Run.history_split split
    have retries := kept.retried _ he (.inr failed)
    rcases (retries_iff PoseOutcome.noConfusion failed).mp retries with outcome | requested
    · cases outcome
    · exact requested
  · intro recovers
    refine ⟨(run_outstanding outstanding inputs recovers).2, ?_⟩
    intro e he settles
    obtain ⟨later, earlier, split⟩ := List.append_of_mem he
    obtain ⟨previous, input, rfl, -⟩ := Run.history_split split
    rcases settles with rejected | failed
    · exact (retries_iff PoseOutcome.noConfusion rejected).mpr (.inl rfl)
    · exact (retries_iff PoseOutcome.noConfusion failed).mpr (.inr (recovers _ he failed))

/-- An update that finds the pose service ready. -/
def tickWith (outcome : PoseOutcome) : Tick where
  checked := 0
  settled := 0
  stamped := 0
  resumed := 0
  requested := 0
  serviceIsReady := true
  outcome := outcome

/-- A rejected reset is sent again and acknowledged. -/
theorem reset_kept_iff_rejected :
    Kept (Run.history (step {}) (step {} (.init {} 0) (.run "nominal")).2
      [.update (tickWith .success), .update (tickWith .rejected), .update (tickWith .waiting)]) := by
  refine (reset_kept_iff {} (.init {} 0) (.run "nominal") trivial _).mpr ?_
  rintro e he ⟨tick, asked, found⟩
  have answered := found.outcome
  rcases List.mem_cons.mp he with rfl | he
  · cases asked
    cases answered
  · rcases List.mem_cons.mp he with rfl | he
    · cases asked
      cases answered
    · cases List.mem_singleton.mp he
      cases asked
      cases answered

/-- A reset pose that ends in an exception. -/
theorem reset_lost :
    ¬∀ (p : Parameters) (self : Controller) (message : Input), message.Resets →
      ∀ inputs, Kept (Run.history (step p) (step p self message).2 inputs) := by
  intro H
  have kept := H {} (.init {} 0) (.run "nominal") trivial
    [.update (tickWith .failed), .update (tickWith .waiting)]
  have requests : Requests (Run.event (step {}) (Run.state (step {})
      (step {} (.init {} 0) (.run "nominal")).2 [.update (tickWith .waiting)])
      (.update (tickWith .failed))).reply := by
    unfold Requests
    decide +kernel
  obtain ⟨e, he, ⟨tick, asked, found⟩, -⟩ := kept.acknowledged _ _ List.suffix_rfl requests
  have answered := found.outcome
  rcases List.mem_cons.mp he with rfl | he
  · cases asked
    cases answered
  · cases List.mem_singleton.mp he
    cases asked
    cases answered

end Access.BaselineController
