import Access.TransitionChannel
import Access.Verify.ControllerResets

/-! # Which request a decision answers

In one run the controller asks for each stage once: after a refusal or a timeout it asks for nothing
until the next run. So a decision that takes it to the next stage answers the latest request, if it
answers a request of this run for this stage. Nothing compares the run: an approval that was left
from an earlier one is taken for an answer to the request of this one. -/

namespace Access.BaselineController

open StationAccess (TransitionDecision)

variable {p : Parameters} {tick : Tick} {self after : Controller}

/-- A reset is requested, or in flight. -/
def Controller.Flagged (self : Controller) : Prop :=
  self.resetRequested = true ∨ self.resetPosePending = true

theorem number_lt {state target : Stage} (h : nextState state = some target) :
    state.number.toNat < target.number.toNat := by
  cases state <;> cases h <;> decide

/-- The decision takes a controller that waits for one to the next stage, `target`. -/
structure Approves (decision : TransitionDecision) (controller : Controller) (target : Stage) :
    Prop where
  pending : controller.pending = true
  goes : nextState controller.state = some target
  approved : decision.approved = true
  resulting : decision.resultingState = target.number

/-- What a decision does: nothing while none is awaited, and otherwise it ends the waiting, with the
next stage or with a halt. -/
theorem onDecision_effect (decision : TransitionDecision) (self : Controller) :
    (self.pending = false ∧ onDecision decision self = self) ∨
    (∃ target, Approves decision self target ∧ onDecision decision self =
      { self with state := target, pending := false, requestTime := none }) ∨
    (self.pending = true ∧ (∀ target, ¬Approves decision self target) ∧
      onDecision decision self =
        { self with halted := true, pending := false, requestTime := none }) := by
  unfold onDecision
  cases pending : self.pending with
  | false => exact .inl ⟨rfl, rfl⟩
  | true =>
    right
    cases goes : nextState self.state with
    | none =>
      refine .inr ⟨rfl, ?_, rfl⟩
      intro target approves
      cases goes.symm.trans approves.goes
    | some target =>
      by_cases approves : decision.approved ∧ decision.resultingState = target.number
      · refine .inl ⟨target, ⟨pending, goes, approves.1, approves.2⟩, ?_⟩
        simp only [if_pos approves]
        rfl
      · refine .inr ⟨rfl, ?_, ?_⟩
        · intro other approves'
          cases goes.symm.trans approves'.goes
          exact approves ⟨approves'.approved, approves'.resulting⟩
        · simp only [if_neg approves]
          rfl

/-! ### What an update asks for -/

/-- How a part of an update goes on, and what it asks for: nothing, or the next stage. -/
inductive Continues (self after : Controller) : List UInt8 → Prop where
  | quiet (pending : after.pending = true → self.pending = true)
      (idle : after.pending = false → after.halted = false →
        self.pending = false ∧ self.halted = false)
      (flagged : after.Flagged → self.Flagged) : Continues self after []
  | asks {target : Stage} (idle : self.pending = false ∧ self.halted = false)
      (goes : nextState after.state = some target) (pending : after.pending = true)
      (unflagged : ¬after.Flagged) : Continues self after [target.number]

theorem Continues.of_eq (pending : after.pending = self.pending)
    (halted : after.halted = self.halted) (flagged : after.Flagged → self.Flagged) :
    Continues self after [] := by
  refine .quiet (pending ▸ id) ?_ flagged
  intro unasked going
  exact ⟨pending ▸ unasked, halted ▸ going⟩

theorem Continues.refl : Continues self self [] := .of_eq rfl rfl id

theorem Continues.trans {other : Controller} {asked : List UInt8}
    (first : Continues self other []) (second : Continues other after asked) :
    Continues self after asked := by
  cases first with
  | quiet pending idle flagged =>
    cases second with
    | quiet pending' idle' flagged' =>
      refine .quiet (fun waits => pending (pending' waits)) ?_ (fun flag => flagged (flagged' flag))
      intro unasked going
      obtain ⟨unasked, going⟩ := idle' unasked going
      exact idle unasked going
    | asks idle' goes pending' unflagged =>
      exact .asks (idle idle'.1 idle'.2) goes pending' unflagged

/-- A timeout halts the controller. -/
theorem expireRequest_continues : Continues self (expireRequest p tick self) [] := by
  unfold expireRequest
  split
  · split
    · refine .quiet Bool.noConfusion ?_ id
      intro _ going
      cases going
    · exact .refl
  · exact .refl

theorem sendPose_continues : Continues self (sendPose p self).1 [] := by
  cases reset : self.resetRequested with
  | true =>
    rw [sendPose_reset reset]
    exact .of_eq rfl rfl fun _ => .inl reset
  | false =>
    rw [sendPose_move reset]
    exact .of_eq rfl rfl id

theorem settlePose_waits (p : Parameters) (tick : Tick) (call : PoseCall) (self : Controller) :
    (settlePose p tick call self).pending = self.pending ∧
      (settlePose p tick call self).halted = self.halted := by
  unfold settlePose
  cases tick.outcome <;> cases self.resetPosePending <;> exact ⟨rfl, rfl⟩

theorem settlePose_continues (call : PoseCall) :
    Continues self (settlePose p tick call self) [] := by
  obtain ⟨pending, halted⟩ := settlePose_waits p tick call self
  refine .of_eq pending halted ?_
  rintro (requested | sent)
  · rw [settlePose_resetRequested, Bool.or_eq_true, Bool.and_eq_true] at requested
    exact requested.imp_right And.right
  · cases (settlePose_resetPosePending call).symm.trans sent

theorem advancePose_continues : Continues self (advancePose p tick self).1 [] := by
  rcases advancePose_cases p tick self with eq | ⟨-, eq⟩ | ⟨call, -, -, -, eq⟩
  · rw [eq]
    exact .refl
  · rw [eq]
    exact sendPose_continues
  · rw [eq]
    exact (settlePose_continues call).trans sendPose_continues

open TransitionChannel (requestedState?)

theorem requestAtGoal_continues {goal : ℚ} (unflagged : ¬self.Flagged) :
    Continues self (requestAtGoal tick goal self).1
      ((requestAtGoal tick goal self).2.filterMap requestedState?) := by
  unfold requestAtGoal
  split
  · rename_i met
    unfold requestTransition
    split
    · exact .refl
    · rename_i target goes
      have idle : self.pending = false ∧ self.halted = false := by
        simpa only [Bool.not_eq_true'] using met.2
      exact .asks idle goes rfl unflagged
  · exact .refl

theorem finishUpdate_continues {goal : ℚ} (unflagged : ¬self.Flagged) :
    Continues self (finishUpdate tick goal self).1
      ((finishUpdate tick goal self).2.filterMap requestedState?) := by
  unfold finishUpdate
  split
  · split
    · exact .refl
    · have resumed : Continues self { self with resumeTime := none } [] := .of_eq rfl rfl id
      exact resumed.trans (requestAtGoal_continues unflagged)
  · exact requestAtGoal_continues unflagged

/-- Neither a pose nor a status asks for anything. -/
theorem requested_advancePose :
    (advancePose p tick self).2.filterMap requestedState? = [] := by
  apply List.filterMap_eq_nil_iff.mpr
  intro sent mem
  obtain ⟨x, rfl⟩ := advancePose_sent p tick self sent mem
  rfl

theorem update_continues (p : Parameters) (tick : Tick) (self : Controller) :
    Continues self (update p tick self).1 ((update p tick self).2.filterMap requestedState?) := by
  have moved : Continues self (advancePose p tick (expireRequest p tick self)).1 [] :=
    expireRequest_continues.trans advancePose_continues
  simp only [update]
  split
  · rw [requested_advancePose]
    exact moved
  · rename_i unflagged
    rw [List.filterMap_append, requested_advancePose]
    exact moved.trans (finishUpdate_continues unflagged)

end Access.BaselineController

namespace Access.TransitionChannel

open BaselineController (Controller Parameters Approves Stage nextState number_lt)
open StationAccess (TransitionDecision)

variable {p : Parameters} {s : Channel}

/-! ### The requests of one run -/

/-- A run has asked for no stage beyond `state`. -/
def Settled (state : Stage) (run : Nat) (requests : List Asked) : Prop :=
  ∀ asked ∈ requests, asked.run = run → asked.requestedState.toNat ≤ state.number.toNat

theorem Settled.of_lt {state : Stage} {run : Nat} {requests : List Asked}
    (earlier : ∀ asked ∈ requests, asked.run < run) : Settled state run requests := by
  intro asked mem same
  exact absurd same (earlier asked mem).ne

/-- A request for the stage after `state` is pending: the latest, and the only one of its run for
that stage. -/
structure Awaits (s : Channel) (target : Stage) (earlier : List Asked) : Prop where
  goes : nextState s.controller.state = some target
  latest : s.requests = earlier ++ [{ run := s.runs, requestedState := target.number }]
  settled : Settled s.controller.state s.runs earlier

/-- What the requests published have to do with the state of the controller. -/
structure Consistent (s : Channel) : Prop where
  run_le : ∀ asked ∈ s.requests, asked.run ≤ s.runs
  flagged : s.controller.Flagged →
    s.controller.pending = false ∧ ∀ asked ∈ s.requests, asked.run < s.runs
  idle : s.controller.pending = false → s.controller.halted = false →
    Settled s.controller.state s.runs s.requests
  awaits : s.controller.pending = true → ∃ target earlier, Awaits s target earlier

theorem init_consistent (now : Int) :
    Consistent { controller := Controller.init p now } where
  run_le := by
    intro asked mem
    cases mem
  flagged := by
    rintro (requested | sent)
    · cases requested
    · cases sent
  idle := by
    intro _ going
    cases going
  awaits := by
    intro pending
    cases pending

theorem Consistent.restart (h : Consistent s) {after : Controller}
    (pending : after.pending = false) :
    Consistent { s with controller := after, runs := s.runs + 1 } where
  run_le asked mem := (h.run_le asked mem).trans (Nat.le_succ _)
  flagged _ := ⟨pending, fun asked mem => Nat.lt_succ_of_le (h.run_le asked mem)⟩
  idle _ _ := .of_lt fun asked mem => Nat.lt_succ_of_le (h.run_le asked mem)
  awaits waits := by cases pending.symm.trans waits

theorem Consistent.update (h : Consistent s) (tick : BaselineController.Tick) :
    Consistent (s.handle p (.update tick)) := by
  have returns := BaselineController.update_state p tick s.controller
  have continues := BaselineController.update_continues p tick s.controller
  simp only [Channel.handle, BaselineController.step]
  generalize (BaselineController.update p tick s.controller).2.filterMap requestedState? = asked
    at continues ⊢
  generalize (BaselineController.update p tick s.controller).1 = after at returns continues ⊢
  -- The state of an update that is not the former one comes with a reset, before any request.
  have settles (requests : Settled s.controller.state s.runs s.requests) :
      Settled after.state s.runs s.requests := by
    rcases returns with same | ⟨reset, -⟩
    · exact same ▸ requests
    · exact .of_lt (h.flagged (.inr reset)).2
  cases continues with
  | quiet pending idle flagged =>
    rw [List.map_nil, List.append_nil]
    refine ⟨h.run_le, ?_, ?_, ?_⟩
    · intro flag
      obtain ⟨unasked, earlier⟩ := h.flagged (flagged flag)
      refine ⟨?_, earlier⟩
      cases waits : after.pending with
      | false => rfl
      | true => cases unasked.symm.trans (pending waits)
    · intro unasked going
      obtain ⟨unasked, going⟩ := idle unasked going
      exact settles (h.idle unasked going)
    · intro waits
      obtain ⟨target, earlier, awaits⟩ := h.awaits (pending waits)
      refine ⟨target, earlier, ?_⟩
      rcases returns with same | ⟨reset, -⟩
      · exact ⟨same ▸ awaits.goes, awaits.latest, same ▸ awaits.settled⟩
      · cases (h.flagged (.inr reset)).1.symm.trans (pending waits)
  | @asks target idle goes pending unflagged =>
    refine ⟨?_, ?_, ?_, ?_⟩
    · intro asked mem
      rcases List.mem_append.mp mem with mem | mem
      · exact h.run_le asked mem
      · cases List.mem_singleton.mp mem
        exact le_rfl
    · intro flag
      exact absurd flag unflagged
    · intro unasked
      cases unasked.symm.trans pending
    · intro _
      exact ⟨target, s.requests, goes, rfl, settles (h.idle idle.1 idle.2)⟩

theorem Consistent.decision (h : Consistent s) (decision : TransitionDecision) :
    Consistent (s.handle p (.decision decision)) := by
  simp only [Channel.handle, BaselineController.step, List.filterMap_nil, List.map_nil,
    List.append_nil]
  have unflagged (pending : s.controller.pending = true) : ¬s.controller.Flagged := by
    intro flag
    cases (h.flagged flag).1.symm.trans pending
  rcases BaselineController.onDecision_effect decision s.controller with
    ⟨-, eq⟩ | ⟨target, approves, eq⟩ | ⟨pending, -, eq⟩
  · rw [eq]
    exact h
  · rw [eq]
    obtain ⟨target', earlier, awaits⟩ := h.awaits approves.pending
    cases approves.goes.symm.trans awaits.goes
    refine ⟨h.run_le, ?_, ?_, ?_⟩
    · intro flag
      exact absurd flag (unflagged approves.pending)
    · intro _ _ asked mem same
      rw [awaits.latest] at mem
      rcases List.mem_append.mp mem with mem | mem
      · exact (awaits.settled asked mem same).trans (number_lt awaits.goes).le
      · cases List.mem_singleton.mp mem
        exact le_rfl
    · intro pending
      cases pending
  · rw [eq]
    refine ⟨h.run_le, ?_, ?_, ?_⟩
    · intro flag
      exact absurd flag (unflagged pending)
    · intro _ going
      cases going
    · intro pending
      cases pending

theorem Consistent.withDecisions (h : Consistent s) (decisions : List Decided) :
    Consistent { s with decisions } where
  run_le := h.run_le
  flagged := h.flagged
  idle := h.idle
  awaits waits := by
    obtain ⟨target, earlier, awaits⟩ := h.awaits waits
    exact ⟨target, earlier, awaits.goes, awaits.latest, awaits.settled⟩

theorem Consistent.after_step (h : Consistent s) (call : ChannelCall) :
    Consistent (step p s call).2 := by
  cases call with
  | update tick => exact h.update tick
  | reset | run data | prepare =>
    simp only [step, Channel.restart, Channel.handle, BaselineController.step,
      List.filterMap_nil, List.map_nil, List.append_nil]
    exact h.restart rfl
  | publish decided =>
    simp only [step]
    split
    · exact h.withDecisions _
    · exact h
  | deliver index =>
    simp only [step]
    split
    · exact (h.decision _).withDecisions _
    · exact h

/-! ### Advances -/

/-- The controller goes on to the next stage. -/
def Advanced (e : ChannelEvent) : Prop :=
  nextState e.before.controller.state = some e.after.controller.state

/-- The event is the delivery of that decision. -/
def Delivers (e : ChannelEvent) (decided : Decided) : Prop :=
  ∃ index, e.call = .deliver index ∧ e.before.decisions[index]? = some decided

/-- A decision answers the latest request of all, and this is one of the current run. -/
structure AnswersLatest (s : Channel) (decided : Decided) : Prop where
  latest : decided.request + 1 = s.requests.length
  current : ∀ asked, s.requests[decided.request]? = some asked → asked.run = s.runs

/-- No decision of an earlier run, or for another stage, is delivered while it approves the stage
that the controller waits for. -/
def Timely (e : ChannelEvent) : Prop :=
  ∀ decided, Delivers e decided → ∀ target,
    Approves decided.decision e.before.controller target →
    e.before.requests[decided.request]? =
      some { run := e.before.runs, requestedState := target.number }

theorem nextState_ne_self {state : Stage} : nextState state ≠ some state := by
  intro goes
  exact absurd (number_lt goes) (lt_irrefl _)

theorem nextState_ne_hold {state : Stage} : nextState state ≠ some .hold := by
  intro goes
  exact absurd (number_lt goes) (Nat.not_lt_zero _)

/-- Only the delivery of a decision that approves the stage awaited is an advance. -/
theorem advanced_iff (call : ChannelCall) :
    Advanced (Run.event (step p) s call) ↔
      ∃ decided target, Delivers (Run.event (step p) s call) decided ∧
        Approves decided.decision s.controller target := by
  constructor
  · intro advanced
    cases call with
    | update tick =>
      rcases BaselineController.update_state p tick s.controller with same | ⟨-, hold⟩
      · exact absurd (advanced.trans (congrArg some same)) nextState_ne_self
      · exact absurd (advanced.trans (congrArg some hold)) nextState_ne_hold
    | reset | run data | prepare => exact absurd advanced nextState_ne_self
    | publish decided =>
      simp only [Advanced, Run.event, step] at advanced
      split at advanced <;> exact absurd advanced nextState_ne_self
    | deliver index =>
      cases found : s.decisions[index]? with
      | none =>
        simp only [Advanced, Run.event, step, found] at advanced
        exact absurd advanced nextState_ne_self
      | some decided =>
        simp only [Advanced, Run.event, step, found] at advanced
        simp only [Channel.handle, BaselineController.step] at advanced
        rcases BaselineController.onDecision_effect decided.decision s.controller with
          ⟨-, eq⟩ | ⟨target, approves, -⟩ | ⟨-, -, eq⟩
        · exact absurd (eq ▸ advanced) nextState_ne_self
        · exact ⟨decided, target, ⟨index, rfl, found⟩, approves⟩
        · exact absurd (eq ▸ advanced) nextState_ne_self
  · rintro ⟨decided, target, ⟨index, rfl, found⟩, approves⟩
    have found : s.decisions[index]? = some decided := found
    simp only [Advanced, Run.event, step, found]
    rcases BaselineController.onDecision_effect decided.decision s.controller with
      ⟨unasked, -⟩ | ⟨target', approves', eq⟩ | ⟨-, disapproves, -⟩
    · cases unasked.symm.trans approves.pending
    · simp only [Channel.handle, BaselineController.step, eq]
      exact approves'.goes
    · exact absurd approves (disapproves target)

/-- A decision that approves the stage awaited answers the latest request if and only if the request
it answers is one of this run for this stage. -/
theorem Consistent.answers_iff (h : Consistent s) {decided : Decided} {target : Stage}
    (approves : Approves decided.decision s.controller target) :
    AnswersLatest s decided ↔ s.requests[decided.request]? =
      some { run := s.runs, requestedState := target.number } := by
  obtain ⟨target', earlier, awaits⟩ := h.awaits approves.pending
  cases approves.goes.symm.trans awaits.goes
  constructor
  · intro answers
    have latest := answers.latest
    rw [awaits.latest, List.length_append, List.length_singleton, Nat.add_right_cancel_iff]
      at latest
    rw [awaits.latest, latest, List.getElem?_concat_length]
  · intro asked
    refine ⟨?_, ?_⟩
    · have bound := (List.getElem?_eq_some_iff.mp asked).1
      rw [awaits.latest, List.length_append, List.length_singleton] at bound ⊢
      by_contra other
      have within : decided.request < earlier.length := by omega
      rw [awaits.latest, List.getElem?_append_left within] at asked
      -- The stage awaited was not asked for in this run before.
      have settled := awaits.settled _ (List.mem_of_getElem? asked) rfl
      exact absurd (number_lt awaits.goes) (not_lt.mpr settled)
    · intro other found
      cases asked.symm.trans found
      rfl

theorem Consistent.answers_iff_timely (h : Consistent s) (call : ChannelCall) :
    (Advanced (Run.event (step p) s call) → ∃ decided,
        Delivers (Run.event (step p) s call) decided ∧ AnswersLatest s decided) ↔
      Timely (Run.event (step p) s call) := by
  constructor
  · intro answers decided delivers target approves
    obtain ⟨decided', ⟨index', same, found'⟩, latest⟩ :=
      answers ((advanced_iff call).mpr ⟨decided, target, delivers, approves⟩)
    obtain ⟨index, asked, found⟩ := delivers
    cases asked.symm.trans same
    cases found.symm.trans found'
    exact (h.answers_iff approves).mp latest
  · intro timely advanced
    obtain ⟨decided, target, delivers, approves⟩ := (advanced_iff call).mp advanced
    exact ⟨decided, delivers, (h.answers_iff approves).mpr (timely _ delivers _ approves)⟩

theorem run_consistent (now : Int) (calls : List ChannelCall) :
    Consistent (Run.state (step p) { controller := Controller.init p now } calls) := by
  induction calls with
  | nil => exact init_consistent now
  | cons call calls ih => exact ih.after_step call

/-- In every run, with decisions published and delivered in any order: each advance is caused by a
decision that answers the latest request, and this is one of the current run, if and only if none is
delivered late, for a request of an earlier run or another stage, when it approves the one that is
awaited. -/
theorem advances_answered_iff (p : Parameters) (now : Int) (calls : List ChannelCall) :
    let es := Run.history (step p) { controller := Controller.init p now } calls
    (∀ e ∈ es, Advanced e → ∃ decided, Delivers e decided ∧ AnswersLatest e.before decided) ↔
      ∀ e ∈ es, Timely e := by
  intro es
  have each : ∀ e ∈ es, (Advanced e → ∃ decided,
      Delivers e decided ∧ AnswersLatest e.before decided) ↔ Timely e := by
    intro e he
    obtain ⟨later, earlier, split⟩ := List.append_of_mem he
    obtain ⟨previous, call, rfl, -⟩ := Run.history_split split
    exact (run_consistent now previous).answers_iff_timely call
  constructor
  · intro answered e he
    exact (each e he).mp (answered e he)
  · intro timely e he
    exact (each e he).mpr (timely e he)

/-- An update that finds the last pose acknowledged, at that time. -/
def tickAt (now : Int) : BaselineController.Tick where
  checked := now
  settled := now
  stamped := now
  resumed := now
  requested := now
  serviceIsReady := true
  outcome := .success

/-- The approval of the first stage. -/
def approval : TransitionDecision where
  approved := true
  previousState := 0
  resultingState := 1
  authority := "station-authority"
  reason := "entitlement accepted"
  grantId := "station-grant"
  grantExpiresAtS := 0
  signedGrantHex := ""
  authorizationPolicyBundleId := ""
  authorizationPolicyBundleVersion := 0
  authorizationPolicySha256 := ""

/-- Two runs, in each of which the controller asks for the first stage; the decision for the first
of the two requests is not delivered yet. -/
def lateApproval : List ChannelCall :=
  [.update (tickAt 6000000000), .update (tickAt 3000000000), .update (tickAt 3000000000),
    .run "nominal", .publish { request := 0, decision := approval },
    .update (tickAt 3000000000), .update (tickAt 0), .update (tickAt 0), .run "nominal"]

/-- An approval of an earlier run is taken for the answer to the request of the current one. -/
theorem late_approval_advances :
    ¬∀ (p : Parameters) (now : Int) (calls : List ChannelCall),
      ∀ e ∈ Run.history (step p) { controller := Controller.init p now } calls,
        Advanced e → ∃ decided, Delivers e decided ∧ AnswersLatest e.before decided := by
  intro H
  have advanced : Advanced (Run.event (step {}) (Run.state (step {})
      { controller := Controller.init {} 0 } lateApproval) (.deliver 0)) := by
    unfold Advanced
    decide +kernel
  obtain ⟨decided, ⟨index, same, found⟩, answers⟩ :=
    H {} 0 (.deliver 0 :: lateApproval) _ (.head _) advanced
  cases same
  have left : (Run.state (step {}) { controller := Controller.init {} 0 }
      lateApproval).decisions[0]? = some { request := 0, decision := approval } := by
    decide +kernel
  have asked : (Run.state (step {}) { controller := Controller.init {} 0 }
      lateApproval).requests.length = 2 := by
    decide +kernel
  cases found.symm.trans left
  cases answers.latest.trans asked

end Access.TransitionChannel
