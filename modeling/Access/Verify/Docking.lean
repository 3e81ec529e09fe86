import Access.Docking
import Access.Verify.Clock
import Access.Verify.DockingEvidence
import Access.Verify.TransitionChannel
import Access.Verify.ReadinessMonitor
import Access.Verify.StationDecisions
import Access.Verify.StationRuns

/-! # Docking, from the status to the next stage

The controller goes on to a stage by an approved decision, the station approves what its authority
has redeemed, the authority redeems what it has approved, on evidence, and the evidence is made from
the status that the controller published. Along every run of the system the stages that the
controller entered are redemptions of the authority, each its own (`entered_redeemed`), and it was
where a stage may be entered from, by its own report, before it entered it (`entered_on_evidence`). -/

namespace Access.Docking

open EStateM Authority AuthorityClient StationAccess
open BaselineController (Controller DockingStatus Input Parameters Stage Tick nextState)
open ReadinessMonitor (MadeFrom)

/-! ## The log of the authority -/

/-- What an authority is after the lines of a log, if there is one. -/
def authorityAfter [ReplayStateBackend B] (cr : Crates) (host : Option (Host B))
    (handled : List (Line × Authority.Response)) : Option (Host B) :=
  host.map fun first => Run.state (Authority.step cr) first (handled.map (·.1))

/-- An entry with an approved request for a state, on the credentials that the authority had
verified by then and on evidence that meet the requirement for its action; `earlier` is the log
before it. Floats are not rounded. -/
structure ApprovedFor [ReplayStateBackend B] (cr : Crates) (host : Option (Host B))
    (earlier : List (Line × Authority.Response)) (entry : Line × Authority.Response)
    (requestedState : UInt8) (evidence : ReadinessEvidence) : Prop where
  exists_request : ∃ s nowS required,
    authorityAfter cr host earlier = some s ∧
    entry.1.input = .ok (.transition requestedState nowS evidence) ∧
    requirement (stageRule requestedState).action = some required ∧
    s.engine.authorization.sessionAuthorized = true ∧
    required.Met s.engine.verifiedCredentials true true evidence true ∧
    evidence.ageMs (nowS.getD entry.1.now.unixTime) ≤
      (stageRule requestedState).readiness.maximumAgeMs
  exists_outcome : ∃ out, entry.2.value = some (.transition out) ∧ out.approved = true
  inRange : 1 ≤ requestedState.toNat ∧ requestedState.toNat ≤ 4

/-- A request for a state was approved, by a log. -/
def Approved [ReplayStateBackend B] (cr : Crates) (host : Option (Host B))
    (handled : List (Line × Authority.Response)) (requestedState : UInt8) : Prop :=
  ∃ later entry earlier, handled = later ++ entry :: earlier ∧
    ∃ evidence, ApprovedFor cr host earlier entry requestedState evidence

theorem Approved.cons [ReplayStateBackend B] {cr : Crates} {host : Option (Host B)}
    {handled : List (Line × Authority.Response)} {requestedState : UInt8}
    (H : Approved cr host handled requestedState) (entry : Line × Authority.Response) :
    Approved cr host (entry :: handled) requestedState := by
  obtain ⟨later, request, earlier, rfl, happroved⟩ := H
  exact ⟨entry :: later, request, earlier, rfl, happroved⟩

/-- An engine with the stage rules of the simulation and the policies of the waystation. -/
structure Deployed (cr : Crates) (config : AccessEngineConfig) : Prop where
  rules : config.protocolProfile.stageRules = Simulation.protocolProfile.stageRules
  policies : cr.Evaluates config.authorizationPolicyEngine.policies CommercialDocking.policies

/-- An engine all of whose pending entitlements were approved, by its log. -/
structure Vouches [ReplayStateBackend B] (cr : Crates) (host : Option (Host B))
    (handled : List (Line × Authority.Response)) (s : Host B) : Prop where
  after : authorityAfter cr host handled = some s
  sound : SessionSound s.engine
  deployed : Deployed cr s.engine.config
  pending : ∀ grantId pending, s.engine.pendingEntitlements.lookup grantId = some pending →
    Approved cr host handled pending.requestedState

/-- What was redeemed had been approved before. -/
def RedeemsApproved [ReplayStateBackend B] (cr : Crates) (host : Option (Host B))
    (handled : List (Line × Authority.Response)) : Prop :=
  ∀ later entry earlier, handled = later ++ entry :: earlier →
    ∀ state, redeemedState? entry = some state → Approved cr host earlier state

section

variable [ReplayStateBackend B] {cr : Crates} {host : Option (Host B)} {s s' : Host B}
  {handled : List (Line × Authority.Response)}

theorem authorityAfter_cons (h : authorityAfter cr host handled = some s)
    (entry : Line × Authority.Response) :
    authorityAfter cr host (entry :: handled) = some (Authority.step cr s entry.1).2 := by
  obtain ⟨first, rfl, rfl⟩ := Option.map_eq_some_iff.mp h
  rfl

theorem RedeemsApproved.cons (H : RedeemsApproved cr host handled)
    {entry : Line × Authority.Response}
    (h : ∀ state, redeemedState? entry = some state → Approved cr host handled state) :
    RedeemsApproved cr host (entry :: handled) := by
  intro later e earlier heq state hstate
  cases later with
  | nil =>
    cases heq
    exact h state hstate
  | cons _ later => exact H later e earlier (List.cons.inj heq).2 state hstate

theorem Vouches.quiet (H : Vouches cr host handled s) (entry : Line × Authority.Response)
    (hafter : authorityAfter cr host (entry :: handled) = some s') (hsound : SessionSound s'.engine)
    (hconfig : s'.engine.toEngineSetup = s.engine.toEngineSetup)
    (hpending : ∀ g p, s'.engine.pendingEntitlements.lookup g = some p →
      s.engine.pendingEntitlements.lookup g = some p) : Vouches cr host (entry :: handled) s' where
  after := hafter
  sound := hsound
  deployed := by
    have : s'.engine.config = s.engine.config := congrArg EngineSetup.config hconfig
    exact this ▸ H.deployed
  pending g p hp := (H.pending g p (hpending g p hp)).cons entry

/-- A redemption is of what was pending. -/
theorem Vouches.redeemed (H : Vouches cr host handled s) {line : Line} {state : UInt8}
    (hstate : redeemedState? (line, (Authority.step cr s line).1) = some state) :
    Approved cr host handled state := by
  obtain ⟨input, now⟩ := line
  unfold redeemedState? at hstate
  split at hstate
  · rename_i requestedState entitlementHex nowS evidence out hinput hvalue
    cases hstate
    cases (hinput : input = _)
    obtain ⟨out', hredeem, hout⟩ := respond_value rfl hvalue
    cases hout
    obtain ⟨a, redeems⟩ := redeemTransition_ok hredeem
    have hrequested : a.pending.requestedState = requestedState := by
      by_contra hne
      exact redeems.accepts.usable (.inl hne)
    have hnumber := stateNumber_of_reduce redeems.accepts.transition redeems.reduced
    have happroved := H.pending _ _ redeems.accepts.pending
    have hresulting : out.resultingState = requestedState := by
      rw [redeems.outcome]
      exact hnumber
    rw [hresulting]
    exact hrequested ▸ happroved
  · cases hstate

/-- An approved request makes its entitlement pending. -/
theorem Vouches.issue (H : Vouches cr host handled s) {line : Line} {out : TransitionOutcome}
    (hafter : authorityAfter cr host ((line, (Reply.issued (.ok out)).response) :: handled) =
      some s')
    (hsound : SessionSound s'.engine) {requestedState : UInt8} {nowS : Option Int64}
    {evidence : ReadinessEvidence} {i : Issuance}
    (hinput : line.input = .ok (.transition requestedState nowS evidence))
    (issues : Issues cr s requestedState (nowS.getD line.now.unixTime) evidence i out s') :
    Vouches cr host ((line, (Reply.issued (.ok out)).response) :: handled) s' := by
  have hsetup : s'.engine.toEngineSetup = s.engine.toEngineSetup :=
    (congrArg AccessEngine.toEngineSetup issues.engine :)
  have hpending : s'.engine.pendingEntitlements = s.engine.pendingEntitlements.insert i.grantId
      { requestedState, authorizationDecision := i.decision } :=
    (congrArg AccessEngine.pendingEntitlements issues.engine :)
  have hconfig : s'.engine.config = s.engine.config := congrArg EngineSetup.config hsetup
  refine ⟨hafter, hsound, hconfig ▸ H.deployed, ?_⟩
  intro g p hp
  rw [hpending] at hp
  by_cases hg : g = i.grantId
  · rw [hg, Finmap.lookup_insert, Option.some.injEq] at hp
    subst hp
    obtain ⟨-, hsession, -⟩ := H.sound _ issues.session
    obtain ⟨-, required, hrequired, hmet, hage⟩ :=
      issues.met hsession H.deployed.rules H.deployed.policies
    obtain ⟨_, htransition⟩ := issues.transition
    obtain ⟨hnext, hle⟩ := stage_of_transitionFor htransition
    refine ⟨[], _, handled, rfl, evidence,
      ⟨s, nowS, required, H.after, hinput, hrequired, hsession, hmet, hage⟩, ?_, ?_, hle⟩
    · refine ⟨out, rfl, ?_⟩
      rw [issues.outcome]
      rfl
    · rw [hnext]
      exact Nat.le_add_left _ _
  · rw [Finmap.lookup_insert_of_ne _ hg] at hp
    exact (H.pending g p hp).cons _

/-- One line. -/
theorem Vouches.step (H : Vouches cr host handled s) (line : Line) :
    Vouches cr host ((line, (Authority.step cr s line).1) :: handled)
      (Authority.step cr s line).2 := by
  have hafter := authorityAfter_cons H.after (line, (Authority.step cr s line).1)
  cases hcall : line.input.toOption.bind (Command.call? (B := B) line.now) with
  | none =>
    have hsame : (Authority.step cr s line).2 = s := (Authority.step_of_no_call hcall).1
    rw [hsame] at hafter ⊢
    exact H.quiet _ hafter H.sound rfl fun _ _ h => h
  | some c =>
    have hstep := step_happens cr H.sound c
    have hsound := hstep.sound H.sound
    have hsetup := hstep.setup_eq
    rw [Authority.step_of_call hcall] at hafter ⊢
    revert hafter hsound hsetup
    generalize (Access.step cr s c).1 = r, (Access.step cr s c).2 = s' at hstep
    intro hafter hsound hsetup
    cases hstep with
    | established _ _ kept | notEstablished _ _ kept =>
      refine H.quiet _ hafter hsound hsetup fun g p hp => ?_
      have hcleared : (∅ : Finmap fun _ : String => PendingEntitlement).lookup g = some p :=
        (congrArg (Finmap.lookup g ·.pendingEntitlements) kept.1).symm.trans hp
      rw [Finmap.lookup_empty] at hcleared
      cases hcleared
    | withheld _ _ _ _ refreshes | notIssued _ _ _ refreshes =>
      refine H.quiet _ hafter hsound hsetup ?_
      exact (congrArg AccessEngine.pendingEntitlements refreshes.kept.1 :) ▸ fun _ _ h => h
    | redeemed _ _ _ _ redeems =>
      refine H.quiet _ hafter hsound hsetup fun g p hp => ?_
      rw [redeems.pending] at hp
      exact lookup_of_lookup_erase hp
    | refused _ _ _ _ refuses => exact H.quiet _ hafter hsound hsetup refuses.pending
    | enabled _ _ kept | replaced _ _ _ _ _ kept =>
      refine H.quiet _ hafter hsound hsetup ?_
      exact (congrArg AccessEngine.pendingEntitlements kept :) ▸ fun _ _ h => h
    | issued requestedState nowS readiness issues =>
      obtain ⟨askedS, hinput, rfl⟩ := Authority.input_of_requestTransition hcall
      exact H.issue hafter hsound hinput issues

/-- A process that redeems what it has approved. -/
structure Vouching [ReplayStateBackend B] (cr : Crates) (host : Option (Host B))
    (p : AuthorityClient.Process B) : Prop where
  running : ∀ s, p.host = some s → Vouches cr host p.handled s
  redeemed : RedeemsApproved cr host p.handled

theorem request_vouching (fate : Fate) (now : SystemTime) (payload : Json) :
    Steps (Preserves (Vouching cr host)) (request cr fate now payload) := by
  rintro ⟨running, handled⟩ H
  have hlost : Vouching cr host { host := none, handled } :=
    ⟨fun s hs => (by cases hs), H.redeemed⟩
  cases running with
  | none => cases fate <;> exact hlost
  | some s =>
    have hvouches := H.running s rfl
    have hredeemed : RedeemsApproved cr host
        ((line payload now, (Authority.step cr s (line payload now)).1) :: handled) :=
      H.redeemed.cons fun state hstate => hvouches.redeemed hstate
    cases fate with
    | lost loss isHandled =>
      cases isHandled with
      | true => exact ⟨fun s hs => (by cases hs), hredeemed⟩
      | false => exact hlost
    | answered =>
      have hanswered : Vouching cr host
          { host := some (Authority.step cr s (line payload now)).2
            handled := (line payload now, (Authority.step cr s (line payload now)).1) ::
              handled } := by
        refine ⟨fun s' hs' => ?_, hredeemed⟩
        cases hs'
        exact hvouches.step (line payload now)
      simp only [request]
      cases readResponse (Authority.step cr s (line payload now)).1.toJson <;> exact hanswered

theorem client_vouching (link : Link) (payload : Json) :
    Steps (Preserves (Vouching cr host)) (client cr link payload) :=
  request_vouching link.fate link.now payload

end

/-! ## What the authority reads of the evidence -/

theorem dlookup_checks (checks : List (String × Bool)) (name : String) :
    (checks.map fun check => (⟨check.1, check.2⟩ : Sigma fun _ : String => Bool)).dlookup name =
      checks.lookup name := by
  induction checks with
  | nil => rfl
  | cons check checks ih =>
    obtain ⟨other, value⟩ := check
    by_cases h : name = other
    · subst h
      simp
    · rw [List.map_cons, List.dlookup_cons_ne _ _ h, ih, List.lookup_cons, beq_false_of_ne h]

theorem readChecks_checks (checks : List (String × Bool)) :
    Serde.readChecks (.obj (checks.map fun check => (check.1, .bool check.2))) =
      some (checks.map fun check => (⟨check.1, check.2⟩ : Sigma fun _ : String => Bool)).toFinmap := by
  have h : (checks.map fun check => (check.1, Json.bool check.2)).mapM
      (fun field => (Serde.readBool field.2).map (Sigma.mk (β := fun _ : String => Bool) field.1)) =
      some (checks.map fun check => (⟨check.1, check.2⟩ : Sigma fun _ : String => Bool)) := by
    induction checks with
    | nil => rfl
    | cons check checks ih =>
      rw [List.map_cons, List.mapM_cons, ih]
      rfl
  simp only [Serde.readChecks, h, Option.map_some]

/-- The numbers and the checks are read as they were written. -/
theorem readFrom_eq {readiness : Readiness} {evidence : ReadinessEvidence}
    (h : ReadFrom readiness evidence) :
    Serde.readInt64 (.int readiness.observedAtMs) = some evidence.observedAtMs ∧
      Serde.readReading (.float readiness.rangeM) = some evidence.rangeM ∧
      Serde.readReading (.float readiness.closingRateMps) = some evidence.closingRateMps ∧
      ∀ name, evidence.checks.lookup name = readiness.checks.lookup name := by
  simp only [ReadFrom, Serde.readReadiness, Option.bind_eq_bind, Option.bind_eq_some_iff,
    Option.pure_def, Option.some.injEq] at h
  obtain ⟨_, ⟨_, hfield, hobserved⟩, _, ⟨_, hfield', hrange⟩, _, ⟨_, hfield'', hrate⟩, _,
    ⟨_, hfield''', hchecks⟩, rfl⟩ := h
  cases hfield
  cases hfield'
  cases hfield''
  cases hfield'''
  refine ⟨hobserved, hrange, hrate, fun name => ?_⟩
  rw [readChecks_checks, Option.some.injEq] at hchecks
  rw [← hchecks, Finmap.dlookup_list_toFinmap, dlookup_checks]

/-! ## Where a stage may be entered from -/

/-- The state and the range of a vehicle that may enter a stage. Ranges are exact numbers. -/
def Permits (state : UInt8) (rangeM : ℚ) : Stage → Prop
  | .hold => False
  | .approach => state = Stage.hold.number ∧ |rangeM - 332 / 100| ≤ 1 / 100
  | .finalApproach => rangeM ≤ 112 / 100
  | .softCapture => rangeM ≤ 32 / 100
  | .hardDock => state = Stage.softCapture.number ∧ rangeM ≤ 4 / 100

/-- A limit in millimetres. -/
theorem permits_range {q limitM : ℚ} {limit : Int} (h : (Reading.finite q).NotAbove limit)
    (hlimit : (limit : ℚ) = 1000 * limitM) : q ≤ limitM := by
  have hle : 1000 * q ≤ (limit : ℚ) := h
  linarith

/-- Evidence that meets the requirement for a stage is from where it may be entered. -/
theorem permits_of_met {message : ReadinessMessage} {status : DockingStatus} {observedAt : Int}
    (made : MadeFrom message (.ofStatus status) observedAt) {evidence : ReadinessEvidence}
    (read : ReadFrom message.readiness evidence) {stage : Stage}
    (hstage : 1 ≤ stage.number.toNat) {credentials : List VerifiedCredentialEvidence}
    {required : Requirement}
    (hrequired : requirement (stageRule stage.number).action = some required)
    (hmet : required.Met credentials true true evidence true) :
    Permits status.state status.rangeM stage := by
  obtain ⟨-, hrange, -, hchecks⟩ := readFrom_eq read
  have hrange : evidence.rangeM = .finite status.rangeM := by
    have := hrange
    rw [show message.readiness.rangeM = message.rangeM from rfl, made.rangeM] at this
    exact (Option.some.inj this).symm
  cases stage with
  | hold => exact absurd hstage (by decide)
  | approach =>
    cases hrequired
    have hcheck := hmet.checks "initial_hold_confirmed" (.head _)
    rw [hchecks] at hcheck
    have hconfirmed : message.initialHoldConfirmed = true := Option.some.inj hcheck
    obtain ⟨hhold, ⟨_, hfinite, hnear⟩, -⟩ := made.initialHold hconfirmed
    cases hfinite
    exact ⟨hhold, hnear⟩
  | finalApproach =>
    cases hrequired
    have hnear := hmet.range 1120 rfl
    exact permits_range (hrange ▸ hnear) (by norm_num)
  | softCapture =>
    cases hrequired
    have hnear := hmet.range 320 rfl
    exact permits_range (hrange ▸ hnear) (by norm_num)
  | hardDock =>
    cases hrequired
    have hnear := hmet.range 40 rfl
    have hcheck := hmet.checks "soft_capture_confirmed" (.head _)
    rw [hchecks] at hcheck
    have hconfirmed : message.softCaptureConfirmed = true := Option.some.inj hcheck
    exact ⟨made.softCapture hconfirmed, permits_range (hrange ▸ hnear) (by norm_num)⟩

/-! ## What the controller reports and enters -/

/-- The range that a status has of a position. -/
def rangeAt (x : ℚ) : ℚ := max 0 (-168 / 100 - x)

/-- A controller that may enter a stage, by its state and its position. -/
def MayEnter (self : Controller) (stage : Stage) : Prop :=
  Permits self.state.number (rangeAt self.x) stage

/-- A status of a controller. -/
structure Reports (controller : Controller) (status : DockingStatus) : Prop where
  state : status.state = controller.state.number
  rangeM : status.rangeM = rangeAt controller.x

theorem status_finishUpdate {tick : Tick} {goal : ℚ} {self : Controller} {status : DockingStatus} :
    .status status ∉ (BaselineController.finishUpdate tick goal self).2 := by
  have asks : ∀ other, .status status ∉ (BaselineController.requestAtGoal tick goal other).2 := by
    intro other
    unfold BaselineController.requestAtGoal BaselineController.requestTransition
    split
    · split <;> simp
    · simp
  unfold BaselineController.finishUpdate
  split
  · split
    · simp
    · exact asks _
  · exact asks _

theorem reports_of_update {p : Parameters} {tick : Tick} {self : Controller}
    {status : DockingStatus} (sent : .status status ∈ (BaselineController.update p tick self).2) :
    Reports (BaselineController.update p tick self).1 status := by
  have hposes : .status status ∉ (BaselineController.advancePose p tick
      (BaselineController.expireRequest p tick self)).2 := by
    intro mem
    obtain ⟨x, hx⟩ := BaselineController.advancePose_sent _ _ _ _ mem
    cases hx
  have hmotion := BaselineController.update_motion p tick self
  have hreports : Reports (BaselineController.advancePose p tick
      (BaselineController.expireRequest p tick self)).1 status := by
    unfold BaselineController.update at sent
    simp only at sent
    split at sent
    · exact absurd sent hposes
    · rcases List.mem_append.mp sent with mem | mem
      · exact absurd mem hposes
      · rcases List.mem_cons.mp mem with published | mem
        · cases published
          exact ⟨rfl, rfl⟩
        · exact absurd mem status_finishUpdate
  have hstate := BaselineController.motion_state hmotion
  have hx := congrArg BaselineController.Motion.x hmotion
  exact ⟨hreports.state.trans (congrArg Stage.number hstate.symm),
    hreports.rangeM.trans (congrArg rangeAt hx.symm)⟩

/-- A status that is sent is of the controller after the step. -/
theorem reports_of_sent {p : Parameters} {self : Controller} {input : Input}
    {status : DockingStatus}
    (sent : status ∈ (BaselineController.step p self input).1.filterMap status?) :
    Reports (BaselineController.step p self input).2 status := by
  obtain ⟨message, mem, hmessage⟩ := List.mem_filterMap.mp sent
  cases message with
  | transitionRequest | setPose => cases hmessage
  | status message =>
    cases hmessage
    cases input with
    | update tick => exact reports_of_update mem
    | decision | reset | run | prepare => cases mem

/-- The stage that the controller enters in an event. -/
def entered? (e : SystemEvent B) : Option Stage :=
  if nextState e.before.controller.state = some e.after.controller.state then
    some e.after.controller.state
  else none

/-- A stage is entered by a decision that approves it. -/
theorem approved_of_entered (p : Parameters) {e : SystemEvent B} {input : Input} {stage : Stage}
    (hafter : e.after.controller = (BaselineController.step p e.before.controller input).2)
    (h : entered? e = some stage) :
    ∃ decision, input = .decision decision ∧ approvedState? decision = some stage.number := by
  unfold entered? at h
  split at h
  · rename_i goes
    cases h
    rw [hafter] at goes ⊢
    rcases BaselineController.step_advances p e.before.controller input with same | hold |
      ⟨decision, call, -, -, approved, resulting⟩
    · exact absurd (goes.trans (congrArg some same)) TransitionChannel.nextState_ne_self
    · exact absurd (goes.trans (congrArg some hold)) TransitionChannel.nextState_ne_hold
    · refine ⟨decision, call, ?_⟩
      unfold approvedState?
      rw [if_pos approved]
      exact congrArg some resulting
  · cases h

/-! ## Runs -/

/-- The states that the authority redeemed. -/
def redeemedStates (s : System B) : Multiset UInt8 :=
  s.station.authority.handled.filterMap redeemedState?

/-- The stages that the controller entered. -/
def enteredStates (es : List (SystemEvent B)) : Multiset UInt8 :=
  (es.filterMap entered?).map Stage.number

/-- The states that are approved by decisions that were not handled yet. -/
def approvedStates (s : System B) : Multiset UInt8 := s.decisions.filterMap approvedState?

theorem enteredStates_cons_none {e : SystemEvent B} {es : List (SystemEvent B)}
    (h : entered? e = none) : enteredStates (e :: es) = enteredStates es := by
  simp only [enteredStates, List.filterMap_cons, h]

theorem enteredStates_cons_some {e : SystemEvent B} {es : List (SystemEvent B)} {stage : Stage}
    (h : entered? e = some stage) : enteredStates (e :: es) = stage.number ::ₘ enteredStates es := by
  simp only [enteredStates, List.filterMap_cons, h, List.map_cons, ← Multiset.cons_coe]

theorem entered?_of_same {e : SystemEvent B} (h : e.after.controller = e.before.controller) :
    entered? e = none := by
  unfold entered?
  rw [h, if_neg TransitionChannel.nextState_ne_self]

/-- What a decision approves, and what is left of the others. -/
theorem approvedStates_eq {s : System B} {index : Nat} {decision : TransitionDecision}
    (found : s.decisions[index]? = some decision) :
    approvedStates s = (approvedState? decision).toList +
      ((s.decisions.eraseIdx index).filterMap approvedState? : Multiset UInt8) := by
  obtain ⟨bound, rfl⟩ := List.getElem?_eq_some_iff.mp found
  have perm := (List.getElem_cons_eraseIdx_perm bound).filterMap approvedState?
  rw [approvedStates, ← Multiset.coe_eq_coe.mpr perm, List.filterMap_cons, Multiset.coe_add]
  cases approvedState? s.decisions[index] <;> rfl

/-! ## Steps -/

section

variable [ReplayStateBackend B] (cr : Crates) (p : Parameters) (s : System B)

/-- What a call leads to: one of the nodes handles an input, or none does. -/
inductive Handles : SystemCall → System B → Prop where
  | controller {call : SystemCall} (input : Input) (h : ∀ decision, input ≠ .decision decision) :
    Handles call (s.handleAtController p input)
  | monitor {call : SystemCall} (message : ReadinessMonitor.MonitorCall)
    (h : ∀ observedAt received, message = .status observedAt received →
      ∃ status ∈ s.statuses, received = .ofStatus status) :
    Handles call (s.handleAtMonitor message)
  | station {call : SystemCall} (message : StationCall Link)
    (h : ∀ evidence, message.message = .readiness evidence → evidence ∈ s.evidence) :
    Handles call (s.handleAtStation cr message)
  | decision {index : Nat} (decision : TransitionDecision)
    (found : s.decisions[index]? = some decision) :
    Handles (.transitionDecision index)
      { s.handleAtController p (.decision decision) with
        decisions := s.decisions.eraseIdx index }
  | nothing {call : SystemCall} : Handles call s

theorem step_handles (call : SystemCall) : Handles cr p s call (step cr p s call).2 := by
  cases call with
  | controller input elsewhere => exact .controller input elsewhere
  | monitor scenario =>
    refine .monitor _ ?_
    intro _ _ h
    cases h
  | station call elsewhere =>
    refine .station call ?_
    intro evidence h
    exact absurd h (elsewhere evidence)
  | status index observedAt =>
    simp only [step]
    split
    · rename_i status found
      refine .monitor _ ?_
      intro _ _ h
      cases h
      exact ⟨status, List.mem_of_getElem? found, rfl⟩
    · exact .nothing
  | readiness index link =>
    simp only [step]
    split
    · rename_i evidence found
      refine .station _ ?_
      intro _ h
      cases h
      exact List.mem_of_getElem? found
    · exact .nothing
  | transitionDecision index =>
    simp only [step]
    split
    · rename_i decision found
      exact .decision decision found
    · exact .nothing

end

section

variable [ReplayStateBackend B] {cr : Crates} {p : Parameters} {es : List (SystemEvent B)}
  {s s' : System B} {call : SystemCall}

omit [ReplayStateBackend B] in
theorem handleAtController_controller (input : Input) :
    (s.handleAtController p input).controller =
      (BaselineController.step p s.controller input).2 := rfl

theorem handleAtStation_eq (message : StationCall Link) :
    s.handleAtStation cr message =
      { s with
        station := (StationAccess.step (client cr) s.station message).2
        decisions := s.decisions ++
          (StationAccess.step (client cr) s.station message).1.decisions.map (·.1) } := rfl

/-- Only a decision that was published and approves the stage takes the controller to it. -/
theorem Handles.entered (H : Handles cr p s call s') {stage : Stage}
    (h : entered? ⟨s, call, (), s'⟩ = some stage) : ∃ index decision,
      call = .transitionDecision index ∧ s.decisions[index]? = some decision ∧
      approvedState? decision = some stage.number ∧
      s' = { s.handleAtController p (.decision decision) with
        decisions := s.decisions.eraseIdx index } := by
  cases H with
  | controller input elsewhere =>
    obtain ⟨decision, hdecision, -⟩ := approved_of_entered p (handleAtController_controller input) h
    exact absurd hdecision (elsewhere decision)
  | monitor message | station message | nothing =>
    rw [entered?_of_same rfl] at h
    cases h
  | decision decision found =>
    obtain ⟨_, hdecision, happroved⟩ :=
      approved_of_entered p (handleAtController_controller (.decision decision)) h
    cases hdecision
    exact ⟨_, decision, rfl, found, happroved, rfl⟩

end

/-! ## Accounts -/

/-- The approvals that the controller may still get, and the stages that it entered, are redemptions
of the authority. -/
def Balanced (es : List (SystemEvent B)) (s : System B) : Prop :=
  approvedStates s + enteredStates es ≤ redeemedStates s

section

variable [ReplayStateBackend B] {cr : Crates} {p : Parameters} {es : List (SystemEvent B)}
  {s s' : System B} {call : SystemCall}

theorem Balanced.station (H : Balanced es s) (message : StationCall Link) :
    approvedStates (s.handleAtStation cr message) + enteredStates es ≤
      redeemedStates (s.handleAtStation cr message) := by
  have hanswers : ∃ new, (StationAccess.step (client cr) s.station message).2.authority.handled =
      new ++ s.station.authority.handled ∧
      (StationAccess.step (client cr) s.station message).1.approvals.Sublist
        (new.filterMap redeemedState?) := step_answers s.station message
  obtain ⟨new, hnew, hsub⟩ := hanswers
  have hle : ((StationAccess.step (client cr) s.station message).1.approvals : Multiset UInt8) ≤
      (new.filterMap redeemedState? : List UInt8) := Multiset.coe_le.mpr hsub.subperm
  have hbalance := add_le_add hle H
  rw [handleAtStation_eq]
  simp only [approvedStates, redeemedStates, hnew, List.filterMap_append, List.filterMap_map,
    ← Multiset.coe_add] at hbalance ⊢
  calc _ = _ := by
        rw [add_comm (Multiset.ofList (s.decisions.filterMap approvedState?)), add_assoc]
        rfl
    _ ≤ _ := hbalance

/-- One step. -/
theorem Balanced.cons (H : Balanced es s) (h : Handles cr p s call s') :
    Balanced (⟨s, call, (), s'⟩ :: es) s' := by
  unfold Balanced
  cases hentered : entered? (⟨s, call, (), s'⟩ : SystemEvent B) with
  | some stage =>
    obtain ⟨index, decision, rfl, found, happroved, rfl⟩ := h.entered hentered
    rw [enteredStates_cons_some hentered, Multiset.add_cons, ← Multiset.cons_add]
    have hbalance := H
    rw [Balanced, approvedStates_eq found, happroved] at hbalance
    exact hbalance
  | none =>
    rw [enteredStates_cons_none hentered]
    cases h with
    | controller | monitor | nothing => exact H
    | station message => exact H.station message
    | decision decision found =>
      have hbalance := H
      rw [Balanced, approvedStates_eq found] at hbalance
      exact le_trans (add_le_add_left (Multiset.le_add_left _ _) _) hbalance

end

/-! ## Evidence -/

/-- What was published comes from the controller, the station has and asks with what was published,
and its authority redeems what it approved. -/
structure Accounted [ReplayStateBackend B] (cr : Crates) (host : Option (Host B))
    (es : List (SystemEvent B)) (s : System B) : Prop where
  statuses : ∀ status ∈ s.statuses, ∃ e ∈ es, Reports e.after.controller status
  evidence : ∀ message ∈ s.evidence, ∃ status ∈ s.statuses, ∃ observedAt,
    MadeFrom message (.ofStatus status) observedAt
  fed : s.station.Fed fun readiness => ∃ message ∈ s.evidence, readiness = message.readiness
  vouching : Vouching cr host s.station.authority

section

variable [ReplayStateBackend B] {cr : Crates} {host : Option (Host B)} {p : Parameters}
  {es : List (SystemEvent B)} {s s' : System B} {call : SystemCall}

theorem Accounted.later (H : Accounted cr host es s) (e : SystemEvent B) :
    Accounted cr host (e :: es) s where
  statuses status mem := by
    obtain ⟨e', he', hreports⟩ := H.statuses status mem
    exact ⟨e', .tail _ he', hreports⟩
  evidence := H.evidence
  fed := H.fed
  vouching := H.vouching

theorem Accounted.controller (H : Accounted cr host es s) (call : SystemCall) (input : Input)
    (decisions : List TransitionDecision) :
    Accounted cr host
      (⟨s, call, (), { s.handleAtController p input with decisions }⟩ :: es)
      { s.handleAtController p input with decisions } where
  statuses status mem := by
    rcases List.mem_append.mp mem with mem | mem
    · obtain ⟨e, he, hreports⟩ := H.statuses status mem
      exact ⟨e, .tail _ he, hreports⟩
    · exact ⟨_, .head _, reports_of_sent mem⟩
  evidence message mem := by
    obtain ⟨status, hstatus, observedAt, hmade⟩ := H.evidence message mem
    exact ⟨status, List.mem_append_left _ hstatus, observedAt, hmade⟩
  fed := H.fed
  vouching := H.vouching

theorem Accounted.monitor (H : Accounted cr host es s) {message : ReadinessMonitor.MonitorCall}
    (hstatus : ∀ observedAt received, message = .status observedAt received →
      ∃ status ∈ s.statuses, received = .ofStatus status) :
    Accounted cr host es (s.handleAtMonitor message) where
  statuses := H.statuses
  evidence evidence mem := by
    rcases List.mem_append.mp mem with mem | mem
    · exact H.evidence evidence mem
    · obtain ⟨observedAt, received, hmessage, hmade⟩ :=
        ReadinessMonitor.madeFrom_of_step (Option.mem_toList.mp mem)
      obtain ⟨status, hsent, rfl⟩ := hstatus observedAt received hmessage
      exact ⟨status, hsent, observedAt, hmade⟩
  fed := by
    refine H.fed.mono ?_
    rintro readiness ⟨evidence, mem, hreadiness⟩
    exact ⟨evidence, List.mem_append_left _ mem, hreadiness⟩
  vouching := H.vouching

theorem Accounted.station (H : Accounted cr host es s) {message : StationCall Link}
    (hevidence : ∀ evidence, message.message = .readiness evidence → evidence ∈ s.evidence) :
    Accounted cr host es (s.handleAtStation cr message) := by
  have hfed : (StationAccess.step (client cr) s.station message).2.Fed
      fun readiness => ∃ evidence ∈ s.evidence, readiness = evidence.readiness :=
    H.fed.step message fun evidence hmessage => ⟨evidence, hevidence evidence hmessage, rfl⟩
  have hvouching : Preserves (Vouching cr host) s.station.authority
      (StationAccess.step (client cr) s.station message).2.authority :=
    step_onAuthority client_vouching s.station message
  rw [handleAtStation_eq]
  exact ⟨H.statuses, H.evidence, hfed, hvouching H.vouching⟩

/-- One step. -/
theorem Accounted.cons (H : Accounted cr host es s) (h : Handles cr p s call s') :
    Accounted cr host (⟨s, call, (), s'⟩ :: es) s' := by
  cases h with
  | controller input => exact H.controller call input s.decisions
  | monitor message hstatus => exact (H.monitor hstatus).later _
  | station message hevidence => exact (H.station hevidence).later _
  | decision decision => exact H.controller _ (.decision decision) _
  | nothing => exact H.later _

/-- A system over an authority that was started, with the stage rules of the simulation and the
policies of the waystation. -/
theorem start_accounted (hstarted : Started cr host)
    (hdeployed : ∀ h, host = some h → Deployed cr h.engine.config) (now : Int) (link : Link) :
    Accounted cr host [] (System.start cr p now link host) where
  statuses status mem := by cases mem
  evidence message mem := by cases mem
  fed := start_fed host link
  vouching := by
    have hstart : Preserves (Vouching cr host) ({ host } : AuthorityClient.Process B)
        (Station.start (client cr link) { host }).authority :=
      start_onAuthority (client_vouching link) _
    apply hstart
    refine ⟨?_, fun later entry earlier heq => by cases later <;> cases heq⟩
    intro h hh
    have hconducted := hstarted.sound h hh
    have hafter : authorityAfter cr host [] = some h := (congrArg (Option.map _) hh :)
    refine ⟨hafter, hconducted.sound, hdeployed h hh, ?_⟩
    intro grantId pending hpending
    obtain ⟨-, _, -, entry, mem, -⟩ := hconducted.pending grantId pending hpending
    cases mem

end

/-! ## Stages that are entered -/

/-- A request for a stage was approved, after the lines `before`, on evidence of a status that the
controller published from where the stage may be entered, less than the maximum age of the evidence
and a second before. Floats are not rounded. -/
structure GroundedOn [ReplayStateBackend B] (cr : Crates) (host : Option (Host B))
    (older : List (SystemEvent B)) (s : System B) (stage : Stage)
    (before : List (Line × Authority.Response)) (request : Line × Authority.Response)
    (evidence : ReadinessEvidence) (message : ReadinessMessage) (status : DockingStatus)
    (observedAt : Int) : Prop where
  approved : ApprovedFor cr host before request stage.number evidence
  published : message ∈ s.evidence
  read : ReadFrom message.readiness evidence
  reported : status ∈ s.statuses
  made : MadeFrom message (.ofStatus status) observedAt
  permitted : ∃ e ∈ older, Reports e.after.controller status ∧ MayEnter e.after.controller stage
  age : request.1.now.nanos - observedAt <
    ((stageRule stage.number).readiness.maximumAgeMs.toInt + 1000) * 10 ^ 6

/-- A stage was redeemed, after a request for it that had grounds. -/
structure EnteredOn [ReplayStateBackend B] (cr : Crates) (host : Option (Host B))
    (older : List (SystemEvent B)) (s : System B) (stage : Stage) : Prop where
  exists_request : ∃ later redemption between request before,
    s.station.authority.handled = later ++ redemption :: (between ++ request :: before) ∧
    redeemedState? redemption = some stage.number ∧
    ∃ evidence message status observedAt,
      GroundedOn cr host older s stage before request evidence message status observedAt

/-- The age of evidence, by the clock of the authority and the time of the observation. -/
theorem age_lt {now : SystemTime} {evidence : ReadinessEvidence} {message : ReadinessMessage}
    {status : DockingStatus} {observedAt : Int}
    (made : MadeFrom message (.ofStatus status) observedAt)
    (read : ReadFrom message.readiness evidence) {maximumAgeMs : Int64}
    (hmaximum : maximumAgeMs.toInt < 10 ^ 6) (hage : evidence.ageMs now.unixTime ≤ maximumAgeMs) :
    now.nanos - observedAt < (maximumAgeMs.toInt + 1000) * 10 ^ 6 := by
  obtain ⟨hobserved, -⟩ := readFrom_eq read
  have hobserved : evidence.observedAtMs.toInt = observedAt / 10 ^ 6 := by
    rw [made.observedAtMs] at hobserved
    simp only [Serde.readInt64] at hobserved
    split at hobserved
    · rename_i fits
      rw [← Option.some.inj hobserved]
      exact Int64.toInt_ofInt_of_le fits.1 fits.2
    · cases hobserved
  have hnow : now.nanos < now.unixTime.toInt * 10 ^ 9 + 10 ^ 9 := by
    by_cases hepoch : 0 ≤ now.nanos
    · rw [SystemTime.toInt_unixTime hepoch, SystemTime.millis]
      omega
    · rw [SystemTime.unixTime, if_neg hepoch]
      simp only [Int64.toInt_zero]
      omega
  have hms : ((now.unixTime.saturatingMul 1000).toInt : Int) =
      max (-2 ^ 63) (min (now.unixTime.toInt * 1000) (2 ^ 63 - 1)) := Int64.toInt_ofIntClamp_eq _
  have hrange := made.inRange
  rcases Int64.saturatingSub_le.mp hage with hle | rfl
  · rw [hms, hobserved] at hle
    omega
  · exact absurd hmaximum (by decide)

theorem maximumAgeMs_lt (requestedState : UInt8) :
    (stageRule requestedState).readiness.maximumAgeMs.toInt < 10 ^ 6 := by
  unfold stageRule
  split <;> decide

variable [ReplayStateBackend B] {cr : Crates} {p : Parameters}

/-- What a decision approves that the controller can get. -/
theorem Accounted.enteredOn {host : Option (Host B)} {es : List (SystemEvent B)} {s : System B}
    (H : Accounted cr host es s) (balanced : Balanced es s) {index : Nat}
    {decision : TransitionDecision} (found : s.decisions[index]? = some decision) {stage : Stage}
    (approved : approvedState? decision = some stage.number) : EnteredOn cr host es s stage := by
  have happroved : stage.number ∈ approvedStates s :=
    List.mem_filterMap.mpr ⟨decision, List.mem_of_getElem? found, approved⟩
  have hredeemed : stage.number ∈ redeemedStates s :=
    Multiset.mem_of_le (le_trans (Multiset.le_add_right _ _) balanced) happroved
  obtain ⟨redemption, hmem, hstate⟩ := List.mem_filterMap.mp (Multiset.mem_coe.mp hredeemed)
  obtain ⟨later, earlier, hsplit⟩ := List.append_of_mem hmem
  obtain ⟨between, request, before, rfl, evidence, hfor⟩ :=
    H.vouching.redeemed later redemption earlier hsplit _ hstate
  obtain ⟨_, nowS, required, -, hinput, hrequired, -, hmet, hage⟩ := hfor.exists_request
  have hhandled : request ∈ s.station.authority.handled := by
    rw [hsplit]
    exact List.mem_append_right _ (.tail _ (List.mem_append_right _ (.head _)))
  obtain ⟨rfl, readiness, ⟨message, hpublished, rfl⟩, hread⟩ :=
    H.fed.asks request hhandled stage.number nowS evidence hinput
  obtain ⟨status, hreported, observedAt, hmade⟩ := H.evidence message hpublished
  obtain ⟨e, he, hreports⟩ := H.statuses status hreported
  have hpermits := permits_of_met hmade hread hfor.inRange.1 hrequired hmet
  rw [hreports.state, hreports.rangeM] at hpermits
  exact ⟨later, redemption, between, request, before, hsplit, hstate, evidence, message, status,
    observedAt, hfor, hpublished, hread, hreported, hmade, ⟨e, he, hreports, hpermits⟩,
    age_lt hmade hread (maximumAgeMs_lt _) hage⟩

section

variable (cr : Crates) (p : Parameters) (now : Int) (link : Link) (host : Option (Host B))
  (calls : List SystemCall)

/-- After a run, every decision that the controller may still get, and every stage that it entered,
is of a redemption of its own. -/
theorem balanced : Balanced (Run.history (step cr p) (System.start cr p now link host) calls)
    (Run.state (step cr p) (System.start cr p now link host) calls) :=
  Run.invariant (step cr p) _ (Multiset.zero_le _) (fun _ s call H => H.cons (step_handles cr p s call))
    calls

/-- The stages that the controller entered, as often as it entered them, are redemptions of the
authority: none of them is entered on the redemption of another. -/
theorem entered_redeemed :
    enteredStates (Run.history (step cr p) (System.start cr p now link host) calls) ≤
      redeemedStates (Run.state (step cr p) (System.start cr p now link host) calls) :=
  le_trans (Multiset.le_add_left _ _) (balanced cr p now link host calls)

end

theorem accounted {host : Option (Host B)} (hstarted : Started cr host)
    (hdeployed : ∀ h, host = some h → Deployed cr h.engine.config) (now : Int) (link : Link)
    (calls : List SystemCall) :
    Accounted cr host (Run.history (step cr p) (System.start cr p now link host) calls)
      (Run.state (step cr p) (System.start cr p now link host) calls) :=
  Run.invariant (step cr p) _ (start_accounted hstarted hdeployed now link)
    (fun _ s call H => Accounted.cons H (step_handles cr p s call)) calls

theorem enteredOn_of_history {now : Int} {link : Link} {host : Option (Host B)}
    (hstarted : Started cr host) (hdeployed : ∀ h, host = some h → Deployed cr h.engine.config)
    {calls : List SystemCall} {newer older : List (SystemEvent B)} {e : SystemEvent B}
    (h : Run.history (step cr p) (System.start cr p now link host) calls = newer ++ e :: older)
    {stage : Stage} (entered : entered? e = some stage) :
    EnteredOn cr host older e.before stage := by
  obtain ⟨previous, call, rfl, rfl⟩ := Run.history_split h
  have haccounted := accounted (p := p) hstarted hdeployed now link previous
  obtain ⟨index, decision, -, found, approved, -⟩ :=
    (step_handles cr p (Run.state (step cr p) (System.start cr p now link host) previous)
      call).entered entered
  exact haccounted.enteredOn (balanced cr p now link host previous) found approved

/-- Before the controller enters a stage, its authority redeemed the stage, and before that approved
a request for it, on the credentials that it had verified by then and on evidence of where the
controller was: a report of its own from where the stage may be entered. Floats are not rounded. -/
theorem entered_on_evidence {now : Int} {link : Link} {host : Option (Host B)}
    (hstarted : Started cr host) (hdeployed : ∀ h, host = some h → Deployed cr h.engine.config)
    {calls : List SystemCall} {newer older : List (SystemEvent B)} {e : SystemEvent B}
    (h : Run.history (step cr p) (System.start cr p now link host) calls = newer ++ e :: older)
    {stage : Stage} (entered : entered? e = some stage) : EnteredOn cr host older e.before stage :=
  enteredOn_of_history hstarted hdeployed h entered

/-! ## The first stage -/

/-- The engine of the simulation. -/
theorem deployed_environment {host : Host FileReplayStateBackend}
    (h : Authority.start reference Simulation.environment Simulation.newYearS = .ok host) :
    ∀ started, some host = some started → Deployed reference started.engine.config := by
  rintro _ ⟨⟩
  obtain ⟨setup, hsetup, henable⟩ := Authority.start_eq_ok.mp h
  have hkept := (enablePersistentState_steps Simulation.environment.openFile).ok henable
  have hconfig : host.engine.config = setup.config := (congrArg (·.config) hkept.2 :)
  obtain ⟨bundle, hconfigured⟩ := Authority.setup_ok hsetup
  have hprofile : .ok Simulation.protocolProfile = Except.ok setup.config.protocolProfile :=
    hconfigured.protocolProfile
  rw [hconfig]
  refine ⟨?_, reference_evaluates _⟩
  rw [← Except.ok.inj hprofile]

/-- An update that finds the last pose acknowledged, some seconds after the start. -/
def updateAt (seconds : Int) : SystemCall :=
  .controller (.update (TransitionChannel.tickAt (seconds * 1000000000))) fun _ h => by cases h

def runCall : SystemCall := .controller (.run "nominal") fun _ h => by cases h

/-- What the chaser's node publishes for the station. -/
def chaserCall (payload : Json) : SystemCall :=
  .station (Simulation.toStation payload) fun _ h => by cases h

/-- The controller is run and asks for the approach, the station gets evidence of its first status,
and issues a grant. -/
def approachCalls : List SystemCall :=
  [chaserCall (ChaserAccess.transitionRequest {} ⟨1, "docking-controller", "approach"⟩),
    .readiness 0 Simulation.answered, .status 0 1767225601000000000, updateAt 3, updateAt 0,
    updateAt 0, runCall,
    chaserCall (ChaserAccess.accessRequest {} "run")]

/-- The grant is presented. -/
def presentation (s : System FileReplayStateBackend) : SystemCall :=
  .station (Simulation.presentationCall s.station) fun _ h => by cases h

abbrev simulationAfter (host : Host FileReplayStateBackend) (calls : List SystemCall) :
    System FileReplayStateBackend :=
  Run.state (step reference {})
    (System.start reference {} 0 Simulation.answered (some host)) calls

abbrev presentedCalls (host : Host FileReplayStateBackend) : List SystemCall :=
  presentation (simulationAfter host approachCalls) :: approachCalls

theorem approach_runs : ((Authority.start reference Simulation.environment
    Simulation.newYearS).toOption.any fun host =>
      entered? (Run.event (step reference {}) (simulationAfter host (presentedCalls host))
        (.transitionDecision 0)) == some .approach) = true := by
  decide +kernel

/-- The approach of the simulation. -/
theorem entered_on_evidence_approach : ∃ host older s,
    EnteredOn reference (some (host : Host FileReplayStateBackend)) older s .approach := by
  obtain ⟨host, hstart, hentered⟩ := Simulation.exists_of_toOption_any approach_runs
  have hhistory : Run.history (step reference {})
      (System.start reference {} 0 Simulation.answered (some host))
      (.transitionDecision 0 :: presentedCalls host) = [] ++ _ :: _ := rfl
  exact ⟨_, _, _, entered_on_evidence (Simulation.started_environment hstart)
    (deployed_environment hstart) hhistory (eq_of_beq hentered)⟩

end Access.Docking
