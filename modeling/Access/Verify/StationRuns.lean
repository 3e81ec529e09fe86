import Access.ChaserAccess
import Access.Verify.StationAccess
import Access.Verify.Windows

/-! # Runs of the station

Between its messages a station that runs has a session that is not ready, or one that is its
authority's (`Station.Sound`). A presentation is not checked against either, so a grant is redeemed
in a session of the station exactly if that session is ready when the presentation is handled. -/

namespace Access.StationAccess

open EStateM Python Authority AuthorityClient

/-- A station over an authority. -/
structure Station.Sound (s : Station (AuthorityClient.Process B)) : Prop where
  authority : s.authority.Sound
  linked : ∀ node, s.node = some node → Linked node s.authority

/-- A station with a session that is ready. -/
def Station.Ready (s : Station A) : Prop :=
  ∃ node, s.node = some node ∧ node.sessionReady = true

/-- A decision on a grant that was issued in the session which the station had when it published the
decision, and which was ready. -/
structure InSession (e : StationEvent (AuthorityClient.Process B) Link)
    (d : TransitionDecision × StationNode) : Prop where
  ready : d.2.sessionReady = true
  issued : ∃ sessionId, d.2.sessionId = .str sessionId ∧
    IssuedIn e.after.authority.handled sessionId d.1.grantId

/-- An authority that was started, or could not be. -/
def Started [ReplayStateBackend B] (cr : Crates) (host : Option (Host B)) : Prop :=
  ∀ h, host = some h → ∃ env startedAtS, Authority.start cr env startedAtS = .ok h

section

variable [ReplayStateBackend B] {cr : Crates} {s : Station (AuthorityClient.Process B)}
  {host : Option (Host B)}

theorem Started.sound (h : Started cr host) : ({ host } : AuthorityClient.Process B).Sound := by
  intro host hhost
  obtain ⟨env, startedAtS, hstart⟩ := h host hhost
  obtain ⟨setup, -, henable⟩ := Authority.start_eq_ok.mp hstart
  have hkept := (enablePersistentState_steps env.openFile).ok henable
  have hpending : host.engine.pendingEntitlements = ∅ :=
    (congrArg AccessEngine.pendingEntitlements hkept.2 :)
  have hsession : host.engine.sessionId = none := (congrArg AccessEngine.sessionId hkept.2 :)
  constructor
  · intro id hid
    cases hsession.symm.trans hid
  · intro grantId entitlement hlookup
    rw [hpending, Finmap.lookup_empty] at hlookup
    cases hlookup

/-- The constructor asks for a description only. -/
theorem start_sound (h : Started cr host) (link : Link) :
    (Station.start (client cr link) { host }).Sound := by
  have H : Ensures (StationNode.init (client cr link)) ({ host } : AuthorityClient.Process B)
      (fun node p => p.Sound ∧ node.sessionReady = false) fun _ p => p.Sound := by
    refine ensures_bind.mpr (ensures_attempt.mpr ?_)
    refine (request_ensures h.sound).mono ?_ ?_
    · intro json p hexchange
      refine ensures_bind.mpr (ensures_ofExcept.mpr ⟨?_, fun _ _ => hexchange.2.sound⟩)
      intro _ _
      exact ⟨hexchange.2.sound, rfl⟩
    · intro e p hexchange
      refine ⟨fun _ => ?_, fun _ => hexchange.sound⟩
      refine ensures_bind.mpr (ensures_ofExcept.mpr ⟨?_, fun _ _ => hexchange.sound⟩)
      intro _ _
      exact ⟨hexchange.sound, rfl⟩
  unfold Station.start
  cases hinit : StationNode.init (client cr link) ({ host } : AuthorityClient.Process B) with
  | ok node p =>
    obtain ⟨hsound, hready⟩ := H.of_ok hinit
    refine ⟨hsound, ?_⟩
    intro node' hnode
    cases hnode
    exact .of_not_ready hready
  | error e p =>
    refine ⟨H.of_error hinit, ?_⟩
    intro node hnode
    cases hnode

/-- What a station that runs does with a message. -/
theorem Station.Sound.handled (H : s.Sound) (cr : Crates) {node : StationNode}
    (hnode : s.node = some node) (call : StationCall Link) : ∃ node',
      Handled call.message { node, authority := s.authority }
        { node := node', authority := (step (client cr) s call).2.authority,
          published := (step (client cr) s call).1 } ∧
      ∀ node'', (step (client cr) s call).2.node = some node'' →
        Linked node'' (step (client cr) s call).2.authority := by
  have hcarried : Carried call.message { node, authority := s.authority }
      ({ node, authority := s.authority } : StationHost (AuthorityClient.Process B)) :=
    ⟨.rfl H.authority, H.linked node hnode, rfl⟩
  have hensures : Ensures (handle (request cr call.link.fate call.link.now) call.message)
      { node, authority := s.authority }
      (fun _ t => Handled call.message { node, authority := s.authority } t ∧
        Linked t.node t.authority)
      fun _ t => Handled call.message { node, authority := s.authority } t := handle_ensures hcarried
  obtain ⟨_, p⟩ := s
  cases hnode
  simp only [step]
  cases hresult : handle (client cr call.link) call.message { node, authority := p } with
  | ok u t =>
    obtain ⟨hhandled, hlinked⟩ := hensures.of_ok hresult
    refine ⟨t.node, hhandled, ?_⟩
    intro node'' hnode''
    cases hnode''
    exact hlinked
  | error e t =>
    refine ⟨t.node, hensures.of_error hresult, ?_⟩
    intro node'' hnode''
    cases hnode''

/-- One message. -/
theorem Station.Sound.step (H : s.Sound) (call : StationCall Link) :
    (StationAccess.step (client cr) s call).2.Sound := by
  cases hnode : s.node with
  | none =>
    simp only [StationAccess.step, hnode]
    exact H
  | some node =>
    obtain ⟨node', hhandled, hlinked⟩ := H.handled cr hnode call
    exact ⟨hhandled.asked.sound, hlinked⟩

/-- Every run. -/
theorem run_sound (h : Started cr host) (link : Link) (calls : List (StationCall Link)) :
    (Run.state (StationAccess.step (client cr)) (Station.start (client cr link) { host })
      calls).Sound :=
  Run.invariant (I := fun _ s => Station.Sound s) _ _ (start_sound h link)
    (fun _ _ call H => H.step call) calls

/-- One decision. -/
theorem Station.Sound.inSession_iff (H : s.Sound) (call : StationCall Link)
    {d : TransitionDecision × StationNode}
    (hd : d ∈ (StationAccess.step (client cr) s call).1.decisions) (happroved : d.1.approved = true) :
    InSession (Run.event (StationAccess.step (client cr)) s call) d ↔ s.Ready := by
  cases hnode : s.node with
  | none =>
    simp only [StationAccess.step, hnode] at hd
    cases hd
  | some node =>
    obtain ⟨node', hhandled, -⟩ := H.handled cr hnode call
    obtain ⟨⟨engine, sessionId, hhost, hid, hissued⟩, hsession⟩ := hhandled.decisions d hd happroved
    obtain ⟨hready, hsame⟩ := Prod.mk.inj hsession
    constructor
    · intro hin
      exact ⟨node, hnode, hready.symm.trans hin.ready⟩
    · rintro ⟨_, hnode', hnodeReady⟩
      cases hnode.symm.trans hnode'
      obtain ⟨sessionId', hid', hlinked⟩ := H.linked node hnode hnodeReady engine hhost
      cases hid.symm.trans hid'
      exact ⟨hready.trans hnodeReady, sessionId, hsame.trans hlinked,
        hissued.mono hhandled.asked.logs.subset⟩

end

/-- In every run of a station over an authority that was started, whatever becomes of its requests:
an approved decision is on a grant of the session which the station has when it publishes the
decision, and that session is ready, if and only if it was ready when the message came. -/
theorem approved_in_session_iff [ReplayStateBackend B] (cr : Crates) (host : Option (Host B))
    (hstarted : Started cr host) (link : Link) (calls : List (StationCall Link))
    (e : StationEvent (AuthorityClient.Process B) Link)
    (he : e ∈ Run.history (StationAccess.step (client cr)) (Station.start (client cr link) { host })
      calls) (d : TransitionDecision × StationNode) (hd : d ∈ e.reply.decisions)
    (happroved : d.1.approved = true) : InSession e d ↔ e.before.Ready := by
  obtain ⟨later, earlier, hsplit⟩ := List.append_of_mem he
  obtain ⟨previous, call, rfl, -⟩ := Run.history_split hsplit
  exact (run_sound hstarted link previous).inSession_iff call hd happroved

end Access.StationAccess

/-! ## Runs with a grant -/

namespace Access.Simulation

open Authority AuthorityClient StationAccess

/-- The text of `Hex.encode`, made of its bytes. -/
def hexText (b : Bytes) : String where
  toByteArray := ⟨(Hex.digits b).toArray⟩
  isValidUTF8 := by
    have h : (⟨(Hex.digits b).toArray⟩ : ByteArray) = (Hex.encode b).toByteArray := by
      rw [← Hex.asBytes_encode]
      rfl
    rw [h]
    exact (Hex.encode b).isValidUTF8

/-- A request that is answered a second after the start. -/
def answered : Link := ⟨.answered, ⟨1767225601000000000, by decide⟩⟩

def toStation (payload : Json) : StationCall Link := ⟨.chaserProtocol (.ok payload), answered⟩

def accessCall : StationCall Link := toStation (ChaserAccess.accessRequest {} "run")

/-- Evidence of that second, for an approach. -/
def readinessCall : StationCall Link where
  message := .readiness
    { sec := 1767225601
      nanosec := 0
      rangeM := .finite (332 / 100)
      closingRateMps := .finite (1 / 100)
      initialHoldConfirmed := true
      retreatAvailable := true
      relativeNavigationValid := true
      approachCorridorClear := true
      closingRateWithinLimit := true
      alignmentWithinLimit := true
      captureSystemReady := false
      softCaptureConfirmed := false
      latchesReady := false
      relativeMotionStable := false }
  link := answered

def requestCall : StationCall Link :=
  toStation (ChaserAccess.transitionRequest {} ⟨1, "docking-controller", "approach"⟩)

/-- The presentation of what the authority signed last. -/
def presentationCall (s : Station (AuthorityClient.Process FileReplayStateBackend)) :
    StationCall Link :=
  toStation (ChaserAccess.entitlementPresentation {} 1 .null
    (.str (hexText (s.authority.host.elim [] fun host => lastSigned host.world))))

abbrev stationStart (host : Host FileReplayStateBackend) :
    Station (AuthorityClient.Process FileReplayStateBackend) :=
  Station.start (client reference answered) { host := some host }

abbrev stationAfter (host : Host FileReplayStateBackend) (calls : List (StationCall Link)) :
    Station (AuthorityClient.Process FileReplayStateBackend) :=
  Run.state (StationAccess.step (client reference)) (stationStart host) calls

/-- A grant is issued. -/
def grantCalls : List (StationCall Link) := [requestCall, readinessCall, accessCall]

/-- After that the session is cleared. -/
def clearedCalls : List (StationCall Link) :=
  readinessCall :: ⟨.prepare, answered⟩ :: grantCalls

/-- A node whose session is ready, or is not, answers the presentation with an approved decision. -/
def approvedWith (ready : Bool) (s : Station (AuthorityClient.Process FileReplayStateBackend)) :
    Bool :=
  s.node.any (fun node => node.sessionReady == ready) &&
    (StationAccess.step (client reference) s (presentationCall s)).1.decisions.any fun d =>
      d.1.approved && d.2.sessionReady == ready

theorem exists_of_approvedWith {ready : Bool}
    {s : Station (AuthorityClient.Process FileReplayStateBackend)}
    (h : approvedWith ready s = true) :
    (∃ node, s.node = some node ∧ node.sessionReady = ready) ∧
      ∃ d ∈ (Run.event (StationAccess.step (client reference)) s
          (presentationCall s)).reply.decisions,
        d.1.approved = true ∧ d.2.sessionReady = ready := by
  obtain ⟨hnode, hdecisions⟩ := Bool.and_eq_true_iff.mp h
  obtain ⟨d, hd, happroved⟩ := List.any_eq_true.mp hdecisions
  obtain ⟨happroved, hready⟩ := Bool.and_eq_true_iff.mp happroved
  refine ⟨?_, d, hd, happroved, eq_of_beq hready⟩
  cases hs : s.node with
  | none =>
    rw [hs] at hnode
    cases hnode
  | some node =>
    rw [hs] at hnode
    exact ⟨node, rfl, eq_of_beq hnode⟩

/-- The first request of a chaser that has a session. -/
def chaserRequest (sessionId : Json) : StationCall Link :=
  toStation (ChaserAccess.transitionRequest { sessionId, sequence := 1 }
    ⟨1, "docking-controller", "approach"⟩)

/-- The station has a session, and evidence. -/
def readyCalls : List (StationCall Link) := [readinessCall, accessCall]

def sessionOf (s : Station A) : Json := s.node.elim .null (·.sessionId)

def issues (entry : Line × Authority.Response) : Bool :=
  match entry.1.input, entry.2.value with
  | .ok (.transition ..), some (.transition out) =>
    out.approved && out.sessionId.isSome && out.grantId.isSome
  | _, _ => false

/-- A message leads to a grant. -/
def grantsAt (s : Station (AuthorityClient.Process FileReplayStateBackend))
    (call : StationCall Link) : Bool :=
  let handled := (StationAccess.step (client reference) s call).2.authority.handled
  handled.length == s.authority.handled.length + 1 && handled.head?.any issues

/-- A grant is redeemed in its session, and after that was cleared. -/
def redeems (host : Host FileReplayStateBackend) : Bool :=
  approvedWith true (stationAfter host grantCalls) &&
    approvedWith false (stationAfter host clearedCalls)

/-- A request leads to a grant, also one without a session, and that one again when it is repeated. -/
def grants (host : Host FileReplayStateBackend) : Bool :=
  let s := stationAfter host readyCalls
  grantsAt s (chaserRequest (sessionOf s)) && grantsAt s (chaserRequest .null) &&
    grantsAt (StationAccess.step (client reference) s (chaserRequest .null)).2 (chaserRequest .null)

theorem environment_runs : ((Authority.start reference environment newYearS).toOption.any fun host =>
    redeems host && grants host) = true := by
  decide +kernel

theorem exists_environment_runs : ∃ host,
    Authority.start reference environment newYearS = .ok host ∧
      redeems host = true ∧ grants host = true := by
  obtain ⟨host, hstart, hruns⟩ := exists_of_toOption_any environment_runs
  exact ⟨host, hstart, Bool.and_eq_true_iff.mp hruns⟩

theorem exists_approvedWith : ∃ host, Authority.start reference environment newYearS = .ok host ∧
    approvedWith true (stationAfter host grantCalls) = true ∧
    approvedWith false (stationAfter host clearedCalls) = true := by
  obtain ⟨host, hstart, hredeems, -⟩ := exists_environment_runs
  exact ⟨host, hstart, Bool.and_eq_true_iff.mp hredeems⟩

theorem started_environment {host : Host FileReplayStateBackend}
    (h : Authority.start reference environment newYearS = .ok host) :
    Started reference (some host) := by
  intro h' hhost
  cases hhost
  exact ⟨environment, newYearS, h⟩

/-- The last event of a run. -/
theorem mem_history (host : Host FileReplayStateBackend) (calls : List (StationCall Link))
    (call : StationCall Link) :
    Run.event (StationAccess.step (client reference)) (stationAfter host calls) call ∈
      Run.history (StationAccess.step (client reference)) (stationStart host) (call :: calls) :=
  .head _

end Access.Simulation

namespace Access.StationAccess

open Simulation AuthorityClient

/-- A grant is redeemed in its session. -/
theorem approved_in_session_iff_ready : ∃ e d, d ∈ e.reply.decisions ∧ InSession
    (B := FileReplayStateBackend) e d := by
  obtain ⟨host, hstart, hgranted, -⟩ := exists_approvedWith
  obtain ⟨hready, d, hd, happroved, -⟩ := exists_of_approvedWith hgranted
  exact ⟨_, d, hd, (approved_in_session_iff reference (some host) (started_environment hstart)
    answered _ _ (mem_history host grantCalls _) d hd happroved).mpr hready⟩

/-- A grant is redeemed after its session was cleared. -/
theorem approved_out_of_session :
    ¬∀ (cr : Crates) (host : Option (Host FileReplayStateBackend)), Started cr host →
      ∀ (link : Link) (calls : List (StationCall Link)),
      ∀ e ∈ Run.history (StationAccess.step (client cr)) (Station.start (client cr link) { host })
        calls,
      ∀ d ∈ e.reply.decisions, d.1.approved = true → InSession e d := by
  intro H
  obtain ⟨host, hstart, -, hcleared⟩ := exists_approvedWith
  obtain ⟨-, d, hd, happroved, hready⟩ := exists_of_approvedWith hcleared
  have hin := H reference (some host) (started_environment hstart) answered _ _
    (mem_history host clearedCalls _) d hd happroved
  cases hready.symm.trans hin.ready

end Access.StationAccess
