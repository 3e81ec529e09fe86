import Access.Peers
import Access.Verify.StationRuns
import Access.Verify.StationStatus

/-! # The start of a session

A message `/docking/run` comes to both nodes. The chaser asks for a session, the station forgets the
one it has. The request and the message come on different topics, and the station that handles the
request first forgets the session it has just authorized, while the chaser keeps it. -/

namespace Access.StationAccess

open EStateM Python Authority AuthorityClient

variable {A : Type}

/-- The node has a session that was authorized. -/
structure StationNode.Authorized (node : StationNode) (sessionId : String) : Prop where
  ready : node.sessionReady = true
  recorded : node.sessionId = .str sessionId
  nonempty : sessionId ≠ ""

/-- The first of the messages authorizes a session. -/
def Authorizes (messages : List Json) : Prop :=
  ∃ payload, messages.head? = some payload ∧
    payload.field? "kind" = some (.str "session_authorized")

theorem not_authorizes_nil : ¬Authorizes [] := by
  rintro ⟨payload, h, -⟩
  cases h

theorem not_authorizes_denied (reason : String) : ¬Authorizes [sessionDenied reason] := by
  rintro ⟨payload, h, hkind⟩
  cases h
  simp [sessionDenied, stationMessage] at hkind

/-! ## An access request -/

theorem recordSession_ensures (session : Json) (t : StationHost A) :
    Ensures (recordSession session) t
      (fun _ u => u.node.sessionReady = true ∧ item session "session_id" = .ok u.node.sessionId ∧
        u.published.messages = t.published.messages ++ [sessionAuthorized u.node])
      fun _ u => u.published.messages = t.published.messages := by
  simp only [recordSession, publishStationProtocol, publish, assign, eval, ensures_bind,
    ensures_ofExcept, ensures_modify, ensures_get]
  refine ⟨fun _ _ => ⟨fun _ _ => ⟨fun _ _ => ⟨fun _ _ => ⟨fun sessionId hid => ?_, ?_⟩, ?_⟩, ?_⟩, ?_⟩,
    ?_⟩
  · refine ⟨fun _ _ => ⟨fun _ _ => ⟨fun _ _ => ⟨trivial, hid, trivial⟩, ?_⟩, ?_⟩, ?_⟩
    all_goals exact fun _ _ => trivial
  all_goals exact fun _ _ => trivial

theorem setScenario_published (payload : Json) (s : StationHost A) :
    Ensures (setScenario payload) s (fun _ t => t.published = s.published)
      fun _ t => t.published = s.published := by
  refine ensures_bind.mpr (ensures_ofExcept.mpr ⟨fun scenario _ => ?_, fun _ _ => rfl⟩)
  refine ensures_bind.mpr (ensures_ofExcept.mpr ⟨fun _ _ => ?_, fun _ _ => rfl⟩)
  split
  · split
    · exact ensures_modify.mpr rfl
    · exact ensures_pure.mpr rfl
  · exact ensures_pure.mpr rfl

theorem status_ok {t : StationHost A} (h : t.node.Described) :
    Ensures status t (fun _ u => u = t) fun _ _ => False := by
  simp only [status, eval, ensures_bind, ensures_get, ensures_ofExcept, publishStatus_ok h]
  refine ⟨fun _ _ => trivial, ?_⟩
  intro e he
  cases he

section

variable [ReplayStateBackend B] {cr : Crates} {fate : Fate} {now : SystemTime}

theorem establish_publishes (cr : Crates) (fate : Fate) (now : SystemTime)
    (t : StationHost (AuthorityClient.Process B)) :
    Ensures (establish (request cr fate now)) t
      (fun _ u => (∃ sessionId, u.node.Authorized sessionId) ∧
        u.published.messages = t.published.messages ++ [sessionAuthorized u.node])
      fun _ u => u.published.messages = t.published.messages := by
  simp only [establish, ensures_bind, ensures_get, ensures_run]
  refine .intro (fun json p hrequest => ?_) fun _ _ _ => rfl
  obtain ⟨out, host, rfl, -, -, hne⟩ := request_establish hrequest (by simp)
  refine (recordSession_ensures _ _).mono ?_ fun _ _ hu => hu
  rintro _ u ⟨hready, hid, hmessages⟩
  exact ⟨⟨out.sessionId, hready, (Except.ok.inj hid).symm, hne⟩, hmessages⟩

theorem denySession_publishes (error : Error) (t : StationHost A) :
    Ensures (denySession error) t
      (fun _ u => ∃ reason, u.published.messages = t.published.messages ++ [sessionDenied reason])
      fun _ u => u.published.messages = t.published.messages := by
  simp only [denySession, publishStationProtocol, publish, assign, eval, ensures_bind,
    ensures_ofExcept, ensures_modify]
  exact ⟨fun _ _ => ⟨_, rfl⟩, fun _ _ => trivial⟩

/-- A request is answered with the session of the node, or not with a session. -/
theorem handleAccessRequest_publishes {s : StationHost (AuthorityClient.Process B)}
    (hdescribed : s.node.Described) (hs : s.published.messages = []) (payload : Json) :
    Ensures (handleAccessRequest (request cr fate now) payload) s
      (fun _ u => Authorizes u.published.messages →
        (∃ sessionId, u.node.Authorized sessionId) ∧
          u.published.messages = [sessionAuthorized u.node])
      fun _ u => ¬Authorizes u.published.messages := by
  have hscenario := (setScenario_published payload s).and ((setScenario_keeps payload).ensures s)
  refine ensures_bind.mpr (hscenario.mono ?_ ?_)
  · rintro _ t ⟨hpublished, hkeeps⟩
    have ht : t.published.messages = [] := by rw [hpublished, hs]
    have hestablish := (establish_publishes cr fate now t).and
      (establish_keeps.ensures t)
    refine ensures_bind.mpr (ensures_attempt.mpr (hestablish.mono ?_ ?_))
    · rintro _ u ⟨⟨hauthorized, hmessages⟩, hkeeps'⟩
      refine (status_ok (hkeeps'.described (hkeeps.described hdescribed))).mono ?_ fun _ _ => False.elim
      rintro _ _ rfl _
      rw [hmessages, ht]
      exact ⟨hauthorized, rfl⟩
    · rintro e u ⟨hmessages, hkeeps'⟩
      have hu : u.published.messages = [] := hmessages.trans ht
      refine ⟨fun _ => ?_, fun _ => ?_⟩
      · have hdeny := (denySession_publishes e u).and ((denySession_keeps e).ensures u)
        refine ensures_bind.mpr (hdeny.mono ?_ ?_)
        · rintro _ w ⟨⟨reason, hw⟩, hkeeps''⟩
          refine (status_ok (hkeeps''.described (hkeeps'.described (hkeeps.described hdescribed)))).mono
            ?_ fun _ _ => False.elim
          rintro _ _ rfl h
          rw [hw, hu] at h
          exact absurd h (not_authorizes_denied reason)
        · rintro _ w ⟨hw, -⟩
          rw [hw, hu]
          exact not_authorizes_nil
      · rw [hu]
        exact not_authorizes_nil
  · rintro _ t ⟨hpublished, -⟩
    rw [hpublished, hs]
    exact not_authorizes_nil

/-- A request of the chaser. -/
theorem step_accessRequest {s : Station (AuthorityClient.Process B)} (hdescribed : s.Described)
    {node : StationNode} (hnode : s.node = some node) {chaser : ChaserAccess.ChaserNode}
    {trigger : String} {call : StationCall Link}
    (hcall : call.message = .chaserProtocol (.ok (ChaserAccess.accessRequest chaser trigger)))
    (hauthorizes : Authorizes (step (client cr) s call).1.messages) :
    ∃ node' sessionId, (step (client cr) s call).2.node = some node' ∧
      node'.Authorized sessionId ∧
      (step (client cr) s call).1.messages = [sessionAuthorized node'] := by
  have H : Ensures (handle (client cr call.link) call.message)
      ({ node, authority := s.authority } : StationHost (AuthorityClient.Process B))
      (fun _ u => Authorizes u.published.messages →
        (∃ sessionId, u.node.Authorized sessionId) ∧
          u.published.messages = [sessionAuthorized u.node])
      fun _ u => ¬Authorizes u.published.messages := by
    rw [hcall]
    exact handleAccessRequest_publishes (hdescribed node hnode) rfl _
  simp only [step, hnode] at hauthorizes ⊢
  cases hresult : handle (client cr call.link) call.message
      ({ node, authority := s.authority } : StationHost (AuthorityClient.Process B)) with
  | ok v u =>
    rw [hresult] at hauthorizes
    obtain ⟨⟨sessionId, hauthorized⟩, hmessages⟩ := H.of_ok hresult hauthorizes
    exact ⟨u.node, sessionId, rfl, hauthorized, hmessages⟩
  | error e u =>
    rw [hresult] at hauthorizes
    exact absurd hauthorizes (H.of_error hresult)

end

/-- A node after a message `/docking/run`. -/
def StationNode.afterRun (node : StationNode) (data : String) : StationNode :=
  (if data ∈ scenarios then { node with scenarioId := data } else node).clearRuntimeState

theorem StationNode.Described.afterRun {node : StationNode} (H : node.Described) (data : String) :
    (node.afterRun data).Described := by
  unfold StationNode.afterRun
  split
  · next hdata => exact ⟨hdata, H.profile⟩
  · exact ⟨H.scenario, H.profile⟩

/-- The station forgets its session. -/
theorem step_run {s : Station A} (hdescribed : s.Described) {node : StationNode}
    (hnode : s.node = some node) (client : ρ → Json → EStateM Error A Json) (data : String)
    (link : ρ) :
    step client s ⟨.run data, link⟩ = ({}, { s with node := some (node.afterRun data) }) := by
  have hhandle : handle (client link) (.run data) { node, authority := s.authority } =
      .ok () { node := node.afterRun data, authority := s.authority } := by
    show eval (publishStatus (node.afterRun data)) _ = _
    rw [publishStatus_ok ((hdescribed node hnode).afterRun data)]
    rfl
  simp only [step, hnode, hhandle]

/-- A node that has just started. -/
theorem start_node {client : Json → EStateM Error A Json} {authority : A} {node : StationNode}
    (h : (Station.start client authority).node = some node) :
    ∃ protocolProfile, node = { protocolProfile } := by
  have H : Ensures (StationNode.init client) authority
      (fun node _ => ∃ protocolProfile, node = { protocolProfile }) fun _ _ => True := by
    refine ensures_bind.mpr (ensures_attempt.mpr (.intro (fun json _ _ => ?_) fun e _ _ => ?_))
    · refine ensures_bind.mpr (ensures_ofExcept.mpr ⟨?_, fun _ _ => trivial⟩)
      intro _ _
      exact ⟨json, rfl⟩
    · refine ⟨fun _ => ?_, fun _ => trivial⟩
      refine ensures_bind.mpr (ensures_ofExcept.mpr ⟨?_, fun _ _ => trivial⟩)
      intro _ _
      exact ⟨.null, rfl⟩
  unfold Station.start at h
  cases hinit : StationNode.init client authority with
  | ok node' authority' =>
    rw [hinit] at h
    cases h
    exact H.of_ok hinit
  | error e authority' =>
    rw [hinit] at h
    cases h

end Access.StationAccess

namespace Access.Peers

open Python StationAccess AuthorityClient

/-- The two nodes agree on a session that was authorized. -/
def Agree (p : Peers V A) : Prop :=
  ∃ chaser station sessionId, p.chaser.node = some chaser ∧ p.station.node = some station ∧
    chaser.sessionId = .str sessionId ∧ station.Authorized sessionId

/-- A message `/docking/run`, and what becomes of the requests to the verifier and to the authority
while it and what follows from it are handled. -/
structure Trigger (ν ρ : Type) where
  data : String
  chaserLink : ν
  stationLink : ρ
  requestLink : ρ
  replyLink : ν

variable {V A ν ρ : Type}

def Trigger.runAtChaser (trigger : Trigger ν ρ) : PeersCall ν ρ :=
  .chaser ⟨.run trigger.data, trigger.chaserLink⟩

def Trigger.runAtStation (trigger : Trigger ν ρ) : PeersCall ν ρ :=
  .station ⟨.run trigger.data, trigger.stationLink⟩

/-- The delivery of the next message that the chaser publishes. -/
def Trigger.request (trigger : Trigger ν ρ) (p : Peers V A) : PeersCall ν ρ :=
  .toStation p.chaserToStation.length trigger.requestLink

/-- The delivery of the next message that the station publishes. -/
def Trigger.reply (trigger : Trigger ν ρ) (p : Peers V A) : PeersCall ν ρ :=
  .toChaser p.stationToChaser.length trigger.replyLink

/-- The message of the reply authorizes a session. -/
def Granted (p q : Peers V A) : Prop :=
  ∃ payload, q.stationToChaser[p.stationToChaser.length]? = some payload ∧
    payload.field? "kind" = some (.str "session_authorized")

section

variable (verifier : ν → Json → EStateM Error V Json) (authority : ρ → Json → EStateM Error A Json)
  (trigger : Trigger ν ρ)

/-- The chaser asks for a session. -/
theorem step_runAtChaser {p : Peers V A} {chaser : ChaserAccess.ChaserNode}
    (hchaser : p.chaser.node = some chaser) : ∃ chaser',
      (step verifier authority p trigger.runAtChaser).2 =
        { p with
          chaser := { p.chaser with node := some chaser' }
          chaserToStation := p.chaserToStation ++ [ChaserAccess.accessRequest chaser' "run"] } := by
  refine ⟨(if trigger.data ∈ ChaserAccess.scenarios then { chaser with scenarioId := trigger.data }
    else chaser).clear, ?_⟩
  simp only [step, handleAtChaser, Trigger.runAtChaser, ChaserAccess.step, hchaser]
  rfl

theorem step_runAtStation {p : Peers V A} (hdescribed : p.station.Described) {station : StationNode}
    (hstation : p.station.node = some station) :
    (step verifier authority p trigger.runAtStation).2 =
      { p with station := { p.station with node := some (station.afterRun trigger.data) } } := by
  have hstep := step_run hdescribed hstation authority trigger.data trigger.stationLink
  simp only [step, handleAtStation, Trigger.runAtStation, hstep, List.append_nil]

/-- The station publishes nothing for the chaser. -/
theorem step_runAtStation_published {p : Peers V A} (hdescribed : p.station.Described) :
    (step verifier authority p trigger.runAtStation).2.stationToChaser = p.stationToChaser := by
  cases hstation : p.station.node with
  | none =>
    simp only [step, handleAtStation, Trigger.runAtStation, StationAccess.step, hstation,
      List.append_nil]
  | some station => rw [step_runAtStation verifier authority trigger hdescribed hstation]

/-- A node that has nothing to forget. -/
theorem step_runAtStation_self {p : Peers V A} (hdescribed : p.station.Described)
    {station : StationNode} (hstation : p.station.node = some station)
    (h : station.afterRun trigger.data = station) :
    (step verifier authority p trigger.runAtStation).2 = p := by
  rw [step_runAtStation verifier authority trigger hdescribed hstation, h, ← hstation]

/-- The chaser takes the session of a reply. -/
theorem step_reply {p₀ : Peers V A} (p : Peers V A) {chaser : ChaserAccess.ChaserNode}
    (hchaser : p.chaser.node = some chaser) {station : StationNode}
    (hmessage : p.stationToChaser[p₀.stationToChaser.length]? = some (sessionAuthorized station)) :
    (step verifier authority p (trigger.reply p₀)).2 =
      { p with chaser := { p.chaser with
          node := some { chaser with sessionId := station.sessionId } } } := by
  have hhandle : ChaserAccess.handle (verifier trigger.replyLink)
      (.stationProtocol (.ok (sessionAuthorized station)))
      { node := chaser, verifier := p.chaser.verifier } =
      .ok () { node := { chaser with sessionId := station.sessionId }
               verifier := p.chaser.verifier } := rfl
  simp only [step, handleAtChaser, Trigger.reply, hmessage, ChaserAccess.step, hchaser, hhandle,
    List.append_nil]

/-- A reply changes nothing at the station. -/
theorem step_reply_station (p₀ p : Peers V A) :
    (step verifier authority p (trigger.reply p₀)).2.station = p.station ∧
      (step verifier authority p (trigger.reply p₀)).2.stationToChaser = p.stationToChaser := by
  simp only [step, Trigger.reply]
  split
  · exact ⟨rfl, rfl⟩
  · exact ⟨rfl, rfl⟩

/-- Every step. -/
theorem step_described {p : Peers V A} (H : p.station.Described) (call : PeersCall ν ρ) :
    (step verifier authority p call).2.station.Described := by
  cases call with
  | chaser call => exact H
  | station call => exact H.step authority call
  | toChaser index link =>
    simp only [step]
    split <;> exact H
  | toStation index link =>
    simp only [step]
    split
    · exact H.step authority _
    · exact H

/-- Every run. -/
theorem run_described {p : Peers V A} (H : p.station.Described) (calls : List (PeersCall ν ρ)) :
    (Run.state (step verifier authority) p calls).station.Described := by
  induction calls with
  | nil => exact H
  | cons call calls ih => exact step_described verifier authority ih call

/-! ## After the request -/

theorem not_agree_of_not_ready {p : Peers V A}
    (h : ∀ station, p.station.node = some station → station.sessionReady = false) : ¬Agree p := by
  rintro ⟨chaser, station, sessionId, -, hstation, -, hauthorized⟩
  cases (h station hstation).symm.trans hauthorized.ready

/-- The message at the station. -/
theorem not_ready_of_runAtStation {p : Peers V A} (hdescribed : p.station.Described)
    {station : StationNode}
    (h : (step verifier authority p trigger.runAtStation).2.station.node = some station) :
    station.sessionReady = false := by
  cases hstation : p.station.node with
  | none =>
    simp only [step, handleAtStation, Trigger.runAtStation, StationAccess.step, hstation] at h
    cases h
  | some node =>
    rw [step_runAtStation verifier authority trigger hdescribed hstation] at h
    cases h
    rfl

/-- The message at the station, and then the reply. -/
theorem not_agree_of_runAtStation (p₀ p : Peers V A) (hdescribed : p.station.Described) :
    ¬Agree (Run.state (step verifier authority) p [trigger.reply p₀, trigger.runAtStation]) := by
  apply not_agree_of_not_ready
  intro station hstation
  simp only [Run.state, (step_reply_station _ _ _ _ _).1] at hstation
  exact not_ready_of_runAtStation verifier authority trigger hdescribed hstation

/-! ## Before the request -/

/-- Since `p₀` the chaser has published a request, and the station nothing. -/
structure Asking (p₀ p : Peers V A) (chaser : ChaserAccess.ChaserNode) : Prop where
  node : p.chaser.node = some chaser
  request : p.chaserToStation =
    p₀.chaserToStation ++ [ChaserAccess.accessRequest chaser "run"]
  replies : p.stationToChaser = p₀.stationToChaser
  described : p.station.Described
  runs : ∃ station, p.station.node = some station

/-- The message at the chaser. -/
theorem asking_of_runAtChaser {p₀ p : Peers V A} {chaser : ChaserAccess.ChaserNode}
    (hchaser : p.chaser.node = some chaser) {station : StationNode}
    (hstation : p.station.node = some station) (hdescribed : p.station.Described)
    (hrequests : p.chaserToStation = p₀.chaserToStation)
    (hreplies : p.stationToChaser = p₀.stationToChaser) :
    ∃ chaser', Asking p₀ (step verifier authority p trigger.runAtChaser).2 chaser' := by
  obtain ⟨chaser', hstep⟩ := step_runAtChaser verifier authority trigger hchaser
  refine ⟨chaser', ?_⟩
  rw [hstep]
  exact ⟨rfl, by rw [hrequests], hreplies, hdescribed, station, hstation⟩

/-- The message at the station. -/
theorem Asking.runAtStation {p₀ p : Peers V A} {chaser : ChaserAccess.ChaserNode}
    (H : Asking p₀ p chaser) :
    Asking p₀ (step verifier authority p trigger.runAtStation).2 chaser := by
  obtain ⟨station, hstation⟩ := H.runs
  have hdescribed := step_described verifier authority H.described trigger.runAtStation
  rw [step_runAtStation verifier authority trigger H.described hstation] at hdescribed ⊢
  exact ⟨H.node, H.request, H.replies, hdescribed, _, rfl⟩

theorem Granted.authorizes {p₀ q : Peers V A} {messages : List Json} (H : Granted p₀ q)
    (h : q.stationToChaser = p₀.stationToChaser ++ messages) : Authorizes messages := by
  obtain ⟨payload, hpayload, hkind⟩ := H
  rw [h, List.getElem?_append_right (Nat.le_refl _), Nat.sub_self] at hpayload
  exact ⟨payload, List.head?_eq_getElem? ▸ hpayload, hkind⟩

end

section

variable [ReplayStateBackend B] {cr : Crates} {verifier : ν → Json → EStateM Error V Json}
  {trigger : Trigger ν Link}

/-- The station answers the request of the chaser. -/
theorem step_request {p₀ p : Peers V (AuthorityClient.Process B)} (hdescribed : p.station.Described)
    {station : StationNode} (hstation : p.station.node = some station)
    {chaser : ChaserAccess.ChaserNode} (hmessage : p.chaserToStation[p₀.chaserToStation.length]? =
      some (ChaserAccess.accessRequest chaser "run")) :
    ∃ (station' : Station (AuthorityClient.Process B)) (messages : List Json),
      (step verifier (client cr) p (trigger.request p₀)).2 =
        { p with
          station := station'
          stationToChaser := p.stationToChaser ++ messages } ∧
      (Authorizes messages → ∃ node sessionId, station'.node = some node ∧
        node.Authorized sessionId ∧ messages = [sessionAuthorized node]) := by
  let call : StationCall Link :=
    ⟨.chaserProtocol (.ok (ChaserAccess.accessRequest chaser "run")), trigger.requestLink⟩
  refine ⟨(StationAccess.step (client cr) p.station call).2,
    (StationAccess.step (client cr) p.station call).1.messages, ?_,
    step_accessRequest hdescribed hstation rfl⟩
  simp only [step, handleAtStation, Trigger.request, hmessage, call]

/-- The request and then the reply. -/
theorem Asking.agree {p₀ p : Peers V (AuthorityClient.Process B)}
    {chaser : ChaserAccess.ChaserNode} (H : Asking p₀ p chaser)
    (hgranted : Granted p₀ (Run.state (step verifier (client cr)) p
      [trigger.reply p₀, trigger.request p₀])) :
    Agree (Run.state (step verifier (client cr)) p [trigger.reply p₀, trigger.request p₀]) := by
  obtain ⟨station, hstation⟩ := H.runs
  have hmessage : p.chaserToStation[p₀.chaserToStation.length]? =
      some (ChaserAccess.accessRequest chaser "run") := by
    rw [H.request, List.getElem?_concat_length]
  obtain ⟨station', messages, hstep, hauthorizes⟩ :
      ∃ (station' : Station (AuthorityClient.Process B)) (messages : List Json),
        (step verifier (client cr) p (trigger.request p₀)).2 = _ ∧ _ :=
    step_request H.described hstation hmessage
  simp only [Run.state, hstep] at hgranted ⊢
  have hpublished : Authorizes messages := by
    apply hgranted.authorizes
    rw [(step_reply_station _ _ _ _ _).2, H.replies]
  obtain ⟨node, sessionId, hnode, hauthorized, rfl⟩ := hauthorizes hpublished
  have hreply : (p.stationToChaser ++ [sessionAuthorized node])[p₀.stationToChaser.length]? =
      some (sessionAuthorized node) := by
    rw [H.replies, List.getElem?_concat_length]
  rw [step_reply verifier (client cr) trigger { p with
    station := station'
    stationToChaser := p.stationToChaser ++ [sessionAuthorized node] } H.node hreply]
  exact ⟨_, node, sessionId, rfl, hnode, hauthorized.recorded, hauthorized⟩

end

/-- For every state that a run of the two nodes leads to, in which neither has ended, and every order
in which one message `/docking/run` comes to both, the request that the chaser publishes comes to the
station, and the reply, which authorizes a session, comes to the chaser: in the end the two agree on a
session if and only if the station handled the message before the request. -/
theorem agree_iff [ReplayStateBackend B] (cr : Crates) (host : Option (Host B)) (link : Link)
    (verifier : ν → Json → EStateM Error V Json) (v : V) (calls : List (PeersCall ν Link))
    (p : Peers V (AuthorityClient.Process B))
    (hp : p = Run.state (step verifier (client cr))
      (start v (Station.start (client cr link) { host })) calls)
    (hchaser : p.chaser.node ≠ none) (hstation : p.station.node ≠ none) (trigger : Trigger ν Link)
    (before after : List (PeersCall ν Link))
    (horder : before ++ after = [trigger.runAtChaser, trigger.request p, trigger.reply p])
    (q : Peers V (AuthorityClient.Process B))
    (hq : q = Run.state (step verifier (client cr)) p
      (before ++ trigger.runAtStation :: after).reverse)
    (hgranted : Granted p q) : Agree q ↔ trigger.request p ∈ after := by
  have hdescribed : p.station.Described := by
    rw [hp]
    exact run_described verifier (client cr) (start_described cr host link) calls
  obtain ⟨chaser, hchaser⟩ := Option.ne_none_iff_exists'.mp hchaser
  obtain ⟨station, hstation⟩ := Option.ne_none_iff_exists'.mp hstation
  clear hp
  subst hq
  rcases before with _ | ⟨c₁, _ | ⟨c₂, _ | ⟨c₃, before⟩⟩⟩
  · -- the message comes to the station first of all
    subst horder
    refine iff_of_true ?_ (.tail _ (.head _))
    have hdescribed' := step_described verifier (client cr) hdescribed trigger.runAtStation
    obtain ⟨chaser', H⟩ : ∃ chaser', Asking p (Run.state (step verifier (client cr)) p
        [trigger.runAtChaser, trigger.runAtStation]) chaser' := by
      simp only [Run.state,
        step_runAtStation verifier (client cr) trigger hdescribed hstation] at hdescribed' ⊢
      exact asking_of_runAtChaser verifier (client cr) trigger hchaser rfl hdescribed' rfl rfl
    exact H.agree hgranted
  · -- between the message at the chaser and the request
    simp only [List.cons_append, List.nil_append, List.cons.injEq] at horder
    obtain ⟨rfl, rfl⟩ := horder
    refine iff_of_true ?_ (.head _)
    obtain ⟨chaser', H⟩ :=
      asking_of_runAtChaser verifier (client cr) trigger hchaser hstation hdescribed rfl rfl
    exact (H.runAtStation verifier (client cr) trigger).agree hgranted
  · -- between the request and the reply
    simp only [List.cons_append, List.nil_append, List.cons.injEq] at horder
    obtain ⟨rfl, rfl, rfl⟩ := horder
    refine iff_of_false ?_ (by simp [Trigger.request, Trigger.reply])
    apply not_agree_of_runAtStation
    exact run_described verifier (client cr) hdescribed [trigger.request p, trigger.runAtChaser]
  · -- after the reply
    simp only [List.cons_append, List.cons.injEq, List.append_eq_nil_iff] at horder
    obtain ⟨rfl, rfl, rfl, rfl, rfl⟩ := horder
    refine iff_of_false ?_ List.not_mem_nil
    apply not_agree_of_not_ready
    intro station' hstation'
    apply not_ready_of_runAtStation verifier (client cr) trigger ?_ hstation'
    exact run_described verifier (client cr) hdescribed
      [trigger.reply p, trigger.request p, trigger.runAtChaser]

end Access.Peers

/-! ## Two orders -/

namespace Access.Simulation

open Python Authority AuthorityClient StationAccess Peers

/-- A verifier that is gone. -/
def goneVerifier (_ : Unit) (_ : Json) : EStateM Error Unit Json :=
  throw Loss.exited.error

def nominalTrigger : Trigger Unit Link where
  data := "nominal"
  chaserLink := ()
  stationLink := answered
  requestLink := answered
  replyLink := ()

abbrev peersStart (host : Host FileReplayStateBackend) :
    Peers Unit (AuthorityClient.Process FileReplayStateBackend) :=
  Peers.start () (stationStart host)

/-- The deliveries but for the one of the message at the station. -/
def askCalls (p : Peers V A) : List (PeersCall Unit Link) :=
  [nominalTrigger.runAtChaser, nominalTrigger.request p, nominalTrigger.reply p]

abbrev peersAfter (p : Peers Unit (AuthorityClient.Process FileReplayStateBackend))
    (calls : List (PeersCall Unit Link)) :
    Peers Unit (AuthorityClient.Process FileReplayStateBackend) :=
  Run.state (Peers.step goneVerifier (client reference)) p calls.reverse

def isGranted (p q : Peers V A) : Bool :=
  (q.stationToChaser[p.stationToChaser.length]?.bind (·.field? "kind")).bind Serde.readText ==
    some "session_authorized"

theorem granted_of_isGranted {p q : Peers V A} (h : isGranted p q = true) : Granted p q := by
  obtain ⟨kind, hkind, htext⟩ := Option.bind_eq_some_iff.mp (eq_of_beq h)
  obtain ⟨payload, hpayload, hfield⟩ := Option.bind_eq_some_iff.mp hkind
  cases Serde.readText_eq_some htext
  exact ⟨payload, hpayload, hfield⟩

theorem environment_authorizes :
    ((Authority.start reference environment newYearS).toOption.any fun host =>
      (peersStart host).station.node.isSome &&
        isGranted (peersStart host)
          (peersAfter (peersStart host) (askCalls (peersStart host)))) = true := by
  decide +kernel

theorem exists_granted : ∃ host : Host FileReplayStateBackend,
    (peersStart host).station.node ≠ none ∧
    Granted (peersStart host) (peersAfter (peersStart host) (askCalls (peersStart host))) := by
  obtain ⟨host, -, hauthorizes⟩ := exists_of_toOption_any environment_authorizes
  obtain ⟨hnode, hgranted⟩ := Bool.and_eq_true_iff.mp hauthorizes
  exact ⟨host, Option.isSome_iff_ne_none.mp hnode, granted_of_isGranted hgranted⟩

/-- A station that has just started has nothing to forget. -/
theorem runAtStation_peersStart {host : Host FileReplayStateBackend}
    (hnode : (peersStart host).station.node ≠ none) :
    (Peers.step goneVerifier (client reference) (peersStart host) nominalTrigger.runAtStation).2 =
      peersStart host := by
  have hdescribed : (stationStart host).Described := start_described reference (some host) answered
  obtain ⟨node, hnode⟩ := Option.ne_none_iff_exists'.mp hnode
  obtain ⟨protocolProfile, rfl⟩ := start_node hnode
  have hsame : StationNode.afterRun { protocolProfile } "nominal" = { protocolProfile } := by
    rw [StationNode.afterRun, if_pos (by decide)]
    rfl
  exact step_runAtStation_self goneVerifier (client reference) nominalTrigger hdescribed hnode hsame

end Access.Simulation

namespace Access.Peers

open Simulation Python StationAccess AuthorityClient

/-- The message comes to the station before the request. -/
theorem agree_iff_first : ∃ host : Host FileReplayStateBackend,
    Agree (peersAfter (peersStart host)
      (nominalTrigger.runAtStation :: askCalls (peersStart host))) := by
  obtain ⟨host, hnode, hgranted⟩ := exists_granted
  have hgranted' : Granted (peersStart host) (peersAfter (peersStart host)
      (nominalTrigger.runAtStation :: askCalls (peersStart host))) := by
    rw [peersAfter, List.reverse_cons, Run.state_append, Run.state, Run.state,
      runAtStation_peersStart hnode]
    exact hgranted
  have hagree := agree_iff reference (some host) answered goneVerifier () [] (peersStart host) rfl
    (Option.some_ne_none _) hnode nominalTrigger [] (askCalls (peersStart host)) rfl _ rfl hgranted'
  exact ⟨host, hagree.mpr (.tail _ (.head _))⟩

/-- The message comes to the station after the reply. -/
theorem run_disagrees : ¬∀ (cr : Crates) (host : Option (Host FileReplayStateBackend)) (link : Link)
    (verifier : Unit → Json → EStateM Error Unit Json) (calls : List (PeersCall Unit Link))
    (p : Peers Unit (AuthorityClient.Process FileReplayStateBackend)),
    p = Run.state (step verifier (client cr))
      (start () (Station.start (client cr link) { host })) calls →
    p.chaser.node ≠ none → p.station.node ≠ none → ∀ (trigger : Trigger Unit Link)
    (before after : List (PeersCall Unit Link)),
    before ++ after = [trigger.runAtChaser, trigger.request p, trigger.reply p] →
    ∀ q : Peers Unit (AuthorityClient.Process FileReplayStateBackend),
    q = Run.state (step verifier (client cr)) p
      (before ++ trigger.runAtStation :: after).reverse →
    Granted p q → Agree q := by
  intro H
  obtain ⟨host, hnode, hgranted⟩ := exists_granted
  let p := peersStart host
  let asked := peersAfter p (askCalls p)
  have hdescribed : asked.station.Described :=
    run_described goneVerifier (client reference) (start_described reference (some host) answered) _
  have hstate : peersAfter p (askCalls p ++ [nominalTrigger.runAtStation]) =
      (step goneVerifier (client reference) asked nominalTrigger.runAtStation).2 := by
    rw [peersAfter, List.reverse_append]
    rfl
  have hgranted' : Granted p (peersAfter p (askCalls p ++ [nominalTrigger.runAtStation])) := by
    rw [hstate, Granted, step_runAtStation_published _ _ _ hdescribed]
    exact hgranted
  have hagree : Agree (peersAfter p (askCalls p ++ [nominalTrigger.runAtStation])) :=
    H reference (some host) answered goneVerifier [] p rfl
    (Option.some_ne_none _) hnode nominalTrigger (askCalls p) []
      (List.append_nil _) _ rfl hgranted'
  rw [hstate] at hagree
  refine not_agree_of_not_ready ?_ hagree
  exact fun _ =>
    not_ready_of_runAtStation goneVerifier (client reference) nominalTrigger hdescribed

end Access.Peers
