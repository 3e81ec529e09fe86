import Access.Verify.StationRuns

/-! # Requests and the grants they lead to

A transition request names its session and has a number in it. The station looks at neither, and the
authority is not told them: a grant is issued in the session which the station has, whatever the
request carries, and another one when the request comes again. Both only happen with requests that
are not `Fresh`. -/

namespace Access.StationAccess

open EStateM Python Authority AuthorityClient

/-- A grant is issued in an event. -/
def Grants (e : StationEvent (AuthorityClient.Process B) Link) (sessionId grantId : String) : Prop :=
  ∃ entry, e.after.authority.handled = entry :: e.before.authority.handled ∧
    Issuing entry sessionId grantId

/-- The session and the sequence of a request. -/
def requestKey (payload : Json) : Option Json × Option Json :=
  (payload.field? "session_id", payload.field? "sequence")

/-- A request leads to a grant. -/
structure GrantedFor (e : StationEvent (AuthorityClient.Process B) Link) (payload : Json) : Prop where
  requests : Requests e.call.message payload
  grants : ∃ sessionId grantId, Grants e sessionId grantId

/-- What is granted in an event is granted for a request of its session. -/
def CarriesSession (e : StationEvent (AuthorityClient.Process B) Link) : Prop :=
  ∀ sessionId grantId, Grants e sessionId grantId → ∃ payload,
    Requests e.call.message payload ∧ payload.field? "session_id" = some (.str sessionId)

/-- Two events that lead to grants do so for two requests. -/
def DistinctRequests (e earlier : StationEvent (AuthorityClient.Process B) Link) : Prop :=
  ∀ payload payload', GrantedFor e payload → GrantedFor earlier payload' →
    requestKey payload ≠ requestKey payload'

/-- The requests of a run are bound to their grants. -/
structure Bound (es : List (StationEvent (AuthorityClient.Process B) Link)) : Prop where
  single : ∀ e ∈ es, e.after.authority.handled = e.before.authority.handled ∨
    ∃ entry, e.after.authority.handled = entry :: e.before.authority.handled
  carries : ∀ e ∈ es, CarriesSession e
  distinct : es.Pairwise DistinctRequests

/-- A request that is passed on carries the session of the node, and none of this session and
sequence has led to a grant. -/
def Fresh (earlier : List (StationEvent (AuthorityClient.Process B) Link))
    (e : StationEvent (AuthorityClient.Process B) Link) : Prop :=
  ∀ node payload, e.before.node = some node → node.Forwards → Requests e.call.message payload →
    payload.field? "session_id" = some node.sessionId ∧
      ∀ e' ∈ earlier, ∀ payload', GrantedFor e' payload' → requestKey payload ≠ requestKey payload'

def FreshRun (es : List (StationEvent (AuthorityClient.Process B) Link)) : Prop :=
  ∀ e earlier, e :: earlier <:+ es → Fresh earlier e

section

variable [ReplayStateBackend B] {cr : Crates} {s : Station (AuthorityClient.Process B)}
  {host : Option (Host B)}

/-- A message is passed on at most once, and granted in the session of the node. -/
theorem Station.Sound.logs (H : s.Sound) (cr : Crates) (call : StationCall Link) :
    Logs (fun entry => ∀ sessionId grantId, Issuing entry sessionId grantId →
      ∃ node, s.node = some node ∧ RequestFor call.message node sessionId)
      s.authority.handled (StationAccess.step (client cr) s call).2.authority.handled := by
  cases hnode : s.node with
  | none =>
    simp only [StationAccess.step, hnode]
    exact .inl rfl
  | some node =>
    obtain ⟨node', hhandled, -⟩ := H.handled cr hnode call
    apply hhandled.asked.logs.mono
    intro entry hrequest sessionId grantId hissuing
    exact ⟨node, rfl, hrequest sessionId grantId hissuing⟩

/-- The request of a grant. -/
theorem Station.Sound.requestFor (H : s.Sound) {call : StationCall Link} {sessionId grantId : String}
    (hgrants : Grants (Run.event (StationAccess.step (client cr)) s call) sessionId grantId) :
    ∃ node, s.node = some node ∧ RequestFor call.message node sessionId := by
  obtain ⟨entry, hafter, hissuing⟩ := hgrants
  rcases H.logs cr call with hsame | ⟨entry', hafter', hrequest⟩
  · exact absurd (hafter.symm.trans hsame) (List.cons_ne_self _ _)
  · have hentry : entry = entry' := (List.cons.inj (hafter.symm.trans hafter')).1
    exact hrequest sessionId grantId (hentry ▸ hissuing)

omit [ReplayStateBackend B] in
theorem Requests.unique {message : StationMessage} {payload payload' : Json}
    (H : Requests message payload) (H' : Requests message payload') : payload = payload' := by
  cases H.message.symm.trans H'.message
  rfl

omit [ReplayStateBackend B] in
theorem Bound.nil : Bound ([] : List (StationEvent (AuthorityClient.Process B) Link)) where
  single _ h := by cases h
  carries _ h := by cases h
  distinct := .nil

/-- One message. -/
theorem Bound.cons {es : List (StationEvent (AuthorityClient.Process B) Link)} (hes : Bound es)
    (H : s.Sound) {call : StationCall Link}
    (hfresh : Fresh es (Run.event (StationAccess.step (client cr)) s call)) :
    Bound (Run.event (StationAccess.step (client cr)) s call :: es) where
  single := by
    refine List.forall_mem_cons.mpr ⟨?_, hes.single⟩
    rcases H.logs cr call with hsame | ⟨entry, hafter, -⟩
    · exact .inl hsame
    · exact .inr ⟨entry, hafter⟩
  carries := by
    refine List.forall_mem_cons.mpr (And.intro ?_ hes.carries)
    intro sessionId grantId hgrants
    obtain ⟨node, hnode, ⟨payload, hpayload⟩, hforwards, hsession⟩ := H.requestFor hgrants
    refine ⟨payload, hpayload, ?_⟩
    rw [← hsession]
    exact (hfresh node payload hnode hforwards hpayload).1
  distinct := by
    refine List.pairwise_cons.mpr (And.intro ?_ hes.distinct)
    intro e' he' payload payload' hgranted hgranted'
    obtain ⟨sessionId, grantId, hgrants⟩ := hgranted.grants
    obtain ⟨node, hnode, -, hforwards, -⟩ := H.requestFor hgrants
    exact (hfresh node payload hnode hforwards hgranted.requests).2 e' he' payload' hgranted'

end

/-- In every run of a station over an authority that was started, whatever becomes of its requests:
if each transition request that is passed on carries the session of the station, and is not the
repetition of one that led to a grant, then every grant is issued for a request of its session, and
each request leads to at most one. -/
theorem bound_of_fresh [ReplayStateBackend B] (cr : Crates) (host : Option (Host B))
    (hstarted : Started cr host) (link : Link) (calls : List (StationCall Link))
    (hfresh : FreshRun
      (Run.history (StationAccess.step (client cr)) (Station.start (client cr link) { host }) calls)) :
    Bound (Run.history (StationAccess.step (client cr)) (Station.start (client cr link) { host })
      calls) := by
  have H := Run.invariant (I := fun es s => Station.Sound s ∧ (FreshRun es → Bound es))
    (StationAccess.step (client cr)) (Station.start (client cr link) { host })
    ⟨start_sound hstarted link, fun _ => .nil⟩ ?_ calls
  · exact H.2 hfresh
  · rintro es s call ⟨hsound, hbound⟩
    refine ⟨hsound.step call, fun hrun => ?_⟩
    have hes : FreshRun es := fun e earlier h => hrun e earlier (h.trans (List.suffix_cons ..))
    exact (hbound hes).cons hsound (hrun _ _ (List.suffix_refl _))

end Access.StationAccess

/-! ## Requests of the chaser -/

namespace Access.Simulation

open Authority AuthorityClient StationAccess

theorem sessionOf_of_node {s : Station A} {node : StationNode} (h : s.node = some node) :
    sessionOf s = node.sessionId := by
  unfold sessionOf
  rw [h]
  rfl

/-- A request of the session. -/
def boundCalls (s : Station A) : List (StationCall Link) := chaserRequest (sessionOf s) :: readyCalls

/-- A request from before the session was known to the chaser, which comes twice. -/
def unboundCalls : List (StationCall Link) :=
  chaserRequest .null :: chaserRequest .null :: readyCalls

theorem exists_issuing {entry : Line × Authority.Response} (h : issues entry = true) :
    ∃ sessionId grantId, Issuing entry sessionId grantId := by
  unfold issues at h
  split at h
  · next requestedState nowS readiness out hinput hvalue =>
    simp only [Bool.and_eq_true, Option.isSome_iff_exists] at h
    obtain ⟨⟨happroved, sessionId, hsession⟩, grantId, hgrant⟩ := h
    exact ⟨sessionId, grantId, ⟨_, _, _, hinput⟩, out, hvalue, happroved, hsession, hgrant⟩
  · cases h

theorem exists_grants {s : Station (AuthorityClient.Process FileReplayStateBackend)}
    {call : StationCall Link} (h : grantsAt s call = true) (hsound : s.Sound) :
    ∃ sessionId grantId,
      Grants (Run.event (StationAccess.step (client reference)) s call) sessionId grantId := by
  obtain ⟨hlength, hhead⟩ := Bool.and_eq_true_iff.mp h
  rcases hsound.logs reference call with hsame | ⟨entry, hafter, -⟩
  · rw [hsame, beq_iff_eq] at hlength
    omega
  · rw [hafter] at hhead
    obtain ⟨sessionId, grantId, hissuing⟩ := exists_issuing hhead
    exact ⟨sessionId, grantId, entry, hafter, hissuing⟩

theorem exists_grantsAt : ∃ host, Authority.start reference environment newYearS = .ok host ∧
    grantsAt (stationAfter host readyCalls)
      (chaserRequest (sessionOf (stationAfter host readyCalls))) = true ∧
    grantsAt (stationAfter host readyCalls) (chaserRequest .null) = true ∧
    grantsAt (stationAfter host (chaserRequest .null :: readyCalls)) (chaserRequest .null) = true := by
  obtain ⟨host, hstart, -, hgrants⟩ := exists_environment_runs
  obtain ⟨hgrants, hrepeated⟩ := Bool.and_eq_true_iff.mp hgrants
  obtain ⟨hbound, hnull⟩ := Bool.and_eq_true_iff.mp hgrants
  exact ⟨host, hstart, hbound, hnull, hrepeated⟩

theorem requests_chaserRequest (sessionId : Json) : Requests (chaserRequest sessionId).message
    (ChaserAccess.transitionRequest { sessionId, sequence := 1 }
      ⟨1, "docking-controller", "approach"⟩) := ⟨rfl, rfl⟩

/-- The other messages of such a run are no requests. -/
theorem not_requests_readyCalls {call : StationCall Link} (h : call ∈ readyCalls) (payload : Json) :
    ¬Requests call.message payload := by
  intro hrequests
  simp only [readyCalls, List.mem_cons, List.not_mem_nil, or_false] at h
  rcases h with rfl | rfl
  · cases hrequests.message
  · have hkind := hrequests.kind
    cases hrequests.message
    simp [ChaserAccess.accessRequest, ChaserAccess.chaserMessage] at hkind

theorem mem_history_readyCalls {start : Station (AuthorityClient.Process FileReplayStateBackend)}
    {e : StationEvent (AuthorityClient.Process FileReplayStateBackend) Link}
    (he : e ∈ Run.history (StationAccess.step (client reference)) start readyCalls) :
    e.call ∈ readyCalls := by
  simp only [readyCalls, Run.history, List.mem_cons, List.not_mem_nil, or_false] at he
  rcases he with rfl | rfl
  · exact .head _
  · exact .tail _ (.head _)

theorem freshRun_boundCalls (start : Station (AuthorityClient.Process FileReplayStateBackend)) :
    FreshRun (Run.history (StationAccess.step (client reference)) start
      (boundCalls (Run.state (StationAccess.step (client reference)) start readyCalls))) := by
  intro e earlier hsuffix node payload hnode _ hpayload
  rcases List.suffix_cons_iff.mp hsuffix with h | h
  · obtain ⟨rfl, rfl⟩ := List.cons.inj h
    cases hpayload.unique (requests_chaserRequest _)
    refine ⟨?_, ?_⟩
    · rw [← sessionOf_of_node hnode]
      rfl
    · intro e' he' payload' hgranted
      exact absurd hgranted.requests (not_requests_readyCalls (mem_history_readyCalls he') payload')
  · have he := mem_history_readyCalls (h.subset (.head _))
    exact absurd hpayload (not_requests_readyCalls he payload)

end Access.Simulation

namespace Access.StationAccess

open Simulation AuthorityClient

/-- A request of the session leads to a grant. -/
theorem bound_of_fresh_request : ∃ start : Station (AuthorityClient.Process FileReplayStateBackend),
    ∃ es, es = Run.history (step (client reference)) start
      (boundCalls (Run.state (step (client reference)) start readyCalls)) ∧
    Bound es ∧ ∃ e ∈ es, ∃ sessionId grantId, Grants e sessionId grantId := by
  obtain ⟨host, hstart, hgrants, -⟩ := exists_grantsAt
  have hstarted := started_environment hstart
  have hsound : Station.Sound (stationAfter host readyCalls) :=
    run_sound hstarted answered readyCalls
  exact ⟨stationStart host, _, rfl,
    bound_of_fresh reference (some host) hstarted answered _ (freshRun_boundCalls (stationStart host)),
    _, .head _, exists_grants hgrants hsound⟩

/-- A request without a session leads to a grant, and to another one when it comes again. -/
theorem requests_unbound :
    (¬∀ (cr : Crates) (host : Option (Host FileReplayStateBackend)), Started cr host →
      ∀ (link : Link) (calls : List (StationCall Link)),
      ∀ e ∈ Run.history (step (client cr)) (Station.start (client cr link) { host }) calls,
      CarriesSession e) ∧
    ¬∀ (cr : Crates) (host : Option (Host FileReplayStateBackend)), Started cr host →
      ∀ (link : Link) (calls : List (StationCall Link)),
      (Run.history (step (client cr)) (Station.start (client cr link) { host }) calls).Pairwise
        DistinctRequests := by
  obtain ⟨host, hstart, -, hnull, hrepeated⟩ := exists_grantsAt
  have hstarted := started_environment hstart
  have hfirst := exists_grants hnull (run_sound hstarted answered readyCalls)
  have hsecond := exists_grants hrepeated (run_sound hstarted answered _)
  constructor
  · intro H
    obtain ⟨sessionId, grantId, hgrants⟩ := hfirst
    obtain ⟨payload, hpayload, hsession⟩ := H reference (some host) hstarted answered
      (chaserRequest .null :: readyCalls) _ (.head _) sessionId grantId hgrants
    cases hpayload.unique (requests_chaserRequest _)
    cases hsession
  · intro H
    have hdistinct := H reference (some host) hstarted answered unboundCalls
    exact (List.pairwise_cons.mp hdistinct).1 _ (.head _) _ _ ⟨requests_chaserRequest _, hsecond⟩
      ⟨requests_chaserRequest _, hfirst⟩ rfl

end Access.StationAccess
