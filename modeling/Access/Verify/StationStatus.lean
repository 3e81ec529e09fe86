import Access.Verify.StationAccess

/-! # The status of the station

The node publishes its status at the end of most handlers, and the publication could raise. On a node
whose scenario is a known one and whose profile is the authority's, or none, it does not
(`publishStatus_ok`). Every node of a run is such a node. -/

namespace Access.StationAccess

open EStateM Python Authority AuthorityClient

/-- A node whose status can be published. -/
structure StationNode.Described (node : StationNode) : Prop where
  scenario : node.scenarioId ∈ scenarios
  profile : node.protocolProfile = .null ∨
    ∃ profile metadata, node.protocolProfile = (Value.description profile metadata).toJson

theorem publishStatus_ok {node : StationNode} (h : node.Described) :
    publishStatus node = .ok () := by
  obtain ⟨hscenario, hprofile | ⟨profile, metadata, hprofile⟩⟩ := h
  · simp [publishStatus, hscenario, hprofile, Python.or, truthy, Python.get, Except.failIf, bind,
      Except.bind, pure, Except.pure]
  · simp [publishStatus, hscenario, hprofile, Python.or, truthy, Python.get, item, Except.failIf,
      bind, Except.bind, pure, Except.pure, Value.toJson, TrustBundleRequirements.toJson,
      Except.okOr]

/-! ## Handlers -/

/-- The profile, and a known scenario, are kept. -/
structure Keeps (s t : StationHost A) : Prop where
  profile : t.node.protocolProfile = s.node.protocolProfile
  scenario : s.node.scenarioId ∈ scenarios → t.node.scenarioId ∈ scenarios

instance : Std.Refl (Keeps (A := A)) := ⟨fun _ => ⟨rfl, id⟩⟩

instance : IsTrans (StationHost A) Keeps where
  trans _ _ _ h₁ h₂ := ⟨h₂.profile.trans h₁.profile, h₂.scenario ∘ h₁.scenario⟩

theorem Keeps.described {s t : StationHost A} (H : Keeps s t) (h : s.node.Described) :
    t.node.Described where
  scenario := H.scenario h.scenario
  profile := by
    rw [H.profile]
    exact h.profile

section

variable {A : Type} {client : Json → EStateM Error A Json}

theorem assign_keeps {f : StationNode → StationNode}
    (hprofile : ∀ node, (f node).protocolProfile = node.protocolProfile)
    (hscenario : ∀ node, node.scenarioId ∈ scenarios → (f node).scenarioId ∈ scenarios) :
    Steps (Keeps (A := A)) (assign f) :=
  .modify fun s => ⟨hprofile s.node, hscenario s.node⟩

theorem publish_keeps (f : StationNode → Published → Published) :
    Steps (Keeps (A := A)) (publish f) := .modify fun _ => ⟨rfl, id⟩

theorem authority_keeps (x : EStateM Error A Json) :
    Steps (Keeps (A := A)) (authorityPart.run id x) :=
  Steps.run (S := fun _ _ => True) (fun _ => trivial) fun _ _ _ => ⟨rfl, id⟩

theorem publishStationProtocol_keeps (payload : Json) :
    Steps (Keeps (A := A)) (publishStationProtocol payload) :=
  .bind (eval_steps _) fun _ => publish_keeps _

theorem publishDecision_keeps (outcome approved previous reason grantId : Json) :
    Steps (Keeps (A := A)) (publishDecision outcome approved previous reason grantId) :=
  .bind .get fun _ => .bind (eval_steps _) fun _ => .bind (publish_keeps _) fun _ => .pure _

theorem assignScenario_keeps (name : String) (hname : name ∈ scenarios) :
    Steps (Keeps (A := A)) (assign fun node => { node with scenarioId := name }) :=
  assign_keeps (fun _ => rfl) fun _ _ => hname

theorem setScenario_keeps (payload : Json) : Steps (Keeps (A := A)) (setScenario payload) :=
  setScenario_steps payload assignScenario_keeps

theorem recordSession_keeps (session : Json) : Steps (Keeps (A := A)) (recordSession session) := by
  refine recordSession_steps session (fun f hf => ?_) publishStationProtocol_keeps
  exact assign_keeps (fun node => (hf node).1) fun node h => (hf node).2 ▸ h

theorem establish_keeps : Steps Keeps (establish client) :=
  .bind .get fun _ => .bind (authority_keeps _) fun _ => recordSession_keeps _

theorem denySession_keeps (error : Error) : Steps (Keeps (A := A)) (denySession error) :=
  .bind (assign_keeps (fun _ => rfl) fun _ h => h) fun _ => publishStationProtocol_keeps _

theorem handleAccessRequest_keeps (payload : Json) :
    Steps Keeps (handleAccessRequest client payload) := by
  refine .bind (setScenario_keeps payload) fun _ => .bind (.attempt establish_keeps) fun result => ?_
  cases result with
  | ok => exact status_steps
  | error e => exact .bind (denySession_keeps e) fun _ => status_steps

theorem requestTransition_keeps (requestedState : Int) :
    Steps Keeps (requestTransition client requestedState) :=
  .bind .get fun _ => .bind (.failIf _ _) fun _ => .bind (.okOr _ _) fun _ => authority_keeps _

theorem settleTransition_keeps (requestedState : Int) (outcome : Json) :
    Steps (Keeps (A := A)) (settleTransition requestedState outcome) :=
  settleTransition_steps requestedState outcome publishStationProtocol_keeps

theorem failClosed_keeps : Steps (Keeps (A := A)) failClosed := by
  refine .bind .get fun s => ?_
  split
  · exact .pure _
  · exact .bind (assign_keeps (fun _ => rfl) fun _ h => h) fun _ => .pure _

theorem answerTransition_keeps (outcome previous approved reason : Json) :
    Steps (Keeps (A := A)) (answerTransition outcome previous approved reason) :=
  answerTransition_steps outcome previous approved reason (publishDecision_keeps _ _ _ _)
    publishStationProtocol_keeps

theorem finishTransition_keeps (outcome previous : Json)
    (settled : Except Error (Option (Json × Json))) :
    Steps (Keeps (A := A)) (finishTransition outcome previous settled) := by
  unfold finishTransition
  split
  · exact .pure _
  · exact answerTransition_keeps _ _ _ _
  · exact .bind failClosed_keeps fun _ => answerTransition_keeps _ _ _ _

theorem handleTransitionRequest_keeps (payload : Json) :
    Steps Keeps (handleTransitionRequest client payload) := by
  refine .bind (eval_steps _) fun requestedState => .bind .get fun _ =>
    .bind (.attempt (requestTransition_keeps requestedState)) fun result => ?_
  cases result with
  | ok outcome =>
    exact .bind (.attempt (settleTransition_keeps _ _)) fun _ => finishTransition_keeps _ _ _
  | error e => exact finishTransition_keeps _ _ _

theorem redeemEntitlement_keeps (requestedState : Int) (payload : Json) :
    Steps Keeps (redeemEntitlement client requestedState payload) :=
  .bind .get fun _ => .bind (.okOr _ _) fun _ => .bind (eval_steps _) fun _ => authority_keeps _

theorem settleRedemption_keeps (outcome : Json) :
    Steps (Keeps (A := A)) (settleRedemption outcome) :=
  settleRedemption_steps outcome fun _ => assign_keeps (fun _ => rfl) fun _ h => h

theorem answerPresentation_keeps (payload outcome previous approved reason : Json) :
    Steps (Keeps (A := A)) (answerPresentation payload outcome previous approved reason) := by
  refine .bind (eval_steps _) fun _ => .bind (eval_steps _) fun _ =>
    .bind (publishDecision_keeps _ _ _ _ _) fun _ => .bind .get fun _ => ?_
  exact .bind (eval_steps _) fun _ => .bind (publishStationProtocol_keeps _) fun _ => status_steps

theorem finishPresentation_keeps (payload outcome previous : Json)
    (settled : Except Error (Json × Json)) :
    Steps (Keeps (A := A)) (finishPresentation payload outcome previous settled) := by
  unfold finishPresentation
  split
  · exact answerPresentation_keeps _ _ _ _ _
  · exact answerPresentation_keeps _ _ _ _ _

theorem handleEntitlementPresentation_keeps (payload : Json) :
    Steps Keeps (handleEntitlementPresentation client payload) := by
  refine .bind (eval_steps _) fun requestedState => .bind .get fun _ =>
    .bind (.attempt (redeemEntitlement_keeps requestedState payload)) fun result => ?_
  cases result with
  | ok outcome =>
    exact .bind (.attempt (settleRedemption_keeps _)) fun _ => finishPresentation_keeps _ _ _ _
  | error e => exact finishPresentation_keeps _ _ _ _

theorem onChaserProtocol_keeps (data : Except Error Json) :
    Steps Keeps (onChaserProtocol client data) := by
  refine .bind (.attempt (eval_steps _)) fun result => ?_
  cases result with
  | error e => exact .pure _
  | ok payload =>
    refine .bind (eval_steps _) fun _ => .bind (eval_steps _) fun kind => ?_
    split
    · exact handleAccessRequest_keeps payload
    · exact handleTransitionRequest_keeps payload
    · exact handleEntitlementPresentation_keeps payload
    · exact .pure _

theorem clear_keeps : Steps (Keeps (A := A)) (do assign StationNode.clearRuntimeState; status) :=
  .bind (assign_keeps (fun _ => rfl) fun _ h => h) fun _ => status_steps

theorem setScenarioTo_keeps (data : String) : Steps (Keeps (A := A)) (assign
    fun node => if data ∈ scenarios then { node with scenarioId := data } else node) := by
  by_cases hdata : data ∈ scenarios
  · simp only [if_pos hdata]
    exact assignScenario_keeps data hdata
  · simp only [if_neg hdata]
    exact assign_keeps (fun _ => rfl) fun _ h => h

theorem onScenario_keeps (data : String) : Steps (Keeps (A := A)) (onScenario data) :=
  onScenario_steps data assignScenario_keeps

theorem onReadiness_keeps (evidence : ReadinessMessage) :
    Steps (Keeps (A := A)) (onReadiness evidence) :=
  onReadiness_steps evidence (fun _ => assign_keeps (fun _ => rfl) fun _ h => h)
    fun _ => assign_keeps (fun _ => rfl) fun _ h => h

theorem handle_keeps (message : StationMessage) : Steps Keeps (handle client message) := by
  cases message with
  | prepare | reset => exact clear_keeps
  | run data => exact .bind (setScenarioTo_keeps data) fun _ => clear_keeps
  | scenario data => exact onScenario_keeps data
  | readiness evidence => exact onReadiness_keeps evidence
  | chaserProtocol data => exact onChaserProtocol_keeps data

end

/-! ## Runs -/

/-- A station whose status can be published. -/
def Station.Described (s : Station A) : Prop := ∀ node, s.node = some node → node.Described

/-- One message. -/
theorem Station.Described.step {s : Station A} (H : s.Described)
    (client : ρ → Json → EStateM Error A Json) (call : StationCall ρ) :
    (StationAccess.step client s call).2.Described := by
  intro node' hnode'
  cases hnode : s.node with
  | none =>
    simp only [StationAccess.step, hnode] at hnode'
    cases hnode'
  | some node =>
    have hsteps : Steps Keeps (handle (client call.link) call.message) := handle_keeps call.message
    have hkeeps := hsteps { node, authority := s.authority }
    simp only [StationAccess.step, hnode] at hnode'
    cases hresult : handle (client call.link) call.message { node, authority := s.authority } with
    | ok u t =>
      rw [hresult] at hkeeps hnode'
      cases hnode'
      exact hkeeps.described (H node hnode)
    | error e t =>
      rw [hresult] at hnode'
      cases hnode'

/-- The constructor takes the profile from the authority. -/
theorem start_described [ReplayStateBackend B] (cr : Crates) (host : Option (Host B)) (link : Link) :
    (Station.start (AuthorityClient.client cr link) { host }).Described := by
  have H : Ensures (StationNode.init (AuthorityClient.client cr link))
      ({ host } : AuthorityClient.Process B) (fun node _ => node.Described) fun _ _ => True := by
    refine ensures_bind.mpr (ensures_attempt.mpr (.intro ?_ ?_))
    · intro json p hrequest
      obtain ⟨profile, metadata, rfl⟩ := request_describe hrequest (by simp)
      refine ensures_bind.mpr (ensures_ofExcept.mpr ⟨?_, fun _ _ => trivial⟩)
      intro _ _
      exact ⟨.head _, .inr ⟨profile, metadata, rfl⟩⟩
    · intro e p _
      refine ⟨fun _ => ?_, fun _ => trivial⟩
      refine ensures_bind.mpr (ensures_ofExcept.mpr ⟨?_, fun _ _ => trivial⟩)
      intro _ _
      exact ⟨.head _, .inl rfl⟩
  intro node hnode
  unfold Station.start at hnode
  cases hinit : StationNode.init (AuthorityClient.client cr link)
      ({ host } : AuthorityClient.Process B) with
  | ok node' p =>
    rw [hinit] at hnode
    cases hnode
    exact H.of_ok hinit
  | error e p =>
    rw [hinit] at hnode
    cases hnode

end Access.StationAccess
