import Access.StationAccess
import Access.Verify.AuthorityClient

/-! # What a handler of the station does

Most of a handler neither asks the authority nor touches the session: it publishes (`Publishes`).
What it leaves after its request, however that ended, is `Carried`; and what it has done in the end
is `Handled`. A ready session is the one of the authority's engine (`Linked`). -/

namespace Access.StationAccess

open EStateM Python Authority AuthorityClient

variable {A : Type}

/-! ## Steps

What the parts of a handler step through, for any relation that their assignments and publications
keep. -/

section

variable {R : StationHost A → StationHost A → Prop} [Std.Refl R] [IsTrans (StationHost A) R]

omit [IsTrans (StationHost A) R] in
theorem eval_steps (x : Except Error α) : Steps R (eval x) := .ofExcept _ _

theorem status_steps : Steps R status := .bind .get fun _ => eval_steps _

theorem setScenario_steps (payload : Json) (hassign : ∀ name ∈ scenarios,
    Steps R (assign fun node => { node with scenarioId := name })) :
    Steps R (setScenario payload) := by
  refine .bind (eval_steps _) fun scenario => .bind (eval_steps _) fun _ => ?_
  split
  · split
    · next hname => exact hassign _ hname
    · exact .pure _
  · exact .pure _

theorem recordSession_steps (session : Json)
    (hassign : ∀ f : StationNode → StationNode,
      (∀ node, (f node).protocolProfile = node.protocolProfile ∧
        (f node).scenarioId = node.scenarioId) → Steps R (assign f))
    (hpublish : ∀ payload, Steps R (publishStationProtocol payload)) :
    Steps R (recordSession session) := by
  refine .bind (eval_steps _) fun _ => .bind (eval_steps _) fun _ => .bind (eval_steps _) fun _ =>
    .bind (eval_steps _) fun _ => .bind (hassign _ fun _ => ⟨rfl, rfl⟩) fun _ => ?_
  refine .bind (eval_steps _) fun _ => .bind (hassign _ fun _ => ⟨rfl, rfl⟩) fun _ =>
    .bind (eval_steps _) fun _ => .bind (hassign _ fun _ => ⟨rfl, rfl⟩) fun _ => ?_
  exact .bind (eval_steps _) fun _ => .bind (hassign _ fun _ => ⟨rfl, rfl⟩) fun _ =>
    .bind .get fun _ => hpublish _

theorem settleTransition_steps (requestedState : Int) (outcome : Json)
    (hpublish : ∀ payload, Steps R (publishStationProtocol payload)) :
    Steps R (settleTransition requestedState outcome) := by
  refine .bind (eval_steps _) fun approved => .bind (eval_steps _) fun reason =>
    .bind (eval_steps _) fun _ => .bind .get fun _ => .bind (eval_steps _) fun _ => ?_
  split
  · refine .bind (.failIf _ _) fun _ => .bind (eval_steps _) fun _ => .bind (eval_steps _) fun _ =>
      .bind (eval_steps _) fun _ => .bind .get fun _ => .bind (eval_steps _) fun grant => ?_
    exact .bind (hpublish _) fun _ => .bind status_steps fun _ => .pure _
  · exact .pure _

theorem answerTransition_steps (outcome previous approved reason : Json)
    (hdecision : ∀ grantId, Steps R (publishDecision outcome approved previous reason grantId))
    (hpublish : ∀ payload, Steps R (publishStationProtocol payload)) :
    Steps R (answerTransition outcome previous approved reason) := by
  refine .bind (eval_steps _) fun grantId => .bind (hdecision _) fun _ => .bind .get fun _ => ?_
  refine .bind (eval_steps _) fun _ => .bind (eval_steps _) fun _ => .bind (eval_steps _) fun _ =>
    .bind (eval_steps _) fun _ => ?_
  exact .bind (hpublish _) fun _ => status_steps

theorem settleRedemption_steps (outcome : Json)
    (hassign : ∀ state, Steps R (assign fun node => { node with state })) :
    Steps R (settleRedemption outcome) := by
  refine .bind (eval_steps _) fun approved => .bind (eval_steps _) fun reason =>
    .bind (eval_steps _) fun state => .bind (hassign _) fun _ => ?_
  exact .bind (eval_steps _) fun _ => .pure _

theorem onScenario_steps (data : String) (hassign : ∀ name ∈ scenarios,
    Steps R (assign fun node => { node with scenarioId := name })) : Steps R (onScenario data) := by
  unfold onScenario
  split
  · next hdata => exact .bind (hassign _ hdata) fun _ => status_steps
  · exact .pure _

theorem onReadiness_steps (evidence : ReadinessMessage)
    (hreadiness : ∀ readiness, Steps R (assign fun node => { node with readiness }))
    (hsteps : ∀ step, Steps R
      (assign fun node => { node with completedSteps := node.completedSteps ++ [step] })) :
    Steps R (onReadiness evidence) := by
  refine .bind (hreadiness _) fun _ => .bind .get fun s => ?_
  dsimp only
  split
  · exact .bind (hsteps _) fun _ => status_steps
  · exact .pure _

end

/-! ## Publications -/

/-- A node's session, and whether it is ready. -/
def StationNode.session (node : StationNode) : Bool × Json := (node.sessionReady, node.sessionId)

/-- No request, the same session, and only decisions that satisfy `P`. -/
structure Publishes (P : TransitionDecision → Prop) (s t : StationHost A) : Prop where
  authority : t.authority = s.authority
  session : t.node.session = s.node.session
  decisions : ∀ d ∈ t.published.decisions, d ∈ s.published.decisions ∨
    P d.1 ∧ d.2.session = s.node.session

instance (P : TransitionDecision → Prop) : Std.Refl (Publishes (A := A) P) :=
  ⟨fun _ => ⟨rfl, rfl, fun _ h => .inl h⟩⟩

instance (P : TransitionDecision → Prop) : IsTrans (StationHost A) (Publishes P) where
  trans _ _ _ h₁ h₂ := ⟨h₂.authority.trans h₁.authority, h₂.session.trans h₁.session, fun d hd =>
    (h₂.decisions d hd).elim (h₁.decisions d) fun ⟨hp, hsession⟩ =>
      .inr ⟨hp, hsession.trans h₁.session⟩⟩

section

variable {P : TransitionDecision → Prop}

theorem assign_publishes {f : StationNode → StationNode}
    (h : ∀ node, (f node).session = node.session) : Steps (Publishes (A := A) P) (assign f) :=
  .modify fun s => ⟨rfl, h s.node, fun _ h => .inl h⟩

theorem publishStationProtocol_publishes (payload : Json) :
    Steps (Publishes (A := A) P) (publishStationProtocol payload) :=
  .bind (eval_steps _) fun _ => .modify fun _ => ⟨rfl, rfl, fun _ h => .inl h⟩

theorem setScenario_publishes (payload : Json) :
    Steps (Publishes (A := A) P) (setScenario payload) :=
  setScenario_steps payload fun _ _ => assign_publishes fun _ => rfl

theorem settleTransition_publishes (requestedState : Int) (outcome : Json) :
    Steps (Publishes (A := A) P) (settleTransition requestedState outcome) :=
  settleTransition_steps requestedState outcome publishStationProtocol_publishes

theorem settleRedemption_publishes (outcome : Json) :
    Steps (Publishes (A := A) P) (settleRedemption outcome) :=
  settleRedemption_steps outcome fun _ => assign_publishes fun _ => rfl

theorem onScenario_publishes (data : String) : Steps (Publishes (A := A) P) (onScenario data) :=
  onScenario_steps data fun _ _ => assign_publishes fun _ => rfl

theorem onReadiness_publishes (evidence : ReadinessMessage) :
    Steps (Publishes (A := A) P) (onReadiness evidence) :=
  onReadiness_steps evidence (fun _ => assign_publishes fun _ => rfl)
    fun _ => assign_publishes fun _ => rfl

end

/-- What the assignments to a decision assert. -/
structure Assigned (approved grantId : Json) (decision : TransitionDecision) : Prop where
  approved : approved = .bool decision.approved
  grantId : grantId = .str decision.grantId

theorem assignBool_eq_ok {x : Json} {b : Bool} (h : assignBool x = .ok b) : x = .bool b := by
  cases x <;> cases h
  rfl

theorem assignText_eq_ok {x : Json} {s : String} (h : assignText x = .ok s) : x = .str s := by
  cases x <;> cases h
  rfl

theorem transitionDecision_ok {outcome approved previous resulting reason grantId : Json}
    {decision : TransitionDecision}
    (h : transitionDecision outcome approved previous resulting reason grantId = .ok decision) :
    Assigned approved grantId decision := by
  simp only [transitionDecision, Except.bind_eq_ok, Except.pure_eq_ok] at h
  obtain ⟨_, happroved, _, -, _, -, _, -, _, hgrantId, _, -, _, -, _, -, _, -, _, -, _, -, _, -, _, -,
    _, -, _, -, _, -, _, -, rfl⟩ := h
  exact ⟨assignBool_eq_ok happroved, assignText_eq_ok hgrantId⟩

theorem publishDecision_publishes (outcome approved previous reason grantId : Json) :
    Steps (Publishes (A := A) (Assigned approved grantId))
      (publishDecision outcome approved previous reason grantId) := by
  refine .bind .get fun s t => Steps.bind_of_ok (eval_steps _) t fun decision t' heval => ?_
  obtain ⟨hdecision, -⟩ := ofExcept_eq_ok.mp heval
  have hpublish : Steps (Publishes (A := A) (Assigned approved grantId))
      (publish fun node published =>
        { published with decisions := published.decisions ++ [(decision, node)] }) := by
    refine .modify fun u => ⟨rfl, rfl, fun d hd => ?_⟩
    rcases List.mem_append.mp hd with hd | hd
    · exact .inl hd
    · cases List.mem_singleton.mp hd
      exact .inr ⟨transitionDecision_ok hdecision, rfl⟩
  exact Steps.bind hpublish (fun _ => .pure _) t'

theorem Publishes.mono {P P' : TransitionDecision → Prop} (h : ∀ d, P d → P' d)
    {s t : StationHost A} (H : Publishes P s t) : Publishes P' s t :=
  ⟨H.authority, H.session, fun d hd => (H.decisions d hd).imp_right fun hP => ⟨h d.1 hP.1, hP.2⟩⟩

theorem answerTransition_publishes (outcome previous approved reason : Json) :
    Steps (Publishes (A := A) fun decision => approved = .bool decision.approved)
      (answerTransition outcome previous approved reason) := by
  refine answerTransition_steps outcome previous approved reason (fun grantId => ?_)
    publishStationProtocol_publishes
  exact Steps.mono (publishDecision_publishes _ _ _ _ _) fun _ _ =>
    Publishes.mono fun _ h => h.approved

/-- The decision on a presentation. The grant of the outcome goes before that of the payload. -/
structure Decides (outcome approved : Json) (decision : TransitionDecision) : Prop where
  approved : approved = .bool decision.approved
  grantId : ∀ grantId, outcome.field? "grant_id" = some (.str grantId) → grantId ≠ "" →
    decision.grantId = grantId

theorem answerPresentation_publishes (payload outcome previous approved reason : Json) :
    Steps (Publishes (A := A) (Decides outcome approved))
      (answerPresentation payload outcome previous approved reason) := by
  intro s
  refine Steps.bind_of_ok (eval_steps _) s fun grantId s' heval => ?_
  obtain ⟨hgrantId, rfl⟩ := ofExcept_eq_ok.mp heval
  refine (Steps.bind (eval_steps _) fun grantId' => Steps.bind ?_ fun decision =>
    Steps.bind .get fun _ => Steps.bind (eval_steps _) fun _ =>
    Steps.bind (publishStationProtocol_publishes _) fun _ => status_steps :
    Steps (Publishes (Decides outcome approved)) _) s'
  refine Steps.mono (publishDecision_publishes _ _ _ _ _) fun _ _ => Publishes.mono fun d h =>
    ⟨h.approved, fun g hg hne => ?_⟩
  cases (get_of_field? hg _).symm.trans hgrantId
  have hassigned := h.grantId
  rw [or_of_ne_empty hne] at hassigned
  exact (Json.str.inj hassigned).symm

/-! ## Requests to the authority -/

/-- A session that is ready is the one of the engine. -/
def Linked (node : StationNode) (p : AuthorityClient.Process B) : Prop :=
  node.sessionReady = true → ∀ host, p.host = some host →
    ∃ sessionId, host.engine.sessionId = some sessionId ∧ node.sessionId = .str sessionId

theorem Linked.of_session {node node' : StationNode} {p : AuthorityClient.Process B}
    (H : Linked node p) (h : node'.session = node.session) : Linked node' p := by
  obtain ⟨hready, hid⟩ := Prod.mk.inj h
  intro h host hhost
  rw [hid]
  exact H (hready ▸ h) host hhost

/-- A session that is not ready is linked to any process. -/
theorem Linked.of_not_ready {node : StationNode} {p : AuthorityClient.Process B}
    (h : node.sessionReady = false) : Linked node p := by
  intro hready
  rw [h] at hready
  cases hready

/-- A request that establishes no session. -/
theorem Linked.exchange {node : StationNode} {p p' : AuthorityClient.Process B} {payload : Json}
    (H : Linked node p) (h : Exchange payload p p')
    (hcommand : payload.field? "command" ≠ some (.str "establish")) : Linked node p' := by
  intro hready host' hhost'
  obtain ⟨host, hhost, hsame⟩ := h.session host' hhost'
  rw [hsame hcommand]
  exact H hready host hhost

/-- A message with a transition request. -/
structure Requests (message : StationMessage) (payload : Json) : Prop where
  message : message = .chaserProtocol (.ok payload)
  kind : payload.field? "kind" = some (.str "transition_request")

/-- The node passes a transition request on to the authority. -/
structure StationNode.Forwards (node : StationNode) : Prop where
  ready : node.sessionReady = true
  readiness : node.readiness ≠ none

/-- The message that a grant of a session is issued for. -/
structure RequestFor (message : StationMessage) (node : StationNode) (sessionId : String) : Prop
    where
  payload : ∃ payload, Requests message payload
  forwards : node.Forwards
  sessionId : node.sessionId = .str sessionId

/-- What a handler has done to the process. -/
structure Asked (message : StationMessage) (s t : StationHost (AuthorityClient.Process B)) : Prop
    where
  sound : AuthorityClient.Process.Sound t.authority
  logs : Logs (fun entry => ∀ sessionId grantId, Issuing entry sessionId grantId →
    RequestFor message s.node sessionId) s.authority.handled t.authority.handled

/-- A state in the middle of a handler. -/
structure Carried (message : StationMessage) (s t : StationHost (AuthorityClient.Process B)) : Prop
    where
  asked : Asked message s t
  linked : Linked t.node t.authority
  decisions : t.published.decisions = []

/-- The grant of a decision was issued in the session of the engine. -/
def Redeemed (p : AuthorityClient.Process B) (decision : TransitionDecision) : Prop :=
  ∃ host sessionId, p.host = some host ∧ host.engine.sessionId = some sessionId ∧
    IssuedIn p.handled sessionId decision.grantId

/-- What a handler has done in the end. An approved decision is on a grant that was redeemed, and the
session is the one from before. -/
structure Handled (message : StationMessage) (s t : StationHost (AuthorityClient.Process B)) : Prop
    where
  asked : Asked message s t
  decisions : ∀ d ∈ t.published.decisions, d.1.approved = true →
    Redeemed s.authority d.1 ∧ d.2.session = s.node.session

variable {message : StationMessage} {s t u : StationHost (AuthorityClient.Process B)}

theorem Asked.of_authority (H : Asked message s t) (h : u.authority = t.authority) :
    Asked message s u where
  sound := h ▸ H.sound
  logs := h ▸ H.logs

theorem Asked.rfl (h : AuthorityClient.Process.Sound s.authority) : Asked message s s where
  sound := h
  logs := .inl (by rfl)

/-- A handler that publishes at its end. -/
theorem Carried.handled {P : TransitionDecision → Prop} (H : Carried message s t)
    (hpublishes : Publishes P t u) (h : ∀ decision, P decision → decision.approved = true →
      Redeemed s.authority decision ∧ t.node.session = s.node.session) :
    Handled message s u ∧ Linked u.node u.authority := by
  refine ⟨⟨H.asked.of_authority hpublishes.authority, fun d hd happroved => ?_⟩, ?_⟩
  · rcases hpublishes.decisions d hd with hd | ⟨hP, hsession⟩
    · rw [H.decisions] at hd
      cases hd
    · obtain ⟨hredeemed, hsame⟩ := h d.1 hP happroved
      exact ⟨hredeemed, hsession.trans hsame⟩
  · rw [hpublishes.authority]
    exact H.linked.of_session hpublishes.session

/-- A handler that publishes no decision. -/
theorem Carried.silent (H : Carried message s t) (hpublishes : Publishes (fun _ => False) t u) :
    Carried message s u where
  asked := H.asked.of_authority hpublishes.authority
  linked := hpublishes.authority ▸ H.linked.of_session hpublishes.session
  decisions := by
    refine List.eq_nil_iff_forall_not_mem.mpr fun d hd => ?_
    rcases hpublishes.decisions d hd with hd | ⟨hfalse, -⟩
    · rw [H.decisions] at hd
      cases hd
    · exact hfalse

theorem Carried.of_quiet (H : Carried message s t) :
    Handled message s t ∧ Linked t.node t.authority :=
  H.handled (Std.Refl.refl t) (P := fun _ => False) fun _ h => h.elim

/-! ## Sessions -/

/-- No request and no decision. -/
structure Silent (s t : StationHost A) : Prop where
  authority : t.authority = s.authority
  decisions : t.published.decisions = s.published.decisions

instance : Std.Refl (Silent (A := A)) := ⟨fun _ => ⟨rfl, rfl⟩⟩

instance : IsTrans (StationHost A) Silent where
  trans _ _ _ h₁ h₂ := ⟨h₂.authority.trans h₁.authority, h₂.decisions.trans h₁.decisions⟩

theorem assign_silent (f : StationNode → StationNode) : Steps (Silent (A := A)) (assign f) :=
  .modify fun _ => ⟨rfl, rfl⟩

theorem publishStationProtocol_silent (payload : Json) :
    Steps (Silent (A := A)) (publishStationProtocol payload) :=
  .bind (eval_steps _) fun _ => .modify fun _ => ⟨rfl, rfl⟩

theorem recordSession_silent (session : Json) : Steps (Silent (A := A)) (recordSession session) :=
  recordSession_steps session (fun f _ => assign_silent f) publishStationProtocol_silent

theorem assign_eq_ok {f : StationNode → StationNode} {s t : StationHost A} {v : PUnit} :
    (assign f : StationM A PUnit) s = .ok v t ↔ t = { s with node := f s.node } := modify_eq_ok

theorem eval_eq_ok {x : Except Error α} {a : α} {s t : StationHost A} :
    (eval x : StationM A α) s = .ok a t ↔ x = .ok a ∧ t = s := ofExcept_eq_ok

/-- A session that was recorded is ready. -/
theorem recordSession_ok {session : Json} {s t : StationHost A} {v : Unit}
    (h : recordSession session s = .ok v t) :
    t.node.sessionReady = true ∧ item session "session_id" = .ok t.node.sessionId := by
  simp only [recordSession, bind_eq_ok, eval_eq_ok, assign_eq_ok, get_eq_ok, and_assoc,
    exists_and_left, exists_eq_left, exists_const] at h
  obtain ⟨_, -, _, -, _, -, _, -, sessionId, hid, _, -, _, -, h⟩ := h
  have hsession := (Steps.ok (publishStationProtocol_publishes (P := fun _ => False) _) h).session
  obtain ⟨hready, hsame⟩ := Prod.mk.inj hsession
  rw [hready, hsame]
  exact ⟨rfl, hid⟩

/-! ## Handlers -/

section

theorem Asked.exchange {payload : Json} (hexchange : Exchange payload s.authority u.authority)
    (h : payload.field? "command" = some (.str "transition") → ∀ host sessionId,
      s.authority.host = some host → host.engine.sessionId = some sessionId →
      RequestFor message s.node sessionId) : Asked message s u where
  sound := hexchange.sound
  logs := hexchange.logs.mono fun entry hissuing sessionId grantId hentry => by
    obtain ⟨hcommand, host, hhost, hid⟩ := hissuing sessionId grantId hentry
    exact h hcommand host sessionId hhost hid

/-- A session that is denied is not ready. -/
theorem denySession_ensures (hs : Asked message s t) (hdecisions : t.published.decisions = [])
    (error : Error) : Ensures (denySession error) t (fun _ u => Carried message s u)
      fun _ u => Asked message s u ∧ u.published.decisions = [] := by
  simp only [denySession, assign, ensures_bind, ensures_modify]
  have hcarried : Carried message s { t with node := { t.node with
      sessionReady := false
      sessionDenialReason := some (if contains error.text "credential is not currently valid" then
        "DENY_CREDENTIAL_EXPIRED" else "DENY_ACCESS_SESSION_UNAVAILABLE") } } :=
    ⟨hs.of_authority rfl, .of_not_ready rfl, hdecisions⟩
  refine (Steps.ensures (publishStationProtocol_publishes (P := fun _ => False) _) _).mono
    (fun _ u hu => hcarried.silent hu) fun _ u hu => ?_
  exact ⟨(hcarried.silent hu).asked, (hcarried.silent hu).decisions⟩

/-- The end of a handler. -/
theorem status_ensures (hs : Carried message s t) :
    Ensures status t (fun _ u => Handled message s u ∧ Linked u.node u.authority)
      fun _ u => Handled message s u :=
  (Steps.ensures (status_steps (R := Publishes fun _ => False)) t).mono
    (fun _ _ hu => (hs.silent hu).of_quiet) fun _ _ hu => (hs.silent hu).of_quiet.1

theorem Asked.handled (hs : Asked message s t) (hdecisions : t.published.decisions = []) :
    Handled message s t where
  asked := hs
  decisions d hd := by
    rw [hdecisions] at hd
    cases hd

variable [ReplayStateBackend B] {cr : Crates} {fate : Fate} {now : SystemTime}

/-- The session that is established is ready and linked to the engine. -/
theorem establish_ensures (hs : Carried message s t) (hauthority : t.authority = s.authority) :
    Ensures (establish (request cr fate now)) t (fun _ u => Carried message s u)
      fun _ u => Asked message s u ∧ u.published.decisions = [] := by
  have hsound : AuthorityClient.Process.Sound t.authority := hs.asked.sound
  simp only [establish, ensures_bind, ensures_get, ensures_run]
  refine (request_ensures hsound).mono (fun json p' ⟨hrequest, hexchange⟩ => ?_)
    fun e p' hexchange => ?_
  · have hasked : Asked message s (authorityPart.set p' t) :=
      .exchange (hauthority ▸ hexchange) fun hcommand => by simp at hcommand
    obtain ⟨out, host', rfl, hhost', hid, -⟩ := request_establish hrequest (by simp)
    refine .intro (fun _ u hu => ?_) fun e u hu => ?_
    · obtain ⟨hready, hsession⟩ := recordSession_ok hu
      have hsilent := (recordSession_silent _).ok hu
      refine ⟨hasked.of_authority hsilent.authority, fun _ host hhost => ?_,
        hsilent.decisions.trans hs.decisions⟩
      rw [hsilent.authority] at hhost
      cases hhost'.symm.trans hhost
      exact ⟨out.sessionId, hid, (Except.ok.inj hsession).symm⟩
    · have hsilent := (recordSession_silent _).error hu
      exact ⟨hasked.of_authority hsilent.authority, hsilent.decisions.trans hs.decisions⟩
  · exact ⟨.exchange (hauthority ▸ hexchange) fun hcommand => by simp at hcommand, hs.decisions⟩

theorem handleAccessRequest_ensures (hs : Carried message s s) (payload : Json) :
    Ensures (handleAccessRequest (request cr fate now) payload) s
      (fun _ t => Handled message s t ∧ Linked t.node t.authority) fun _ t => Handled message s t := by
  simp only [handleAccessRequest, ensures_bind, ensures_attempt]
  refine (Steps.ensures (setScenario_publishes (P := fun _ => False) payload) s).mono
    (fun _ t ht => ?_) fun _ t ht => (hs.silent ht).of_quiet.1
  refine (establish_ensures (hs.silent ht) ht.authority).mono (fun _ u hu => status_ensures hu)
    fun e u ⟨hasked, hdecisions⟩ => ⟨fun _ => ?_, fun _ => hasked.handled hdecisions⟩
  exact (denySession_ensures hasked hdecisions e).mono (fun _ _ h => status_ensures h)
    fun _ _ ⟨hasked, hdecisions⟩ => hasked.handled hdecisions

/-- A request for a grant, in a session that is ready and linked. -/
theorem requestTransition_ensures (hs : Carried message s s) {payload : Json}
    (hmessage : message = .chaserProtocol (.ok payload))
    (hkind : payload.field? "kind" = some (.str "transition_request")) (requestedState : Int) :
    Ensures (requestTransition (request cr fate now) requestedState) s
      (fun _ t => Carried message s t) fun _ t => Carried message s t := by
  have hsound : AuthorityClient.Process.Sound s.authority := hs.asked.sound
  simp only [requestTransition, ensures_bind, ensures_get, ensures_failIf, ensures_okOr, ensures_run]
  refine ⟨fun hready => ⟨fun readiness hreadiness => ?_, fun _ => hs⟩, fun _ => hs⟩
  have hcarried {command : Json} (hcommand : command.field? "command" = some (.str "transition"))
      {p' : AuthorityClient.Process B} (hexchange : Exchange command s.authority p') :
      Carried message s (authorityPart.set p' s) := by
    refine ⟨.exchange hexchange fun _ host sessionId hhost hid => ?_,
      hs.linked.exchange hexchange (by simp [hcommand]), hs.decisions⟩
    have hready : s.node.sessionReady = true := by simpa using hready
    obtain ⟨sessionId', hid', hsame⟩ := hs.linked hready host hhost
    cases hid.symm.trans hid'
    have hsome : s.node.readiness ≠ none := by
      rw [hreadiness]
      exact Option.some_ne_none readiness
    exact ⟨⟨payload, hmessage, hkind⟩, ⟨hready, hsome⟩, hsame⟩
  exact (request_ensures hsound).mono (fun _ _ hexchange => hcarried (by simp) hexchange.2)
    fun _ _ hexchange => hcarried (by simp) hexchange

omit [ReplayStateBackend B] in
theorem settleTransition_ok {requestedState : Int} {outcome approved reason : Json}
    {s t : StationHost A}
    (h : settleTransition requestedState outcome s = .ok (some (approved, reason)) t) :
    truthy approved = false := by
  simp only [settleTransition, bind_eq_ok, eval_eq_ok] at h
  obtain ⟨approved', _, -, _, _, -, _, _, -, _, _, -, _, _, -, h⟩ := h
  by_cases htruthy : truthy approved' = true
  · simp only [htruthy, if_true, bind_eq_ok, pure_eq_ok] at h
    obtain ⟨_, _, -, _, _, -, _, _, -, _, _, -, _, _, -, _, _, -, _, _, -, _, _, -, h, -⟩ := h
    cases h
  · simp only [htruthy] at h
    obtain ⟨h, -⟩ := pure_eq_ok.mp h
    cases h
    simpa using htruthy

omit [ReplayStateBackend B] in
theorem failClosed_ensures (hs : Carried message s t) :
    Ensures failClosed t (fun _ u => Carried message s u) fun _ _ => False := by
  simp only [failClosed, ensures_bind, ensures_get]
  split
  · exact hs
  · simp only [assign, ensures_bind, ensures_modify, ensures_pure]
    exact ⟨hs.asked.of_authority rfl, .of_not_ready rfl, hs.decisions⟩

omit [ReplayStateBackend B] in
/-- A decision that is not approved. -/
theorem answerTransition_ensures (hs : Carried message s t) (outcome previous reason : Json)
    {approved : Json} (happroved : truthy approved = false) :
    Ensures (answerTransition outcome previous approved reason) t
      (fun _ u => Handled message s u ∧ Linked u.node u.authority) fun _ u => Handled message s u := by
  have h (decision : TransitionDecision) (hassigned : approved = .bool decision.approved)
      (htrue : decision.approved = true) :
      Redeemed s.authority decision ∧ t.node.session = s.node.session := by
    rw [hassigned, htrue] at happroved
    cases happroved
  exact ((answerTransition_publishes outcome previous approved reason).ensures t).mono
    (fun _ _ hu => hs.handled hu h) fun _ _ hu => (hs.handled hu h).1

omit [ReplayStateBackend B] in
theorem finishTransition_ensures (hs : Carried message s t) (outcome previous : Json)
    {settled : Except Error (Option (Json × Json))}
    (h : ∀ approved reason, settled = .ok (some (approved, reason)) → truthy approved = false) :
    Ensures (finishTransition outcome previous settled) t
      (fun _ u => Handled message s u ∧ Linked u.node u.authority) fun _ u => Handled message s u := by
  unfold finishTransition
  split
  · exact hs.of_quiet
  · exact answerTransition_ensures hs _ _ _ (h _ _ rfl)
  · refine ensures_bind.mpr ((failClosed_ensures hs).mono (fun reason u hu => ?_) fun _ _ => False.elim)
    exact answerTransition_ensures hu _ _ _ rfl

theorem handleTransitionRequest_ensures (hs : Carried message s s) {payload : Json}
    (hmessage : message = .chaserProtocol (.ok payload))
    (hkind : payload.field? "kind" = some (.str "transition_request")) :
    Ensures (handleTransitionRequest (request cr fate now) payload) s
      (fun _ t => Handled message s t ∧ Linked t.node t.authority) fun _ t => Handled message s t := by
  simp only [handleTransitionRequest, ensures_bind, eval, ensures_ofExcept, ensures_get,
    ensures_attempt]
  refine ⟨fun requestedState _ => ?_, fun _ _ => hs.of_quiet.1⟩
  refine (requestTransition_ensures hs hmessage hkind requestedState).mono (fun outcome t ht => ?_)
    fun e t ht => ⟨fun _ => finishTransition_ensures ht _ _ nofun, fun _ => ht.of_quiet.1⟩
  refine .intro (fun settled u hu => ?_) fun e u hu => ?_
  · have hcarried := ht.silent ((settleTransition_publishes requestedState outcome).ok hu)
    refine finishTransition_ensures hcarried _ _ fun approved reason h => ?_
    cases h
    exact settleTransition_ok hu
  · have hcarried := ht.silent ((settleTransition_publishes requestedState outcome).error hu)
    exact ⟨fun _ => finishTransition_ensures hcarried _ _ nofun, fun _ => hcarried.of_quiet.1⟩

/-- A request for a redemption. What it answers is on a grant of the session of the engine. -/
theorem redeemEntitlement_ensures (hs : Carried message s s) (requestedState : Int)
    (payload : Json) :
    Ensures (redeemEntitlement (request cr fate now) requestedState payload) s
      (fun outcome t => (Carried message s t ∧ t.node.session = s.node.session) ∧
        ∃ host sessionId grantId, s.authority.host = some host ∧
          host.engine.sessionId = some sessionId ∧ IssuedIn s.authority.handled sessionId grantId ∧
          outcome.field? "grant_id" = some (.str grantId) ∧ grantId ≠ "")
      fun _ t => Carried message s t ∧ t.node.session = s.node.session := by
  have hsound : AuthorityClient.Process.Sound s.authority := hs.asked.sound
  simp only [redeemEntitlement, ensures_bind, ensures_get, ensures_okOr, ensures_run, eval,
    ensures_ofExcept]
  refine ⟨fun readiness _ => ⟨fun entitlementHex _ => ?_, fun _ _ => ⟨hs, trivial⟩⟩,
    fun _ => ⟨hs, trivial⟩⟩
  have hcarried {command : Json}
      (hcommand : command.field? "command" = some (.str "redeem_entitlement"))
      {p' : AuthorityClient.Process B} (hexchange : Exchange command s.authority p') :
      Carried message s (authorityPart.set p' s) := by
    refine ⟨.exchange hexchange fun h => ?_, hs.linked.exchange hexchange (by simp [hcommand]),
      hs.decisions⟩
    simp [hcommand] at h
  refine (request_ensures hsound).mono (fun _ p' ⟨hrequest, hexchange⟩ => ?_)
    fun _ p' hexchange => ⟨hcarried (by simp) hexchange, rfl⟩
  obtain ⟨out, host, sessionId, grantId, rfl, hhost, hgrantId, hne, hid, hissued⟩ :=
    request_redeem hsound hrequest (by simp)
  refine ⟨⟨hcarried (by simp) hexchange, rfl⟩, host, sessionId, grantId, hhost, hid, hissued, ?_, hne⟩
  simp [TransitionOutcome.toJson, hgrantId]

omit [ReplayStateBackend B] in
theorem answerPresentation_ensures (hs : Carried message s t) (payload previous reason : Json)
    {outcome approved : Json} (h : ∀ decision, Decides outcome approved decision →
      decision.approved = true → Redeemed s.authority decision ∧ t.node.session = s.node.session) :
    Ensures (answerPresentation payload outcome previous approved reason) t
      (fun _ u => Handled message s u ∧ Linked u.node u.authority) fun _ u => Handled message s u :=
  ((answerPresentation_publishes payload outcome previous approved reason).ensures t).mono
    (fun _ _ hu => hs.handled hu h) fun _ _ hu => (hs.handled hu h).1

omit [ReplayStateBackend B] in
/-- Without an outcome nothing is approved. -/
theorem finishPresentation_error (hs : Carried message s t) (payload outcome previous : Json)
    (e : Error) :
    Ensures (finishPresentation payload outcome previous (.error e)) t
      (fun _ u => Handled message s u ∧ Linked u.node u.authority) fun _ u => Handled message s u := by
  refine answerPresentation_ensures hs _ _ _ fun decision hdecides happroved => ?_
  have hfalse := hdecides.approved
  rw [happroved] at hfalse
  cases hfalse

theorem handleEntitlementPresentation_ensures (hs : Carried message s s) (payload : Json) :
    Ensures (handleEntitlementPresentation (request cr fate now) payload) s
      (fun _ t => Handled message s t ∧ Linked t.node t.authority) fun _ t => Handled message s t := by
  simp only [handleEntitlementPresentation, ensures_bind, eval, ensures_ofExcept, ensures_get,
    ensures_attempt]
  refine ⟨fun requestedState _ => ?_, fun _ _ => hs.of_quiet.1⟩
  refine (redeemEntitlement_ensures hs requestedState payload).mono
    (fun outcome t ⟨⟨ht, hsession⟩, hgrant⟩ => ?_)
    fun e t ⟨ht, _⟩ => ⟨fun _ => finishPresentation_error ht _ _ _ e, fun _ => ht.of_quiet.1⟩
  obtain ⟨host, sessionId, grantId, hhost, hid, hissued, hgrantId, hne⟩ := hgrant
  refine .intro (fun ⟨approved, reason⟩ u hu => ?_) fun e u hu => ?_
  · have hsettled := (settleRedemption_publishes (P := fun _ => False) outcome).ok hu
    refine answerPresentation_ensures (ht.silent hsettled) _ _ _ fun decision hdecides _ => ?_
    have hsame := hdecides.grantId grantId hgrantId hne
    exact ⟨⟨host, sessionId, hhost, hid, hsame ▸ hissued⟩, hsettled.session.trans hsession⟩
  · have hcarried := ht.silent ((settleRedemption_publishes outcome).error hu)
    exact ⟨fun _ => finishPresentation_error hcarried _ _ _ e, fun _ => hcarried.of_quiet.1⟩

omit [ReplayStateBackend B] in
theorem carried_publishes (hs : Carried message s s) {x : StationM (AuthorityClient.Process B) Unit}
    (h : Steps (Publishes fun _ => False) x) :
    Ensures x s (fun _ t => Handled message s t ∧ Linked t.node t.authority)
      fun _ t => Handled message s t :=
  (h.ensures s).mono (fun _ _ ht => (hs.silent ht).of_quiet) fun _ _ ht => (hs.silent ht).of_quiet.1

omit [ReplayStateBackend B] in
theorem carried_clear (hs : Carried message s s) :
    Ensures (do assign StationNode.clearRuntimeState; status) s
      (fun _ t => Handled message s t ∧ Linked t.node t.authority) fun _ t => Handled message s t := by
  simp only [assign, ensures_bind, ensures_modify]
  exact status_ensures ⟨hs.asked.of_authority rfl, .of_not_ready rfl, hs.decisions⟩

theorem onChaserProtocol_ensures {data : Except Error Json}
    (hs : Carried (.chaserProtocol data) s s) :
    Ensures (onChaserProtocol (request cr fate now) data) s
      (fun _ t => Handled (.chaserProtocol data) s t ∧ Linked t.node t.authority)
      fun _ t => Handled (.chaserProtocol data) s t := by
  simp only [onChaserProtocol, ensures_bind, eval, ensures_ofExcept, ensures_attempt]
  refine ⟨fun payload hpayload => ⟨fun _ _ => ⟨fun kind hkind => ?_, fun _ _ => hs.of_quiet.1⟩,
    fun _ _ => hs.of_quiet.1⟩, fun e _ => ⟨fun _ => hs.of_quiet, fun _ => hs.of_quiet.1⟩⟩
  split
  · exact handleAccessRequest_ensures hs payload
  · exact handleTransitionRequest_ensures hs (congrArg _ hpayload) (field?_of_get hkind nofun)
  · exact handleEntitlementPresentation_ensures hs payload
  · exact hs.of_quiet

/-- Every message. -/
theorem handle_ensures (hs : Carried message s s) :
    Ensures (handle (request cr fate now) message) s
      (fun _ t => Handled message s t ∧ Linked t.node t.authority) fun _ t => Handled message s t := by
  cases message with
  | prepare | reset => exact carried_clear hs
  | run data =>
    simp only [handle, onRun, assign, ensures_bind, ensures_modify]
    exact status_ensures ⟨hs.asked.of_authority rfl, .of_not_ready rfl, hs.decisions⟩
  | scenario data => exact carried_publishes hs (onScenario_publishes data)
  | readiness evidence => exact carried_publishes hs (onReadiness_publishes evidence)
  | chaserProtocol data => exact onChaserProtocol_ensures hs

end

end Access.StationAccess
