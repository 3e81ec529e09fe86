import Access.Verify.StationAccess

/-! # Decisions, redemptions and evidence

A handler approves only what the authority has redeemed for it: a message leads to at most one
approved decision, on a redemption of its own (`handle_answers`). And it asks the authority with the
evidence that the node has, so what the authority was asked with is evidence that the station was
given (`handle_fed`). -/

namespace Access.StationAccess

open EStateM Python Authority AuthorityClient

/-! ## Steps of the handlers

What the handlers step through, for any relation that the parts keep. -/

section

variable {A : Type} {R : StationHost A → StationHost A → Prop} [Std.Refl R]
  [IsTrans (StationHost A) R] {client : Json → EStateM Error A Json}
  (assigns : ∀ f : StationNode → StationNode,
    (∀ node, (f node).readiness = node.readiness) → Steps R (assign f))
  (publishes : ∀ payload, Steps R (publishStationProtocol payload))

include assigns publishes

theorem handleAccessRequest_steps (payload : Json)
    (hestablish : ∀ scenario : String, Steps R (authorityPart.run id
      (client (.obj [("command", .str "establish"), ("scenario", .str scenario)])))) :
    Steps R (handleAccessRequest client payload) := by
  have hrecord (session : Json) : Steps R (recordSession session) := by
    refine .bind (eval_steps _) fun _ => .bind (eval_steps _) fun _ => .bind (eval_steps _) fun _ =>
      .bind (eval_steps _) fun _ => .bind (assigns _ fun _ => rfl) fun _ => ?_
    refine .bind (eval_steps _) fun _ => .bind (assigns _ fun _ => rfl) fun _ =>
      .bind (eval_steps _) fun _ => .bind (assigns _ fun _ => rfl) fun _ => ?_
    exact .bind (eval_steps _) fun _ => .bind (assigns _ fun _ => rfl) fun _ =>
      .bind .get fun _ => publishes _
  have hestablished : Steps R (establish client) :=
    .bind .get fun _ => .bind (hestablish _) fun _ => hrecord _
  refine .bind (setScenario_steps payload fun _ _ => assigns _ fun _ => rfl) fun _ =>
    .bind (.attempt hestablished) fun result => ?_
  cases result with
  | ok => exact status_steps
  | error e =>
    refine .bind ?_ fun _ => status_steps
    exact .bind (assigns _ fun _ => rfl) fun _ => publishes _

/-- The decision on a request is not an approval. -/
theorem handleTransitionRequest_steps (payload : Json)
    (hrequest : ∀ requestedState, Steps R (requestTransition client requestedState))
    (hdecision : ∀ outcome approved previous reason grantId, truthy approved = false →
      Steps R (publishDecision outcome approved previous reason grantId)) :
    Steps R (handleTransitionRequest client payload) := by
  have hanswer (outcome previous reason : Json) {approved : Json} (h : truthy approved = false) :
      Steps R (answerTransition outcome previous approved reason) :=
    answerTransition_steps _ _ _ _ (fun _ => hdecision _ _ _ _ _ h) publishes
  have hclosed : Steps R (failClosed (A := A)) := by
    refine .bind .get fun s => ?_
    split
    · exact .pure _
    · exact .bind (assigns _ fun _ => rfl) fun _ => .pure _
  have hfinish (outcome previous : Json) {settled : Except Error (Option (Json × Json))}
      (h : ∀ approved reason, settled = .ok (some (approved, reason)) → truthy approved = false) :
      Steps R (finishTransition outcome previous settled) := by
    unfold finishTransition
    split
    · exact .pure _
    · exact hanswer _ _ _ (h _ _ rfl)
    · exact .bind hclosed fun _ => hanswer _ _ _ rfl
  refine .bind (eval_steps _) fun requestedState => .bind .get fun _ =>
    .bind (.attempt (hrequest requestedState)) fun result => ?_
  cases result with
  | error e =>
    apply hfinish
    intro _ _ h
    cases h
  | ok outcome =>
    intro s
    refine Steps.bind_of_ok (.attempt (settleTransition_steps _ _ publishes)) s ?_
    intro settled s' hsettled
    refine hfinish _ _ ?_ s'
    intro approved reason h
    subst h
    unfold EStateM.attempt at hsettled
    cases hsettle : settleTransition requestedState outcome s with
    | ok a t =>
      rw [hsettle] at hsettled
      cases hsettled
      exact settleTransition_ok hsettle
    | error e t =>
      rw [hsettle] at hsettled
      dsimp only at hsettled
      split at hsettled <;> cases hsettled

theorem handleEntitlementPresentation_steps (payload : Json)
    (hredeem : ∀ requestedState, Steps R (redeemEntitlement client requestedState payload))
    (hdecision : ∀ outcome approved previous reason grantId,
      Steps R (publishDecision outcome approved previous reason grantId)) :
    Steps R (handleEntitlementPresentation client payload) := by
  have hanswer (outcome previous approved reason : Json) :
      Steps R (answerPresentation payload outcome previous approved reason) := by
    refine .bind (eval_steps _) fun _ => .bind (eval_steps _) fun _ =>
      .bind (hdecision _ _ _ _ _) fun _ => .bind .get fun _ => ?_
    exact .bind (eval_steps _) fun _ => .bind (publishes _) fun _ => status_steps
  have hfinish (outcome previous : Json) (settled : Except Error (Json × Json)) :
      Steps R (finishPresentation payload outcome previous settled) := by
    unfold finishPresentation
    split
    · exact hanswer _ _ _ _
    · exact hanswer _ _ _ _
  refine .bind (eval_steps _) fun requestedState => .bind .get fun _ =>
    .bind (.attempt (hredeem requestedState)) fun result => ?_
  cases result with
  | ok outcome =>
    exact .bind (.attempt (settleRedemption_steps _ fun _ => assigns _ fun _ => rfl)) fun _ =>
      hfinish _ _ _
  | error e => exact hfinish _ _ _

theorem handle_steps (message : StationMessage)
    (hclear : Steps R (assign StationNode.clearRuntimeState))
    (hreadiness : ∀ evidence, message = .readiness evidence →
      Steps R (assign fun node => { node with readiness := some evidence.readiness }))
    (hestablish : ∀ scenario : String, Steps R (authorityPart.run id
      (client (.obj [("command", .str "establish"), ("scenario", .str scenario)]))))
    (hrequest : ∀ requestedState, Steps R (requestTransition client requestedState))
    (hredeem : ∀ requestedState payload, Steps R (redeemEntitlement client requestedState payload))
    (hdecision : ∀ outcome approved previous reason grantId,
      Steps R (publishDecision outcome approved previous reason grantId)) :
    Steps R (handle client message) := by
  have hcleared : Steps R (do assign StationNode.clearRuntimeState; status) :=
    .bind hclear fun _ => status_steps
  cases message with
  | prepare | reset => exact hcleared
  | run data =>
    refine .bind (assigns _ fun node => ?_) fun _ => hcleared
    split <;> rfl
  | scenario data => exact onScenario_steps data fun _ _ => assigns _ fun _ => rfl
  | readiness evidence =>
    refine .bind (hreadiness evidence rfl) fun _ => .bind .get fun s => ?_
    dsimp only
    split
    · exact .bind (assigns _ fun _ => rfl) fun _ => status_steps
    · exact .pure _
  | chaserProtocol data =>
    refine .bind (.attempt (eval_steps _)) fun result => ?_
    cases result with
    | error e => exact .pure _
    | ok payload =>
      refine .bind (eval_steps _) fun _ => .bind (eval_steps _) fun kind => ?_
      split
      · exact handleAccessRequest_steps assigns publishes payload hestablish
      · exact handleTransitionRequest_steps assigns publishes payload hrequest
          fun _ _ _ _ _ _ => hdecision _ _ _ _ _
      · exact handleEntitlementPresentation_steps assigns publishes payload (hredeem · payload)
          hdecision
      · exact .pure _

end

/-- A relation between the authorities of two hosts. -/
def OnAuthority (S : A → A → Prop) (s t : StationHost A) : Prop := S s.authority t.authority

section

variable {A : Type} {S : A → A → Prop} [Std.Refl S] [IsTrans A S]
  {client : Json → EStateM Error A Json}

instance : Std.Refl (OnAuthority S) := ⟨fun s => Std.Refl.refl s.authority⟩

instance : IsTrans (StationHost A) (OnAuthority S) where
  trans _ _ _ h₁ h₂ := IsTrans.trans (r := S) _ _ _ h₁ h₂

/-- All that a handler does to the authority are requests. -/
theorem handle_onAuthority (h : ∀ payload, Steps S (client payload)) (message : StationMessage) :
    Steps (OnAuthority S) (handle client message) := by
  have hassign (f : StationNode → StationNode) : Steps (OnAuthority S) (assign f) :=
    .modify fun s => Std.Refl.refl s.authority
  have hpublish (f : StationNode → Published → Published) : Steps (OnAuthority S) (publish f) :=
    .modify fun s => Std.Refl.refl s.authority
  have hclient (payload : Json) : Steps (OnAuthority S) (authorityPart.run id (client payload)) :=
    .run (h payload) fun _ _ hS => hS
  refine handle_steps (fun f _ => hassign f) (fun _ => .bind (eval_steps _) fun _ => hpublish _)
    message (hassign _) (fun _ _ => hassign _) (fun _ => hclient _) ?_ ?_ ?_
  · intro requestedState
    exact .bind .get fun _ => .bind (.failIf _ _) fun _ => .bind (.okOr _ _) fun _ => hclient _
  · intro requestedState payload
    exact .bind .get fun _ => .bind (.okOr _ _) fun _ => .bind (eval_steps _) fun _ => hclient _
  · intro outcome approved previous reason grantId
    exact .bind .get fun _ => .bind (eval_steps _) fun _ => .bind (hpublish _) fun _ => .pure _

/-- The constructor. -/
theorem start_onAuthority (h : ∀ payload, Steps S (client payload)) (authority : A) :
    S authority (Station.start client authority).authority := by
  have hinit : Steps S (StationNode.init client) :=
    .bind (.attempt (h _)) fun _ => .bind (.ofExcept _ _) fun _ => .pure _
  unfold Station.start
  cases hresult : StationNode.init client authority with
  | ok node authority' => exact hinit.ok hresult
  | error e authority' => exact hinit.error hresult

/-- One message. -/
theorem step_onAuthority {client : ρ → Json → EStateM Error A Json}
    (h : ∀ link payload, Steps S (client link payload)) (s : Station A) (call : StationCall ρ) :
    S s.authority (step client s call).2.authority := by
  cases hnode : s.node with
  | none =>
    simp only [step, hnode]
    exact Std.Refl.refl _
  | some node =>
    have hsteps := handle_onAuthority (h call.link) call.message
    simp only [step, hnode]
    cases hresult : handle (client call.link) call.message { node, authority := s.authority } with
    | ok u t => exact hsteps.ok hresult
    | error e t => exact hsteps.error hresult

end

/-! ## Evidence -/

/-- What the authority read of the evidence of a node. -/
def ReadFrom (readiness : Readiness) (evidence : ReadinessEvidence) : Prop :=
  Serde.readReadiness readiness.toJson = some evidence

/-- A transition was asked for at the time of the authority, with evidence that satisfies `P`. -/
structure AskedWith (P : Readiness → Prop) (nowS : Option Int64) (evidence : ReadinessEvidence) :
    Prop where
  now : nowS = none
  exists_readiness : ∃ readiness, P readiness ∧ ReadFrom readiness evidence

/-- Every transition in a log was asked for with evidence that satisfies `P`. -/
def AsksWith (P : Readiness → Prop) (handled : List (Line × Authority.Response)) : Prop :=
  ∀ entry ∈ handled, ∀ requestedState nowS evidence,
    entry.1.input = .ok (.transition requestedState nowS evidence) → AskedWith P nowS evidence

/-- The evidence of a node, and what it asked its authority with, satisfies `P`. -/
structure Fed (P : Readiness → Prop) (s : StationHost (AuthorityClient.Process B)) : Prop where
  node : ∀ readiness, s.node.readiness = some readiness → P readiness
  asks : AsksWith P s.authority.handled

variable {P P' : Readiness → Prop} {handled : List (Line × Authority.Response)}

theorem AsksWith.mono (H : AsksWith P handled) (h : ∀ readiness, P readiness → P' readiness) :
    AsksWith P' handled := by
  intro entry mem requestedState nowS evidence hinput
  obtain ⟨now, readiness, hP, hread⟩ := H entry mem requestedState nowS evidence hinput
  exact ⟨now, readiness, h readiness hP, hread⟩

theorem AsksWith.cons (H : AsksWith P handled) {line : Line} (response : Authority.Response)
    (h : ∀ requestedState nowS evidence,
      line.input = .ok (.transition requestedState nowS evidence) → AskedWith P nowS evidence) :
    AsksWith P ((line, response) :: handled) :=
  List.forall_mem_cons.mpr ⟨h, H⟩

/-- The command of a request for a transition. -/
theorem askedWith_of_ofJson {requestedState : Int} {readiness : Readiness} {requested : UInt8}
    {nowS : Option Int64} {evidence : ReadinessEvidence} (hreadiness : P readiness)
    (h : Command.ofJson (.obj [("command", .str "transition"), ("requested_state", .int requestedState),
      ("readiness", readiness.toJson)]) = some (.transition requested nowS evidence)) :
    AskedWith P nowS evidence := by
  simp only [Command.ofJson, Option.bind_eq_bind, Option.bind_eq_some_iff] at h
  obtain ⟨_, -, name, ⟨value, hvalue, hname⟩, h⟩ := h
  cases hvalue
  cases hname
  simp only [Option.bind_eq_some_iff, Option.pure_def, Option.some.injEq] at h
  obtain ⟨_, -, _, hnow, _, ⟨value, hvalue, hread⟩, h⟩ := h
  cases h
  cases hvalue
  cases hnow
  exact ⟨rfl, readiness, hreadiness, hread⟩

section

variable [ReplayStateBackend B] {cr : Crates} {fate : Fate} {now : SystemTime} {payload : Json}
  {message : StationMessage}

/-- A request is handled once, or it is not. -/
theorem request_handled (cr : Crates) (fate : Fate) (now : SystemTime) (payload : Json)
    (p : AuthorityClient.Process B) :
    (request cr fate now payload p).state.handled = p.handled ∨ ∃ response,
      (request cr fate now payload p).state.handled = (line payload now, response) :: p.handled := by
  obtain ⟨host, handled⟩ := p
  cases host with
  | none => cases fate <;> exact .inl rfl
  | some host =>
    cases fate with
    | lost loss isHandled =>
      cases isHandled with
      | true => exact .inr ⟨_, rfl⟩
      | false => exact .inl rfl
    | answered =>
      refine .inr ⟨(Authority.step cr host (line payload now)).1, ?_⟩
      simp only [request]
      cases readResponse (Authority.step cr host (line payload now)).1.toJson <;> rfl

theorem AsksWith.request {p : AuthorityClient.Process B} (H : AsksWith P p.handled)
    (h : ∀ requestedState nowS evidence,
      Command.ofJson payload = some (.transition requestedState nowS evidence) →
      AskedWith P nowS evidence) :
    AsksWith P (AuthorityClient.request cr fate now payload p).state.handled := by
  rcases request_handled cr fate now payload p with same | ⟨response, more⟩
  · rw [same]
    exact H
  · rw [more]
    refine H.cons response fun requestedState nowS evidence hinput => ?_
    exact h requestedState nowS evidence (Except.okOr_eq_ok.mp hinput)

theorem Fed.authority {s : StationHost (AuthorityClient.Process B)} (H : Fed P s)
    (h : ∀ requestedState nowS evidence,
      Command.ofJson payload = some (.transition requestedState nowS evidence) →
      AskedWith P nowS evidence) :
    Ensures (authorityPart.run id (request cr fate now payload)) s (fun _ t => Fed P t)
      fun _ t => Fed P t := by
  have hasks : AsksWith P (request cr fate now payload s.authority).state.handled := H.asks.request h
  refine ensures_run.mpr (.intro (fun json p' hp => ?_) fun e p' hp => ?_)
  all_goals
    have hasks' : AsksWith P p'.handled := by
      rw [show s.authority = authorityPart.get s from rfl, hp] at hasks
      exact hasks
    exact ⟨H.node, hasks'⟩

theorem askedWith_of_tag {P : Readiness → Prop} {tag : String} (htag : tag ≠ "transition")
    (hpayload : payload.field? "command" = some (.str tag)) (requestedState : UInt8)
    (nowS : Option Int64) (evidence : ReadinessEvidence)
    (h : Command.ofJson payload = some (.transition requestedState nowS evidence)) :
    AskedWith P nowS evidence := by
  have := hpayload.symm.trans (Command.field?_of_ofJson h)
  simp only [Option.some.injEq, Json.str.injEq] at this
  exact absurd this htag

/-- Every message. Evidence that the node is given has to satisfy `P`. -/
theorem handle_fed (h : ∀ evidence, message = .readiness evidence → P evidence.readiness) :
    Steps (Preserves (Fed (B := B) P)) (handle (request cr fate now) message) := by
  apply handle_steps
  case assigns =>
    intro f hf
    refine .modify fun s H => ⟨?_, H.asks⟩
    intro readiness hreadiness
    exact H.node readiness ((hf s.node).symm.trans hreadiness)
  case publishes =>
    intro payload
    exact .bind (eval_steps _) fun _ => .modify fun s H => ⟨H.node, H.asks⟩
  case hclear =>
    refine .modify fun s H => ⟨?_, H.asks⟩
    intro readiness hreadiness
    cases hreadiness
  case hreadiness =>
    intro evidence hmessage
    refine .modify fun s H => ⟨?_, H.asks⟩
    intro readiness hreadiness
    cases hreadiness
    exact h evidence hmessage
  case hestablish =>
    intro scenario
    refine steps_preserves_iff.mpr fun s H => ?_
    exact H.authority (askedWith_of_tag (by decide) rfl)
  case hrequest =>
    intro requestedState
    refine steps_preserves_iff.mpr fun s H => ?_
    simp only [requestTransition, ensures_bind, ensures_get, ensures_failIf, ensures_okOr]
    refine ⟨fun _ => ⟨fun readiness hreadiness => ?_, fun _ => H⟩, fun _ => H⟩
    apply H.authority
    intro requested nowS evidence hcommand
    exact askedWith_of_ofJson (H.node readiness hreadiness) hcommand
  case hredeem =>
    intro requestedState payload
    refine steps_preserves_iff.mpr fun s H => ?_
    simp only [redeemEntitlement, ensures_bind, ensures_get, ensures_okOr, eval, ensures_ofExcept]
    refine ⟨fun readiness _ => ⟨fun entitlementHex _ => ?_, fun _ _ => H⟩, fun _ => H⟩
    exact H.authority (askedWith_of_tag (by decide) rfl)
  case hdecision =>
    intro outcome approved previous reason grantId
    refine .bind .get fun _ => .bind (eval_steps _) fun _ => .bind ?_ fun _ => .pure _
    exact .modify fun s H => ⟨H.node, H.asks⟩

end

/-! ## Approvals -/

/-- The state that a decision approves. -/
def approvedState? (decision : TransitionDecision) : Option UInt8 :=
  if decision.approved then some decision.resultingState else none

/-- The state that a redemption led to. -/
def redeemedState? (entry : Line × Authority.Response) : Option UInt8 :=
  match entry.1.input, entry.2.value with
  | .ok (.redeemEntitlement ..), some (.transition out) => some out.resultingState
  | _, _ => none

def Published.approvals (published : Published) : List UInt8 :=
  published.decisions.filterMap fun d => approvedState? d.1

/-- The approvals that are published are of what was redeemed meanwhile. -/
structure Answers (s t : StationHost (AuthorityClient.Process B)) : Prop where
  exists_new : ∃ new, t.authority.handled = new ++ s.authority.handled ∧
    t.published.approvals.Sublist (new.filterMap redeemedState?)

/-- Nothing is approved. -/
structure Withholds (s t : StationHost (AuthorityClient.Process B)) : Prop where
  exists_new : ∃ new, t.authority.handled = new ++ s.authority.handled
  approvals : t.published.approvals = s.published.approvals

instance : Std.Refl (Withholds (B := B)) := ⟨fun _ => ⟨⟨[], rfl⟩, rfl⟩⟩

instance : IsTrans (StationHost (AuthorityClient.Process B)) Withholds where
  trans s t u h₁ h₂ := by
    obtain ⟨new, hnew⟩ := h₁.exists_new
    obtain ⟨new', hnew'⟩ := h₂.exists_new
    refine ⟨⟨new' ++ new, ?_⟩, h₂.approvals.trans h₁.approvals⟩
    rw [hnew', hnew, List.append_assoc]

theorem Withholds.answers {s t : StationHost (AuthorityClient.Process B)} (H : Withholds s t)
    (h : s.published.approvals = []) : Answers s t := by
  obtain ⟨new, hnew⟩ := H.exists_new
  refine ⟨new, hnew, ?_⟩
  rw [H.approvals, h]
  exact List.nil_sublist _

/-- A decision is published, unless one of its fields cannot be assigned. -/
theorem publishDecision_approvals (outcome approved previous reason grantId : Json)
    (s : StationHost (AuthorityClient.Process B)) :
    Ensures (publishDecision outcome approved previous reason grantId) s
      (fun decision t => t.authority = s.authority ∧
        t.published.approvals = s.published.approvals ++ (approvedState? decision).toList ∧
        approved = .bool decision.approved ∧
        assignUInt8 s.node.state = .ok decision.resultingState)
      fun _ t => t = s := by
  simp only [publishDecision, ensures_bind, ensures_get, eval, ensures_ofExcept, publish,
    ensures_modify, ensures_pure]
  refine ⟨fun decision hdecision => ⟨trivial, ?_, (transitionDecision_ok hdecision).approved, ?_⟩,
    fun _ _ => trivial⟩
  · simp only [Published.approvals, List.filterMap_append, List.filterMap_cons, List.filterMap_nil]
    cases approvedState? decision <;> rfl
  · simp only [transitionDecision, Except.bind_eq_ok, Except.pure_eq_ok] at hdecision
    obtain ⟨_, -, _, -, _, hresulting, _, -, _, -, _, -, _, -, _, -, _, -, _, -, _, -, _, -, _, -,
      _, -, _, -, _, -, _, -, rfl⟩ := hdecision
    exact hresulting

theorem assign_withholds (f : StationNode → StationNode) :
    Steps (Withholds (B := B)) (assign f) := .modify fun _ => ⟨⟨[], rfl⟩, rfl⟩

theorem publishStationProtocol_withholds (payload : Json) :
    Steps (Withholds (B := B)) (publishStationProtocol payload) :=
  .bind (eval_steps _) fun _ => .modify fun _ => ⟨⟨[], rfl⟩, rfl⟩

/-- A decision that is not an approval. -/
theorem publishDecision_withholds (outcome : Json) {approved : Json} (previous reason grantId : Json)
    (h : truthy approved = false) :
    Steps (Withholds (B := B)) (publishDecision outcome approved previous reason grantId) := by
  intro s
  have H := publishDecision_approvals outcome approved previous reason grantId s
  cases hresult : publishDecision outcome approved previous reason grantId s with
  | error e t => exact H.of_error hresult ▸ Std.Refl.refl _
  | ok decision t =>
    obtain ⟨hauthority, happrovals, happroved, -⟩ := H.of_ok hresult
    refine ⟨⟨[], congrArg _ hauthority⟩, ?_⟩
    have hdenied : approvedState? decision = none := by
      rw [happroved] at h
      unfold approvedState?
      rw [show decision.approved = false from h]
      rfl
    show t.published.approvals = _
    rw [happrovals, hdenied]
    exact List.append_nil _

/-- The answer to a presentation, when what it could approve was redeemed. -/
theorem answerPresentation_answers {s t : StationHost (AuthorityClient.Process B)}
    {new : List (Line × Authority.Response)} (hnew : t.authority.handled = new ++ s.authority.handled)
    (hnothing : t.published.approvals = []) (payload outcome previous reason : Json)
    {approved : Json}
    (h : ∀ decision : TransitionDecision, approved = .bool decision.approved →
      assignUInt8 t.node.state = .ok decision.resultingState → decision.approved = true →
      new.filterMap redeemedState? = [decision.resultingState]) :
    Ensures (answerPresentation payload outcome previous approved reason) t
      (fun _ u => Answers s u) fun _ u => Answers s u := by
  have hquiet {u : StationHost (AuthorityClient.Process B)} (hu : Withholds t u) : Answers s u := by
    obtain ⟨later, hlater⟩ := hu.exists_new
    refine ⟨later ++ new, by rw [hlater, hnew, List.append_assoc], ?_⟩
    rw [hu.approvals, hnothing]
    exact List.nil_sublist _
  simp only [answerPresentation, ensures_bind, eval, ensures_ofExcept, ensures_get]
  refine ⟨fun _ _ => ⟨fun _ _ => ?_, fun _ _ => hquiet (Std.Refl.refl _)⟩,
    fun _ _ => hquiet (Std.Refl.refl _)⟩
  refine (publishDecision_approvals _ _ _ _ _ t).mono ?_ fun _ u hu => hu ▸ hquiet (Std.Refl.refl _)
  rintro decision u ⟨hauthority, happrovals, happroved, hresulting⟩
  rw [hnothing, List.nil_append] at happrovals
  have hanswers {v : StationHost (AuthorityClient.Process B)} (hv : Withholds u v) : Answers s v := by
    obtain ⟨later, hlater⟩ := hv.exists_new
    refine ⟨later ++ new, by rw [hlater, hauthority, hnew, List.append_assoc], ?_⟩
    rw [hv.approvals, happrovals, List.filterMap_append]
    refine List.Sublist.trans ?_ (List.sublist_append_right _ _)
    unfold approvedState?
    split
    · rename_i happrove
      rw [h decision happroved hresulting happrove]
      exact List.Sublist.refl _
    · exact List.nil_sublist _
  refine ⟨fun _ _ => ?_, fun _ _ => hanswers (Std.Refl.refl _)⟩
  refine ((publishStationProtocol_withholds _).ensures u).mono (fun _ v hv => ?_)
    fun _ _ hv => hanswers hv
  exact (status_steps.ensures v).mono (fun _ _ hw => hanswers (IsTrans.trans _ _ _ hv hw))
    fun _ _ hw => hanswers (IsTrans.trans _ _ _ hv hw)

theorem settleRedemption_silent (outcome : Json) : Steps (Silent (A := A)) (settleRedemption outcome) :=
  settleRedemption_steps outcome fun _ => assign_silent _

theorem Withholds.silent {s t u : StationHost (AuthorityClient.Process B)} (H : Withholds s t)
    (h : Silent t u) : Withholds s u where
  exists_new := h.authority ▸ H.exists_new
  approvals := by
    rw [← H.approvals, Published.approvals, h.decisions]
    rfl

/-- The state of an outcome is the state of the node. -/
theorem settleRedemption_state {outcome approved reason state : Json} {s t : StationHost A}
    (hstate : outcome.field? "resulting_state" = some state)
    (h : settleRedemption outcome s = .ok (approved, reason) t) : t.node.state = state := by
  simp only [settleRedemption, bind_eq_ok, eval_eq_ok, assign_eq_ok, pure_eq_ok, and_assoc,
    exists_and_left, exists_eq_left, exists_const] at h
  obtain ⟨_, -, _, -, state', hitem, _, -, -, rfl⟩ := h
  exact Option.some.inj ((item_eq_ok.mp hitem).symm.trans hstate)

section

variable [ReplayStateBackend B] {cr : Crates} {fate : Fate} {now : SystemTime} {payload : Json}
  {message : StationMessage}

theorem request_withholds :
    Steps (Withholds (B := B)) (authorityPart.run id (request cr fate now payload)) := by
  refine Steps.run (S := fun p p' => ∃ new, p'.handled = new ++ p.handled) (fun p => ?_)
    fun s p hp => ⟨hp, rfl⟩
  rcases request_handled cr fate now payload p with
    same | ⟨response, more⟩
  · exact ⟨[], same⟩
  · exact ⟨[(line payload now, response)], more⟩

omit [ReplayStateBackend B] in
theorem assignUInt8_ofUInt8 (n : UInt8) : assignUInt8 (Serde.ofUInt8 n) = .ok n := by
  have hfits : (0 : Int) ≤ n.toNat ∧ (n.toNat : Int) ≤ 255 := by
    have := n.toNat_lt
    omega
  simp only [assignUInt8, Serde.ofUInt8, assignInt, if_pos hfits, Except.map, Int.toNat_natCast,
    UInt8.ofNat_toNat]

/-- A redemption that is answered is in the log, and its outcome has the state that it led to. -/
theorem redeemEntitlement_redeems (requestedState : Int)
    (s : StationHost (AuthorityClient.Process B)) :
    Ensures (redeemEntitlement (request cr fate now) requestedState payload) s
      (fun outcome t => t.published = s.published ∧ ∃ (entry : Line × Authority.Response) (state : UInt8),
        t.authority.handled = entry :: s.authority.handled ∧ redeemedState? entry = some state ∧
        outcome.field? "resulting_state" = some (Serde.ofUInt8 state))
      fun _ t => Withholds s t := by
  simp only [redeemEntitlement, ensures_bind, ensures_get, ensures_okOr, eval, ensures_ofExcept]
  refine ⟨fun readiness _ => ⟨fun entitlementHex _ => ?_, fun _ _ => Std.Refl.refl _⟩,
    fun _ => Std.Refl.refl _⟩
  refine .intro (fun outcome t h => ?_) fun e t h => request_withholds.error h
  obtain ⟨p', hp', rfl⟩ := Part.run_eq_ok.mp h
  obtain ⟨host, value, -, -, hvalue, rfl, rfl⟩ := request_eq_ok.mp hp'
  obtain ⟨command, hinput, htag⟩ := exists_command hvalue
  have htag' : command.tag = "redeem_entitlement" := by
    simpa using htag.symm
  cases command with
  | describe | establish | transition => simp [Command.tag] at htag'
  | redeemEntitlement requested entitlement nowS evidence =>
    have hstep := hvalue
    simp only [Authority.step, hinput, handleCommand] at hstep
    obtain ⟨out, -, rfl⟩ := respond_value (Prod.ext hstep rfl) rfl
    refine ⟨rfl, _, out.resultingState, rfl, ?_, rfl⟩
    simp only [redeemedState?, hinput]

/-- A presentation is approved if it was redeemed, with the state that this led to. -/
theorem handleEntitlementPresentation_answers {s : StationHost (AuthorityClient.Process B)}
    (hs : s.published.approvals = []) :
    Ensures (handleEntitlementPresentation (request cr fate now) payload) s
      (fun _ t => Answers s t) fun _ t => Answers s t := by
  simp only [handleEntitlementPresentation, ensures_bind, eval, ensures_ofExcept, ensures_get,
    ensures_attempt]
  refine ⟨fun requestedState _ => ?_, fun _ _ => Withholds.answers (Std.Refl.refl _) hs⟩
  -- without an outcome, or after an exception, nothing is approved
  have herror {t : StationHost (AuthorityClient.Process B)} (ht : Withholds s t)
      (outcome previous : Json) (e : Error) :
      Ensures (finishPresentation payload outcome previous (.error e)) t
        (fun _ u => Answers s u) fun _ u => Answers s u := by
    obtain ⟨new, hnew⟩ := ht.exists_new
    refine answerPresentation_answers hnew (ht.approvals.trans hs) _ _ _ _ ?_
    intro decision hdenied _ happrove
    rw [happrove] at hdenied
    cases hdenied
  refine (redeemEntitlement_redeems requestedState s).mono ?_
    fun e t ht => ⟨fun _ => herror ht _ _ e, fun _ => ht.answers hs⟩
  rintro outcome t ⟨hpublished, entry, state, hentry, hredeemed, hstate⟩
  have ht : Withholds s t := ⟨⟨[entry], hentry⟩, congrArg _ hpublished⟩
  refine .intro (fun settled u hu => ?_) fun e u hu => ?_
  · obtain ⟨approved, reason⟩ := settled
    have hsilent := (settleRedemption_silent outcome).ok hu
    have hnew : u.authority.handled = [entry] ++ s.authority.handled := by
      rw [hsilent.authority]
      exact hentry
    refine answerPresentation_answers hnew ((ht.silent hsilent).approvals.trans hs) _ _ _ _ ?_
    intro decision _ hresulting _
    rw [settleRedemption_state hstate hu, assignUInt8_ofUInt8, Except.ok.injEq] at hresulting
    simp only [List.filterMap_cons, hredeemed, hresulting, List.filterMap_nil]
  · have hsu := ht.silent ((settleRedemption_silent outcome).error hu)
    exact ⟨fun _ => herror hsu _ _ e, fun _ => hsu.answers hs⟩

/-- Every message: what is approved was redeemed for it. -/
theorem handle_answers {s : StationHost (AuthorityClient.Process B)}
    (hs : s.published.approvals = []) :
    Ensures (handle (request cr fate now) message) s
      (fun _ t => Answers s t) fun _ t => Answers s t := by
  have hquiet {x : StationM (AuthorityClient.Process B) Unit} (hx : Steps Withholds x) :
      Ensures x s (fun _ t => Answers s t) fun _ t => Answers s t :=
    (hx.ensures s).mono (fun _ _ ht => ht.answers hs) fun _ _ ht => ht.answers hs
  have hassigns (f : StationNode → StationNode) (_ : ∀ node, (f node).readiness = node.readiness) :
      Steps (Withholds (B := B)) (assign f) := assign_withholds f
  have hclear : Steps (Withholds (B := B)) (do assign StationNode.clearRuntimeState; status) :=
    .bind (assign_withholds _) fun _ => status_steps
  cases message with
  | prepare | reset => exact hquiet hclear
  | run data => exact hquiet (.bind (assign_withholds _) fun _ => hclear)
  | scenario data => exact hquiet (onScenario_steps data fun _ _ => assign_withholds _)
  | readiness evidence =>
    exact hquiet (onReadiness_steps evidence (fun _ => assign_withholds _)
      fun _ => assign_withholds _)
  | chaserProtocol data =>
    simp only [handle, onChaserProtocol, ensures_bind, eval, ensures_ofExcept, ensures_attempt]
    have hsame : Answers s s := Withholds.answers (Std.Refl.refl _) hs
    refine ⟨fun payload _ => ⟨fun _ _ => ⟨fun kind _ => ?_, fun _ _ => hsame⟩, fun _ _ => hsame⟩,
      fun e _ => ⟨fun _ => hsame, fun _ => hsame⟩⟩
    split
    · exact hquiet (handleAccessRequest_steps hassigns publishStationProtocol_withholds payload
        fun _ => request_withholds)
    · refine hquiet (handleTransitionRequest_steps hassigns publishStationProtocol_withholds payload
        (fun requestedState => ?_) fun _ _ _ _ _ h => publishDecision_withholds _ _ _ _ h)
      exact .bind .get fun _ => .bind (.failIf _ _) fun _ => .bind (.okOr _ _) fun _ =>
        request_withholds
    · exact handleEntitlementPresentation_answers hs
    · exact hsame

end

/-! ## Runs -/

/-- The evidence of a station, and what it asked its authority with, satisfies `P`. -/
structure Station.Fed (P : Readiness → Prop) (s : Station (AuthorityClient.Process B)) : Prop where
  node : ∀ node, s.node = some node → ∀ readiness, node.readiness = some readiness → P readiness
  asks : AsksWith P s.authority.handled

theorem Station.Fed.mono {s : Station (AuthorityClient.Process B)} (H : s.Fed P)
    (h : ∀ readiness, P readiness → P' readiness) : s.Fed P' where
  node node hnode readiness hreadiness := h readiness (H.node node hnode readiness hreadiness)
  asks := H.asks.mono h

variable [ReplayStateBackend B] {cr : Crates}

/-- Before its first message a station has no evidence. -/
theorem start_fed (host : Option (Host B)) (link : Link) :
    (Station.start (client cr link) { host }).Fed P := by
  have hdescribe : Steps (Preserves fun p : AuthorityClient.Process B => AsksWith P p.handled)
      (client cr link (.obj [("command", .str "describe")])) := by
    intro p H
    exact H.request (askedWith_of_tag (show "describe" ≠ "transition" by decide) rfl)
  have hinit : Steps (Preserves fun p : AuthorityClient.Process B => AsksWith P p.handled)
      (StationNode.init (client cr link)) :=
    .bind (.attempt hdescribe) fun _ => .bind (.ofExcept _ _) fun _ => .pure _
  have hempty : AsksWith P ({ host } : AuthorityClient.Process B).handled := by
    intro entry mem
    cases mem
  unfold Station.start
  cases hresult : StationNode.init (client cr link) ({ host } : AuthorityClient.Process B) with
  | error e p =>
    refine ⟨?_, hinit.error hresult hempty⟩
    intro node hnode
    cases hnode
  | ok node p =>
    refine ⟨?_, hinit.ok hresult hempty⟩
    intro node' hnode readiness hreadiness
    cases hnode
    simp only [StationNode.init, bind_eq_ok, ofExcept_eq_ok, pure_eq_ok] at hresult
    obtain ⟨described, _, -, _, _, -, hnode, -⟩ := hresult
    rw [← hnode] at hreadiness
    cases described <;> cases hreadiness

variable {s : Station (AuthorityClient.Process B)}

/-- One message. -/
theorem Station.Fed.step (H : s.Fed P) (call : StationCall Link)
    (h : ∀ evidence, call.message = .readiness evidence → P evidence.readiness) :
    (StationAccess.step (client cr) s call).2.Fed P := by
  cases hnode : s.node with
  | none =>
    simp only [StationAccess.step, hnode]
    exact H
  | some node =>
    have hfed : StationAccess.Fed P
        ({ node, authority := s.authority } : StationHost (AuthorityClient.Process B)) :=
      ⟨H.node node hnode, H.asks⟩
    have hsteps : Steps (Preserves (StationAccess.Fed (B := B) P))
        (handle (client cr call.link) call.message) := handle_fed h
    simp only [StationAccess.step, hnode]
    cases hresult : handle (client cr call.link) call.message { node, authority := s.authority } with
    | ok u t =>
      have hfed' := hsteps.ok hresult hfed
      refine ⟨?_, hfed'.asks⟩
      intro node' hnode'
      cases hnode'
      exact hfed'.node
    | error e t =>
      refine ⟨?_, (hsteps.error hresult hfed).asks⟩
      intro node' hnode'
      cases hnode'

/-- What one message leads to is approved on what it redeems. -/
theorem step_answers (s : Station (AuthorityClient.Process B)) (call : StationCall Link) :
    ∃ new, (step (client cr) s call).2.authority.handled = new ++ s.authority.handled ∧
      (step (client cr) s call).1.approvals.Sublist (new.filterMap redeemedState?) := by
  cases hnode : s.node with
  | none =>
    simp only [step, hnode]
    exact ⟨[], rfl, List.Sublist.refl _⟩
  | some node =>
    have hanswers : Ensures (handle (request cr call.link.fate call.link.now) call.message)
        { node, authority := s.authority }
        (fun _ t => Answers { node, authority := s.authority } t)
        fun _ t => Answers { node, authority := s.authority } t := handle_answers rfl
    simp only [step, hnode]
    cases hresult : handle (client cr call.link) call.message { node, authority := s.authority } with
    | ok u t => exact (hanswers.of_ok hresult).exists_new
    | error e t => exact (hanswers.of_error hresult).exists_new

end Access.StationAccess
