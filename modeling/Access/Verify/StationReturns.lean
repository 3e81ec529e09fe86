import Access.Verify.StationStatus

/-! # When a handler of the station returns

`_on_chaser_protocol` ignores a message that is no JSON, and denies what its `try` blocks catch. Any
other exception takes the node down. `MessageHandled` says of which messages, and of which answers
of the authority to them, there is none. -/

namespace Access.StationAccess

open EStateM Python

variable {A : Type} {s : StationHost A} {Q : Unit → StationHost A → Prop}

/-! ## Parts of a handler -/

section

variable {α β : Type} {x : Except Error α} {f : α → StationM A β} {Q : β → StationHost A → Prop}
  {E : Error → StationHost A → Prop}

theorem ensures_eval_ok {a : α} (h : x = .ok a) :
    Ensures (eval x >>= f) s Q E ↔ Ensures (f a) s Q E := by
  rw [h]
  exact Iff.rfl

theorem ensures_eval_error {e : Error} (h : x = .error e) :
    Ensures (eval x >>= f) s Q E ↔ E e s := by
  rw [h]
  exact Iff.rfl

theorem ensures_assign {g : StationNode → StationNode} {f : PUnit → StationM A β} :
    Ensures (assign g >>= f) s Q E ↔ Ensures (f ⟨⟩) { s with node := g s.node } Q E := Iff.rfl

theorem ensures_get_bind {f : StationHost A → StationM A β} :
    Ensures (get >>= f) s Q E ↔ Ensures (f s) s Q E := Iff.rfl

theorem ensures_okOr_some {o : Option α} {e : Error} {a : α} (h : o = some a) :
    Ensures (EStateM.okOr o e >>= f) s Q E ↔ Ensures (f a) s Q E := by
  rw [h]
  exact Iff.rfl

theorem ensures_okOr_none {o : Option α} {e : Error} (h : o = none) :
    Ensures (EStateM.okOr o e >>= f) s Q E ↔ E e s := by
  rw [h]
  exact Iff.rfl

variable {client : Json → EStateM Error A Json} {command reply : Json} {authority : A}
  {Q : Json → StationHost A → Prop}

theorem ensures_client_ok (answer : client command s.authority = .ok reply authority) :
    Ensures (authorityPart.run id (client command)) s Q E ↔ Q reply { s with authority } :=
  ensures_run.trans (ensures_of_ok answer)

theorem ensures_client_error {e : Error}
    (answer : client command s.authority = .error e authority) :
    Ensures (authorityPart.run id (client command)) s Q E ↔ E e { s with authority } :=
  ensures_run.trans (ensures_of_error answer)

end

/-! ## Nodes -/

/-- A node whose status can be published, as it could when it started, and whose state can be
assigned to a field of a message. -/
structure StationNode.Fit (node : StationNode) : Prop where
  scenario : node.scenarioId ∈ scenarios
  profile : publishStatus { protocolProfile := node.protocolProfile } = .ok ()
  state : (assignUInt8 node.state).Succeeds

theorem StationNode.Fit.publishStatus_ok {node : StationNode} (h : node.Fit) :
    publishStatus node = .ok () := by
  have started := h.profile
  have absent : truthy Json.null = false := rfl
  cases known : truthy node.protocolProfile with
  | false =>
    simp only [publishStatus, known, Except.bind_eq_ok, Except.failIf_eq_ok, Bool.false_eq_true,
      if_false] at started ⊢
    obtain ⟨trustBundle, found, -, -, shown⟩ := started
    exact ⟨trustBundle, found, (), not_not.mpr h.scenario, shown⟩
  | true =>
    simp only [publishStatus, known, absent, Except.bind_eq_ok, Except.failIf_eq_ok,
      Bool.false_eq_true, if_false, if_true] at started ⊢
    obtain ⟨trustBundle, found, -, -, profileId, hasId, version, hasVersion, shown⟩ := started
    refine ⟨trustBundle, found, (), not_not.mpr h.scenario, ?_⟩
    cases truthy node.protocolProfileId <;> cases truthy node.protocolProfileVersion <;>
      simp only [Bool.false_eq_true, if_false, if_true, Except.bind_eq_ok]
    · exact ⟨profileId, hasId, version, hasVersion, shown⟩
    · exact ⟨profileId, hasId, shown⟩
    · exact ⟨version, hasVersion, shown⟩
    · exact shown

theorem status_iff {E : Error → StationHost A → Prop} (h : s.node.Fit) :
    Ensures status s Q E ↔ Q () s := by
  show Ensures (eval (publishStatus s.node)) s Q E ↔ _
  rw [h.publishStatus_ok]
  rfl

/-- The messages of the station are dictionaries. -/
theorem publishStationProtocol_iff {E : Error → StationHost A → Prop} {kind : String}
    {fields : List (String × Json)} :
    Ensures (publishStationProtocol (stationMessage kind fields)) s Q E ↔
      Q () { s with published := { s.published with
        messages := s.published.messages ++ [stationMessage kind fields] } } := Iff.rfl

/-- The end of a handler. -/
theorem sends_returns {kind : String} {fields : List (String × Json)} (h : s.node.Fit)
    (fits : ∀ u t, t.node.Fit → Q u t) :
    Ensures (publishStationProtocol (stationMessage kind fields)) s
      (fun _ t => Ensures status t Q fun _ _ => False) fun _ _ => False := by
  rw [publishStationProtocol_iff]
  refine (status_iff ?_).mpr (fits _ _ ?_)
  · exact h
  · exact h

/-! ## Sessions -/

/-- What the `try` block for a session catches. -/
def sessionCaught : List ErrorKind := [.os, .runtime, .value]

/-- `scenario_id` -/
def StationNode.withScenario (node : StationNode) (payload : Json) : StationNode :=
  match payload.field? "scenario_id" with
  | some (.str name) => if name ∈ scenarios then { node with scenarioId := name } else node
  | _ => node

theorem StationNode.Fit.withScenario {node : StationNode} (h : node.Fit) (payload : Json) :
    (node.withScenario payload).Fit := by
  unfold StationNode.withScenario
  split
  · split
    · rename_i known
      exact ⟨known, h.profile, h.state⟩
    · exact h
  · exact h

theorem setScenario_iff {payload : Json} (dict : IsDict payload) :
    Ensures (setScenario payload) s Q (fun _ _ => False) ↔
      hash (fieldOr payload "scenario_id") = .ok () ∧
        Q () { s with node := s.node.withScenario payload } := by
  simp only [setScenario, ensures_bind, eval, get_of_isDict dict, ensures_ofExcept_never,
    Except.ok.injEq, exists_eq_left', Unique.exists_iff, PUnit.default_eq_unit]
  apply and_congr_right
  intro _
  unfold StationNode.withScenario fieldOr
  cases payload.field? "scenario_id" with
  | none => exact Iff.rfl
  | some scenario =>
    cases scenario with
    | str name =>
      simp only [Option.getD_some]
      split <;> exact Iff.rfl
    | _ => exact Iff.rfl

theorem displayEvents_eq_ok {reply : Json} (h : displayEvents reply = .ok ()) :
    ∃ events items, reply.field? "events" = some events ∧ iter events = .ok items ∧
      ∀ event ∈ items, displayEvent event reply = .ok () := by
  simp only [displayEvents, Except.bind_eq_ok, Except.forM_eq_ok, item_eq_ok] at h
  obtain ⟨events, found, items, listed, shown⟩ := h
  exact ⟨events, items, found, listed, shown⟩

/-- An event that is displayed has a code. -/
theorem code_of_displayEvent {event reply : Json} (h : displayEvent event reply = .ok ()) :
    (item event "code").Succeeds := by
  simp only [displayEvent, Except.bind_eq_ok] at h
  obtain ⟨-, -, -, -, code, found, -⟩ := h
  exact ⟨code, found⟩

/-- A session that the authority returns is displayed, or not in a way that is caught, and has the
fields that the node keeps. -/
structure SessionHandled (session : Json) : Prop where
  displayed : RaisesOnly sessionCaught (displayEvents session)
  kept : displayEvents session = .ok () →
    ∀ name ∈ ["session_id", "protocol_profile_id", "protocol_profile_version"],
      (session.field? name).isSome

/-- What is read of a session before its events are displayed. -/
def readSession (session : Json) : Except Error Unit := do
  let _ ← Python.get session "session_id"
  len (← Python.get session "events" (.arr []))

/-- A session whose events are displayed could be read, and one that could not be read is not
displayed either. -/
theorem readSession_cases (session : Json) :
    readSession session = .ok () ∨
      ∃ e e', readSession session = .error e ∧ displayEvents session = .error e' ∧
        e.isInstance sessionCaught = false ∧ e'.isInstance sessionCaught = false := by
  by_cases dict : IsDict session
  · simp only [readSession, get_of_isDict dict, displayEvents, item_of_isDict dict, fieldOr]
    cases session.field? "events" with
    | none => exact .inl rfl
    | some events =>
      cases sized : len events with
      | ok _ => exact .inl sized
      | error e =>
        obtain ⟨rfl, listed⟩ := iter_of_not_len sized
        refine .inr ⟨{ kind := .type }, { kind := .type }, sized, ?_, rfl, rfl⟩
        simp only [Except.okOr, bind, Except.bind, listed]
  · refine .inr ⟨{ kind := .attribute }, { kind := .type }, ?_, ?_, rfl, rfl⟩
    · simp only [readSession, get_of_not_isDict dict]
      rfl
    · simp only [displayEvents, item_of_not_isDict dict]
      rfl

/-- What is kept of a session once its events are displayed. -/
def keepSession (session : Json) (completedSteps : List Json) : StationM A Unit := do
  assign fun node => { node with completedSteps }
  let sessionId ← eval (item session "session_id")
  assign fun node => { node with sessionId }
  let protocolProfileId ← eval (item session "protocol_profile_id")
  assign fun node => { node with protocolProfileId }
  let protocolProfileVersion ← eval (item session "protocol_profile_version")
  assign fun node =>
    { node with protocolProfileVersion, sessionReady := true, sessionDenialReason := none }
  publishStationProtocol (sessionAuthorized (← get).node)

/-- A field that is missing raises an exception that is not caught. -/
theorem keepSession_iff {session : Json} {completedSteps : List Json}
    {E : Error → StationHost A → Prop} (dict : IsDict session) (h : s.node.Fit)
    (fits : ∀ u t, t.node.Fit → Q u t)
    (raises : ∀ t : StationHost A, t.node.Fit → ¬E { kind := .key } t) :
    Ensures (keepSession session completedSteps) s Q E ↔
      ∀ name ∈ ["session_id", "protocol_profile_id", "protocol_profile_version"],
        (session.field? name).isSome := by
  have missing {name : String} (absent : session.field? name = none)
      (mem : name ∈ ["session_id", "protocol_profile_id", "protocol_profile_version"]) :
      ¬∀ name ∈ ["session_id", "protocol_profile_id", "protocol_profile_version"],
        (session.field? name).isSome := by
    intro kept
    have known := kept name mem
    rw [absent] at known
    cases known
  rw [keepSession, ensures_assign]
  cases sessionId : session.field? "session_id" with
  | none =>
    rw [ensures_eval_error (item_missing dict sessionId)]
    exact iff_of_false (raises _ ⟨h.scenario, h.profile, h.state⟩) (missing sessionId (by simp))
  | some _ =>
    rw [ensures_eval_ok (item_eq_ok.mpr sessionId), ensures_assign]
    cases profileId : session.field? "protocol_profile_id" with
    | none =>
      rw [ensures_eval_error (item_missing dict profileId)]
      exact iff_of_false (raises _ ⟨h.scenario, h.profile, h.state⟩) (missing profileId (by simp))
    | some _ =>
      rw [ensures_eval_ok (item_eq_ok.mpr profileId), ensures_assign]
      cases version : session.field? "protocol_profile_version" with
      | none =>
        rw [ensures_eval_error (item_missing dict version)]
        exact iff_of_false (raises _ ⟨h.scenario, h.profile, h.state⟩) (missing version (by simp))
      | some _ =>
        rw [ensures_eval_ok (item_eq_ok.mpr version), ensures_assign]
        refine iff_of_true (fits _ _ ⟨h.scenario, h.profile, h.state⟩) ?_
        simp [sessionId, profileId, version]

theorem recordSession_iff {session : Json} {E : Error → StationHost A → Prop} (h : s.node.Fit)
    (fits : ∀ u t, t.node.Fit → Q u t)
    (caught : ∀ e t, t.node.Fit → (E e t ↔ e.isInstance sessionCaught = true)) :
    Ensures (recordSession session) s Q E ↔ SessionHandled session := by
  rcases readSession_cases session with read | ⟨e, e', unread, hidden, other, other'⟩
  · obtain ⟨_, identified, sized⟩ := Except.bind_eq_ok.mp read
    rw [recordSession, ensures_eval_ok identified, ensures_eval_ok sized]
    cases shown : displayEvents session with
    | error e =>
      rw [ensures_eval_error rfl, caught e s h]
      constructor
      · intro known
        refine ⟨?_, ?_⟩
        · intro e' failed
          cases shown.symm.trans failed
          exact known
        · intro displayed
          cases shown.symm.trans displayed
      · intro handled
        exact handled.displayed e shown
    | ok _ =>
      obtain ⟨events, items, found, listed, displayed⟩ := displayEvents_eq_ok shown
      obtain ⟨codes, coded⟩ :=
        Except.mapM_succeeds fun event mem => code_of_displayEvent (displayed event mem)
      have steps : (do (← iter (← item session "events")).mapM (item · "code")) = .ok codes := by
        rw [item_eq_ok.mpr found]
        show (iter events >>= _) = _
        rw [listed]
        exact coded
      have raises (t : StationHost A) (fit : t.node.Fit) : ¬E { kind := .key } t := by
        rw [caught _ t fit]
        exact Bool.false_ne_true
      rw [ensures_eval_ok rfl, ensures_eval_ok steps]
      refine (keepSession_iff (isDict_of_field? found) h fits raises).trans ?_
      constructor
      · intro kept
        refine ⟨?_, fun _ => kept⟩
        intro e failed
        cases shown.symm.trans failed
      · intro handled
        exact handled.kept shown
  · constructor
    · intro ensures
      rw [recordSession] at ensures
      rcases Except.bind_eq_error.mp unread with failed | ⟨_, identified, failed⟩
      · rw [ensures_eval_error failed, caught e s h, other] at ensures
        cases ensures
      · rw [ensures_eval_ok identified, ensures_eval_error failed, caught e s h, other] at ensures
        cases ensures
    · intro handled
      cases other'.symm.trans (handled.displayed e' hidden)

def establishCommand (node : StationNode) : Json :=
  .obj [("command", .str "establish"), ("scenario", .str node.scenarioId)]

/-- An access request, with the node that knows its scenario. -/
def SessionAnswered (client : Json → EStateM Error A Json) (node : StationNode) (authority : A) :
    Prop :=
  match client (establishCommand node) authority with
  | .ok session _ => SessionHandled session
  | .error e _ => e.isInstance sessionCaught = true

theorem denySession_returns (error : Error) (h : s.node.Fit) (fits : ∀ u t, t.node.Fit → Q u t) :
    Ensures (denySession error) s (fun _ t => Ensures status t Q fun _ _ => False)
      fun _ _ => False := by
  rw [denySession, ensures_assign, sessionDenied]
  refine sends_returns ?_ fits
  exact ⟨h.scenario, h.profile, h.state⟩

theorem handleAccessRequest_iff {client : Json → EStateM Error A Json} {payload : Json}
    (dict : IsDict payload) (h : s.node.Fit) (fits : ∀ u t, t.node.Fit → Q u t) :
    Ensures (handleAccessRequest client payload) s Q (fun _ _ => False) ↔
      hash (fieldOr payload "scenario_id") = .ok () ∧
        SessionAnswered client (s.node.withScenario payload) s.authority := by
  simp only [handleAccessRequest, ensures_bind, setScenario_iff dict, ensures_attempt_never,
    establish, ensures_get]
  apply and_congr_right
  intro _
  have known := h.withScenario payload
  have caught (e : Error) (t : StationHost A) (fit : t.node.Fit) :
      e.isInstance sessionCaught = true ∧
        Ensures (denySession e) t (fun _ t => Ensures status t Q fun _ _ => False)
          (fun _ _ => False) ↔
      e.isInstance sessionCaught = true :=
    and_iff_left (denySession_returns e fit fits)
  simp only [SessionAnswered, establishCommand]
  cases answer : client (.obj [("command", .str "establish"),
      ("scenario", .str (s.node.withScenario payload).scenarioId)]) s.authority with
  | ok session authority =>
    rw [ensures_client_ok (s := { s with node := s.node.withScenario payload }) answer]
    apply recordSession_iff known
    · intro _ t fit
      exact (status_iff fit).mpr (fits _ _ fit)
    · exact caught
  | error e authority =>
    rw [ensures_client_error (s := { s with node := s.node.withScenario payload }) answer]
    exact caught e _ known

/-! ## Decisions -/

def authorizationDecision (outcome : Json) : Json :=
  or (fieldOr outcome "authorization_decision") (.obj [])

def authorizationPolicy (outcome : Json) : Json :=
  or (fieldOr (authorizationDecision outcome) "policy") (.obj [])

/-- What a decision takes from an outcome can be assigned to its fields. -/
structure DecisionFits (outcome grantId : Json) : Prop where
  grantId : (assignText grantId).Succeeds
  grantExpiresAtS : (assignInt64 (or (fieldOr outcome "grant_expires_at_s") (.int 0))).Succeeds
  signedGrantHex : (assignText (or (fieldOr outcome "signed_grant_hex") (.str ""))).Succeeds
  authorizationDecision : IsDict (authorizationDecision outcome)
  policy : IsDict (authorizationPolicy outcome)
  bundleId : (assignText (fieldOr (authorizationPolicy outcome) "bundle_id" (.str ""))).Succeeds
  bundleVersion :
    (assignUInt64 (fieldOr (authorizationPolicy outcome) "bundle_version" (.int 0))).Succeeds
  policySha256 :
    (assignText (fieldOr (authorizationPolicy outcome) "policy_sha256" (.str ""))).Succeeds

theorem transitionDecision_succeeds_iff {outcome approved previous resulting reason grantId : Json}
    (dict : IsDict outcome) :
    (transitionDecision outcome approved previous resulting reason grantId).Succeeds ↔
      (assignBool approved).Succeeds ∧ (assignUInt8 previous).Succeeds ∧
        (assignUInt8 resulting).Succeeds ∧ (assignText reason).Succeeds ∧
        DecisionFits outcome grantId := by
  constructor
  · rintro ⟨decision, made⟩
    simp only [transitionDecision, get_of_isDict dict, Except.bind_eq_ok, Except.ok.injEq,
      exists_eq_left'] at made
    obtain ⟨_, approved, _, previous, _, resulting, _, reason, _, grantId, _, expires, _, hex,
      _, policy, _, bundleId, _, bundle, _, version, _, number, _, sha256, _, sha, -⟩ := made
    have decided := isDict_of_get policy
    cases (get_of_isDict decided _ _).symm.trans policy
    have dict' := isDict_of_get bundleId
    cases (get_of_isDict dict' _ _).symm.trans bundleId
    cases (get_of_isDict dict' _ _).symm.trans version
    cases (get_of_isDict dict' _ _).symm.trans sha256
    exact ⟨⟨_, approved⟩, ⟨_, previous⟩, ⟨_, resulting⟩, ⟨_, reason⟩, ⟨_, grantId⟩, ⟨_, expires⟩,
      ⟨_, hex⟩, decided, dict', ⟨_, bundle⟩, ⟨_, number⟩, ⟨_, sha⟩⟩
  · rintro ⟨⟨_, approved⟩, ⟨_, previous⟩, ⟨_, resulting⟩, ⟨_, reason⟩, fits⟩
    obtain ⟨_, grantId⟩ := fits.grantId
    obtain ⟨_, expires⟩ := fits.grantExpiresAtS
    obtain ⟨_, hex⟩ := fits.signedGrantHex
    obtain ⟨_, bundle⟩ := fits.bundleId
    obtain ⟨_, number⟩ := fits.bundleVersion
    obtain ⟨_, sha⟩ := fits.policySha256
    simp only [Except.Succeeds, transitionDecision, get_of_isDict dict, Except.bind_eq_ok,
      Except.ok.injEq, exists_eq_left']
    exact ⟨_, _, approved, _, previous, _, resulting, _, reason, _, grantId, _, expires, _, hex,
      _, get_of_isDict fits.authorizationDecision _ _, _, get_of_isDict fits.policy _ _, _, bundle,
      _, get_of_isDict fits.policy _ _, _, number, _, get_of_isDict fits.policy _ _, _, sha, rfl⟩

/-- A number that is assigned can be converted. -/
theorem toInt_of_assignUInt8 {x : Json} (h : (assignUInt8 x).Succeeds) : (toInt x).Succeeds := by
  obtain ⟨n, assigned⟩ := h
  cases x with
  | bool | int => exact ⟨_, rfl⟩
  | _ => cases assigned

theorem publishDecision_iff {outcome approved previous reason grantId : Json}
    {Q : TransitionDecision → StationHost A → Prop} (dict : IsDict outcome)
    (before : (assignUInt8 previous).Succeeds)
    (published : ∀ decision t, (assignUInt8 s.node.state).Succeeds → t.node = s.node →
      Q decision t) :
    Ensures (publishDecision outcome approved previous reason grantId) s Q (fun _ _ => False) ↔
      (assignBool approved).Succeeds ∧ (assignUInt8 s.node.state).Succeeds ∧
        (assignText reason).Succeeds ∧ DecisionFits outcome grantId := by
  have fits : (transitionDecision outcome approved previous s.node.state reason grantId).Succeeds ↔
      _ := transitionDecision_succeeds_iff dict
  simp only [publishDecision, ensures_bind, ensures_get, eval, ensures_ofExcept_never, publish,
    ensures_modify, ensures_pure]
  constructor
  · rintro ⟨decision, made, -⟩
    obtain ⟨approved, -, resulting, reason, fits⟩ := fits.mp ⟨decision, made⟩
    exact ⟨approved, resulting, reason, fits⟩
  · rintro ⟨approved, resulting, reason, grant⟩
    obtain ⟨decision, made⟩ := fits.mpr ⟨approved, before, resulting, reason, grant⟩
    exact ⟨decision, made, published _ _ resulting rfl⟩

/-! ## Transitions -/

/-- The grant that a decision on a transition names. -/
def grantIdOf (outcome : Json) : Json := or (fieldOr outcome "grant_id") (.str "")

/-- The outcome of a transition is denied with this reason, or with the reason for a failure. -/
theorem answerTransition_iff {outcome previous approved reason : Json} (h : s.node.Fit)
    (fits : ∀ u t, t.node.Fit → Q u t) (dict : IsDict outcome)
    (before : (assignUInt8 previous).Succeeds) :
    Ensures (answerTransition outcome previous approved reason) s Q (fun _ _ => False) ↔
      (assignBool approved).Succeeds ∧ (assignText reason).Succeeds ∧
        DecisionFits outcome (grantIdOf outcome) := by
  unfold grantIdOf
  rw [answerTransition, ensures_eval_ok (get_of_isDict dict _ _), ensures_bind,
    publishDecision_iff dict before]
  · constructor
    · rintro ⟨approved, -, reason, fits⟩
      exact ⟨approved, reason, fits⟩
    · rintro ⟨approved, reason, fits⟩
      exact ⟨approved, h.state, reason, fits⟩
  · intro decision t _ same
    obtain ⟨n, converted⟩ := toInt_of_assignUInt8 h.state
    have converted : toInt t.node.state = .ok n := same ▸ converted
    have fit : t.node.Fit := same ▸ h
    rw [ensures_bind, ensures_get, ensures_eval_ok converted,
      ensures_eval_ok (get_of_isDict dict _ _), ensures_eval_ok (get_of_isDict dict _ _),
      ensures_eval_ok (get_of_isDict dict _ _), ensures_bind]
    exact sends_returns fit fits

/-- A decision without an outcome. -/
theorem decisionFits_empty {grantId : Json} (h : (assignText grantId).Succeeds) :
    DecisionFits (.obj []) grantId where
  grantId := h
  grantExpiresAtS := ⟨_, rfl⟩
  signedGrantHex := ⟨_, rfl⟩
  authorizationDecision := trivial
  policy := trivial
  bundleId := ⟨_, rfl⟩
  bundleVersion := ⟨_, rfl⟩
  policySha256 := ⟨_, rfl⟩

/-- A failure is denied, if a decision on its outcome can be made. -/
theorem finishTransition_error_iff {outcome previous : Json} {e : Error} (h : s.node.Fit)
    (fits : ∀ u t, t.node.Fit → Q u t) (dict : IsDict outcome)
    (before : (assignUInt8 previous).Succeeds) :
    Ensures (finishTransition outcome previous (.error e)) s Q (fun _ _ => False) ↔
      DecisionFits outcome (grantIdOf outcome) := by
  have denied (t : StationHost A) (reason : String) (fit : t.node.Fit) :
      Ensures (answerTransition outcome previous (.bool false) (.str reason)) t Q
        (fun _ _ => False) ↔ DecisionFits outcome (grantIdOf outcome) := by
    rw [answerTransition_iff fit fits dict before]
    constructor
    · intro answered
      exact answered.2.2
    · intro decision
      exact ⟨⟨_, rfl⟩, ⟨_, rfl⟩, decision⟩
  simp only [finishTransition, failClosed, ensures_bind, ensures_get]
  cases s.node.sessionDenialReason with
  | some reason => exact denied s reason h
  | none =>
    simp only [ensures_bind, assign, ensures_modify, ensures_pure]
    apply denied
    exact ⟨h.scenario, h.profile, h.state⟩

/-- What is read and shown of the outcome of a transition. -/
def showTransition (node : StationNode) (outcome : Json) : Except Error (Json × Json) := do
  let approved ← item outcome "approved"
  let reason ← item outcome "reason"
  displayEvents outcome
  recordAuthorizationAssessment node outcome
  pure (approved, reason)

/-- The publication of a grant. -/
def grantTransition (requestedState : Int) (outcome reason : Json) :
    StationM A (Option (Json × Json)) := do
  EStateM.failIf (requestedState ∉ [1, 2, 3, 4]) { kind := .key }
  let _ ← eval (item outcome "grant_id")
  let _ ← eval (item outcome "entitlement_ttl_s")
  let _ ← eval (item outcome "rule_id")
  let grant ← eval (authorizationGrant (← get).node outcome reason requestedState)
  publishStationProtocol grant
  status
  pure none

theorem settleTransition_eq (requestedState : Int) (outcome : Json) :
    settleTransition requestedState outcome s =
      (eval (showTransition s.node outcome) >>= fun (approved, reason) =>
        if truthy approved then grantTransition requestedState outcome reason
        else pure (some (approved, reason))) s := by
  simp only [settleTransition, showTransition]
  cases item outcome "approved" with
  | error e => rfl
  | ok approved =>
    cases item outcome "reason" with
    | error e => rfl
    | ok reason =>
      cases displayEvents outcome with
      | error e => rfl
      | ok _ =>
        show (eval (recordAuthorizationAssessment s.node outcome) >>= _) s = _
        cases recordAuthorizationAssessment s.node outcome with
        | error e => rfl
        | ok _ => rfl

/-- The fields of a grant that is published. -/
structure Granted (requestedState : Int) (outcome : Json) : Prop where
  stage : requestedState ∈ [1, 2, 3, 4]
  fields : ∀ name ∈ ["grant_id", "entitlement_ttl_s", "rule_id", "grant_expires_at_s",
    "signed_grant_hex"], (outcome.field? name).isSome

theorem grantTransition_granted {requestedState : Int} {outcome : Json} (reason : Json)
    (h : s.node.Fit) (granted : Granted requestedState outcome) :
    ∃ t, t.node = s.node ∧ grantTransition requestedState outcome reason s = .ok none t := by
  obtain ⟨grantId, hasGrant⟩ := item_of_isSome (granted.fields "grant_id" (by simp))
  obtain ⟨ttl, hasTtl⟩ := item_of_isSome (granted.fields "entitlement_ttl_s" (by simp))
  obtain ⟨ruleId, hasRule⟩ := item_of_isSome (granted.fields "rule_id" (by simp))
  obtain ⟨expires, hasExpires⟩ := item_of_isSome (granted.fields "grant_expires_at_s" (by simp))
  obtain ⟨hex, hasHex⟩ := item_of_isSome (granted.fields "signed_grant_hex" (by simp))
  obtain ⟨fields, grant⟩ : ∃ fields, authorizationGrant s.node outcome reason requestedState =
      .ok (stationMessage "authorization_grant" fields) := by
    simp only [authorizationGrant, hasGrant, hasExpires, hasHex]
    exact ⟨_, rfl⟩
  refine ⟨{ s with published := { s.published with
    messages := s.published.messages ++ [stationMessage "authorization_grant" fields] } }, rfl, ?_⟩
  simp only [grantTransition, EStateM.failIf, if_neg (not_not.mpr granted.stage), hasGrant, hasTtl,
    hasRule]
  show (eval (authorizationGrant s.node outcome reason requestedState) >>= _) s = _
  rw [grant]
  show (eval (publishStatus s.node) >>= _) _ = _
  rw [h.publishStatus_ok]
  rfl

theorem grantTransition_not_granted {requestedState : Int} {outcome : Json} (reason : Json)
    (dict : IsDict outcome) (other : ¬Granted requestedState outcome) :
    grantTransition requestedState outcome reason s = .error { kind := .key } s := by
  by_cases stage : requestedState ∈ [1, 2, 3, 4]
  · simp only [grantTransition, EStateM.failIf, if_neg (not_not.mpr stage)]
    cases grantId : outcome.field? "grant_id" with
    | none =>
      rw [item_missing dict grantId]
      rfl
    | some =>
      rw [item_eq_ok.mpr grantId]
      cases ttl : outcome.field? "entitlement_ttl_s" with
      | none =>
        rw [item_missing dict ttl]
        rfl
      | some =>
        rw [item_eq_ok.mpr ttl]
        cases ruleId : outcome.field? "rule_id" with
        | none =>
          rw [item_missing dict ruleId]
          rfl
        | some =>
          rw [item_eq_ok.mpr ruleId]
          have grant : authorizationGrant s.node outcome reason requestedState =
              .error { kind := .key } := by
            simp only [authorizationGrant, item_eq_ok.mpr grantId]
            cases expires : outcome.field? "grant_expires_at_s" with
            | none =>
              rw [item_missing dict expires]
              rfl
            | some =>
              rw [item_eq_ok.mpr expires]
              cases hex : outcome.field? "signed_grant_hex" with
              | none =>
                rw [item_missing dict hex]
                rfl
              | some =>
                refine absurd ⟨stage, ?_⟩ other
                simp [grantId, ttl, ruleId, expires, hex]
          show (eval (authorizationGrant s.node outcome reason requestedState) >>= _) s = _
          rw [grant]
          rfl
  · simp only [grantTransition, EStateM.failIf, if_pos stage]
    rfl

/-- What a handler makes of the outcome of a transition: it publishes a grant, or a decision. -/
def TransitionSettled (node : StationNode) (requestedState : Int) (outcome : Json) : Prop :=
  match showTransition node outcome with
  | .error e => e.isInstance caught = true ∧ DecisionFits outcome (grantIdOf outcome)
  | .ok (approved, reason) =>
    if truthy approved then
      Granted requestedState outcome ∨ DecisionFits outcome (grantIdOf outcome)
    else (assignBool approved).Succeeds ∧ (assignText reason).Succeeds ∧
      DecisionFits outcome (grantIdOf outcome)

theorem showTransition_not_dict {node : StationNode} {outcome : Json} (h : ¬IsDict outcome) :
    showTransition node outcome = .error { kind := .type } := by
  simp only [showTransition, item_of_not_isDict h]
  rfl

theorem settleTransition_iff (requestedState : Int) (outcome : Json) {previous : Json}
    (h : s.node.Fit) (fits : ∀ u t, t.node.Fit → Q u t) (before : (assignUInt8 previous).Succeeds) :
    Ensures (attempt caught (settleTransition requestedState outcome)) s
        (fun settled t => Ensures (finishTransition outcome previous settled) t Q fun _ _ => False)
        (fun _ _ => False) ↔
      TransitionSettled s.node requestedState outcome := by
  have settled := settleTransition_eq (s := s) requestedState outcome
  have refused (e : Error) (dict : IsDict outcome) :=
    finishTransition_error_iff (e := e) h fits dict before
  unfold TransitionSettled
  cases shown : showTransition s.node outcome with
  | error e =>
    rw [shown] at settled
    rw [ensures_attempt_never, ensures_of_error settled]
    apply and_congr_right
    intro known
    have dict : IsDict outcome := by
      by_contra other
      cases shown.symm.trans (showTransition_not_dict other)
      cases known
    exact refused e dict
  | ok values =>
    obtain ⟨approved, reason⟩ := values
    have dict : IsDict outcome := by
      by_contra other
      cases shown.symm.trans (showTransition_not_dict other)
    rw [shown] at settled
    replace settled : settleTransition requestedState outcome s =
        (if truthy approved then grantTransition requestedState outcome reason
          else pure (some (approved, reason))) s := settled
    dsimp only
    by_cases approves : truthy approved = true
    · rw [if_pos approves] at settled ⊢
      by_cases granted : Granted requestedState outcome
      · obtain ⟨t, same, published⟩ := grantTransition_granted reason h granted
        rw [ensures_attempt_never, ensures_of_ok (settled.trans published)]
        exact iff_of_true (fits _ _ (same ▸ h)) (.inl granted)
      · have failed := grantTransition_not_granted (s := s) reason dict granted
        rw [ensures_attempt_never, ensures_of_error (settled.trans failed), or_iff_right granted]
        have known : Error.isInstance { kind := .key } caught = true := rfl
        rw [and_iff_right known]
        exact refused _ dict
    · rw [if_neg approves] at settled ⊢
      rw [ensures_attempt_never, ensures_of_ok settled]
      exact answerTransition_iff h fits dict before

def transitionCommand (requestedState : Int) (readiness : Readiness) : Json :=
  .obj
    [("command", .str "transition"), ("requested_state", .int requestedState),
      ("readiness", readiness.toJson)]

/-- Without a session or evidence, and after a failure that is caught, the transition is denied. -/
def TransitionAnswered (client : Json → EStateM Error A Json) (node : StationNode) (authority : A)
    (requestedState : Int) : Prop :=
  ∀ readiness, node.sessionReady = true → node.readiness = some readiness →
    match client (transitionCommand requestedState readiness) authority with
    | .ok outcome _ => TransitionSettled node requestedState outcome
    | .error e _ => e.isInstance caught = true

/-- What there is to decide on is not there. -/
theorem refuseTransition_returns (e : Error) {previous : Json} (h : s.node.Fit)
    (fits : ∀ u t, t.node.Fit → Q u t) (before : (assignUInt8 previous).Succeeds) :
    Ensures (finishTransition (.obj []) previous (.error e)) s Q fun _ _ => False := by
  have dict : IsDict (.obj []) := trivial
  rw [finishTransition_error_iff h fits dict before]
  exact decisionFits_empty ⟨_, rfl⟩

/-- What the handler makes of the reply to a transition. -/
theorem transitionReply_iff {client : Json → EStateM Error A Json} {requestedState : Int}
    {readiness : Readiness} (h : s.node.Fit) (fits : ∀ u t, t.node.Fit → Q u t) :
    Ensures (authorityPart.run id (client (transitionCommand requestedState readiness))) s
        (fun outcome t =>
          Ensures (attempt caught (settleTransition requestedState outcome)) t
            (fun settled t =>
              Ensures (finishTransition outcome s.node.state settled) t Q fun _ _ => False)
            fun _ _ => False)
        (fun e t => e.isInstance caught = true ∧
          Ensures (finishTransition (.obj []) s.node.state (.error e)) t Q fun _ _ => False) ↔
      match client (transitionCommand requestedState readiness) s.authority with
      | .ok outcome _ => TransitionSettled s.node requestedState outcome
      | .error e _ => e.isInstance caught = true := by
  cases answer : client (transitionCommand requestedState readiness) s.authority with
  | ok outcome authority =>
    rw [ensures_client_ok answer]
    exact settleTransition_iff (s := { s with authority }) requestedState outcome h fits h.state
  | error e authority =>
    rw [ensures_client_error answer]
    apply and_iff_left
    exact refuseTransition_returns (s := { s with authority }) e h fits h.state

theorem handleTransitionRequest_iff {client : Json → EStateM Error A Json} {payload : Json}
    (h : s.node.Fit) (fits : ∀ u t, t.node.Fit → Q u t) :
    Ensures (handleTransitionRequest client payload) s Q (fun _ _ => False) ↔
      ∃ n, requestedState payload = .ok n ∧ TransitionAnswered client s.node s.authority n := by
  rw [handleTransitionRequest, ensures_bind, eval, ensures_ofExcept_never]
  apply exists_congr
  intro n
  apply and_congr_right
  intro _
  rw [ensures_get_bind, ensures_bind, ensures_attempt_never, requestTransition, ensures_get_bind]
  simp only [ensures_bind, ensures_failIf, ensures_okOr]
  have unmet (text : String) : Error.isInstance { kind := .runtime, text } caught = true ∧
      Ensures (finishTransition (.obj []) s.node.state (.error { kind := .runtime, text })) s Q
        fun _ _ => False :=
    ⟨rfl, refuseTransition_returns _ h fits h.state⟩
  constructor
  · rintro ⟨asks, -⟩ readiness ready has
    have answered := (asks (by simp [ready])).1 readiness has
    exact (transitionReply_iff h fits).mp answered
  · intro answered
    refine ⟨?_, fun _ => unmet _⟩
    intro ready
    refine ⟨?_, fun _ => unmet _⟩
    intro readiness has
    exact (transitionReply_iff h fits).mpr (answered readiness (by simpa using ready) has)

/-! ## Presentations -/

/-- The grant that a decision on a presentation names. -/
def redeemedGrantId (payload outcome : Json) : Json :=
  or (fieldOr outcome "grant_id") (fieldOr payload "grant_id" (.str ""))

/-- The state that the node has by then is assigned to the decision, too. -/
theorem answerPresentation_iff {payload outcome previous approved reason : Json}
    (h : (assignUInt8 s.node.state).Succeeds → s.node.Fit)
    (fits : ∀ u t, t.node.Fit → Q u t) (asked : IsDict payload) (dict : IsDict outcome)
    (before : (assignUInt8 previous).Succeeds) :
    Ensures (answerPresentation payload outcome previous approved reason) s Q (fun _ _ => False) ↔
      (assignBool approved).Succeeds ∧ (assignUInt8 s.node.state).Succeeds ∧
        (assignText reason).Succeeds ∧ DecisionFits outcome (redeemedGrantId payload outcome) := by
  rw [answerPresentation, ensures_eval_ok (get_of_isDict dict _ _),
    ensures_eval_ok (get_of_isDict asked _ _), ensures_bind, publishDecision_iff dict before]
  · exact Iff.rfl
  · intro decision t resulting same
    obtain ⟨n, converted⟩ := toInt_of_assignUInt8 resulting
    have converted : toInt t.node.state = .ok n := same ▸ converted
    rw [ensures_bind, ensures_get, ensures_eval_ok converted, ensures_bind]
    exact sends_returns (same ▸ h resulting) fits

/-- A failure is denied, if the decision on it can be made. -/
theorem finishPresentation_error_iff {payload outcome previous : Json} {e : Error}
    (h : (assignUInt8 s.node.state).Succeeds → s.node.Fit)
    (fits : ∀ u t, t.node.Fit → Q u t) (asked : IsDict payload) (dict : IsDict outcome)
    (before : (assignUInt8 previous).Succeeds) :
    Ensures (finishPresentation payload outcome previous (.error e)) s Q (fun _ _ => False) ↔
      (assignUInt8 s.node.state).Succeeds ∧
        DecisionFits outcome (redeemedGrantId payload outcome) := by
  rw [finishPresentation, answerPresentation_iff h fits asked dict before]
  constructor
  · rintro ⟨-, resulting, -, decision⟩
    exact ⟨resulting, decision⟩
  · rintro ⟨resulting, decision⟩
    exact ⟨⟨_, rfl⟩, resulting, ⟨_, rfl⟩, decision⟩

/-- What a handler makes of the outcome of a redemption: it publishes a decision. -/
structure RedemptionSettled (payload outcome : Json) : Prop where
  dict : IsDict outcome
  decision : DecisionFits outcome (redeemedGrantId payload outcome)
  settled : ∀ approved reason state, outcome.field? "approved" = some approved →
    outcome.field? "reason" = some reason → outcome.field? "resulting_state" = some state →
    (assignUInt8 state).Succeeds ∧ RaisesOnly caught (displayEvents outcome) ∧
      (displayEvents outcome = .ok () →
        (assignBool approved).Succeeds ∧ (assignText reason).Succeeds)

theorem redemptionSettled_iff {payload outcome approved reason state : Json}
    (hasApproved : outcome.field? "approved" = some approved)
    (hasReason : outcome.field? "reason" = some reason)
    (hasState : outcome.field? "resulting_state" = some state) :
    RedemptionSettled payload outcome ↔
      DecisionFits outcome (redeemedGrantId payload outcome) ∧ (assignUInt8 state).Succeeds ∧
        RaisesOnly caught (displayEvents outcome) ∧ (displayEvents outcome = .ok () →
          (assignBool approved).Succeeds ∧ (assignText reason).Succeeds) := by
  constructor
  · intro settled
    exact ⟨settled.decision, settled.settled _ _ _ hasApproved hasReason hasState⟩
  · rintro ⟨decision, rest⟩
    refine ⟨isDict_of_field? hasApproved, decision, ?_⟩
    intro _ _ _ approved' reason' state'
    cases hasApproved.symm.trans approved'
    cases hasReason.symm.trans reason'
    cases hasState.symm.trans state'
    exact rest

/-- The presentation is denied without one of the fields. -/
theorem redemptionUnread_iff {payload outcome previous : Json} {name : String}
    (absent : outcome.field? name = none) (mem : name ∈ ["approved", "reason", "resulting_state"])
    (h : s.node.Fit) (fits : ∀ u t, t.node.Fit → Q u t) (asked : IsDict payload)
    (dict : IsDict outcome) (before : (assignUInt8 previous).Succeeds) :
    (Error.isInstance { kind := .key } caught = true ∧
      Ensures (finishPresentation payload outcome previous (.error { kind := .key })) s Q
        fun _ _ => False) ↔ RedemptionSettled payload outcome := by
  have known : Error.isInstance { kind := .key } caught = true := rfl
  rw [and_iff_right known, finishPresentation_error_iff (fun _ => h) fits asked dict before]
  constructor
  · rintro ⟨-, decision⟩
    refine ⟨dict, decision, ?_⟩
    intro approved reason state hasApproved hasReason hasState
    simp only [List.mem_cons, List.not_mem_nil, or_false] at mem
    rcases mem with rfl | rfl | rfl
    · cases absent.symm.trans hasApproved
    · cases absent.symm.trans hasReason
    · cases absent.symm.trans hasState
  · intro settled
    exact ⟨h.state, settled.decision⟩

theorem settleRedemption_iff {payload outcome previous : Json} (h : s.node.Fit)
    (fits : ∀ u t, t.node.Fit → Q u t) (asked : IsDict payload)
    (before : (assignUInt8 previous).Succeeds) :
    Ensures (attempt caught (settleRedemption outcome)) s
        (fun settled t => Ensures (finishPresentation payload outcome previous settled) t Q
          fun _ _ => False)
        (fun _ _ => False) ↔
      RedemptionSettled payload outcome := by
  rw [ensures_attempt_never]
  by_cases dict : IsDict outcome
  · rw [settleRedemption]
    cases approved : outcome.field? "approved" with
    | none =>
      rw [ensures_eval_error (item_missing dict approved)]
      exact redemptionUnread_iff approved (by simp) h fits asked dict before
    | some isApproved =>
      rw [ensures_eval_ok (item_eq_ok.mpr approved)]
      cases reason : outcome.field? "reason" with
      | none =>
        rw [ensures_eval_error (item_missing dict reason)]
        exact redemptionUnread_iff reason (by simp) h fits asked dict before
      | some why =>
        rw [ensures_eval_ok (item_eq_ok.mpr reason)]
        cases state : outcome.field? "resulting_state" with
        | none =>
          rw [ensures_eval_error (item_missing dict state)]
          exact redemptionUnread_iff state (by simp) h fits asked dict before
        | some resulting =>
          rw [ensures_eval_ok (item_eq_ok.mpr state), ensures_assign,
            redemptionSettled_iff approved reason state]
          have fit : (assignUInt8 resulting).Succeeds →
              StationNode.Fit { s.node with state := resulting } := by
            intro assigned
            exact ⟨h.scenario, h.profile, assigned⟩
          cases shown : displayEvents outcome with
          | error e =>
            have denied : Ensures (finishPresentation payload outcome previous (.error e))
                { s with node := { s.node with state := resulting } } Q (fun _ _ => False) ↔ _ :=
              finishPresentation_error_iff fit fits asked dict before
            rw [ensures_eval_error rfl, denied]
            have raises : RaisesOnly caught (.error e : Except Error Unit) ↔
                e.isInstance caught = true := by
              simp [RaisesOnly]
            simp only [raises, reduceCtorEq, false_implies, and_true]
            rw [and_comm, and_assoc, and_left_comm]
          | ok _ =>
            have answered : Ensures (answerPresentation payload outcome previous isApproved why)
                { s with node := { s.node with state := resulting } } Q (fun _ _ => False) ↔ _ :=
              answerPresentation_iff fit fits asked dict before
            rw [ensures_eval_ok rfl]
            refine answered.trans ?_
            simp only [RaisesOnly, reduceCtorEq, false_implies, implies_true, true_and,
              true_implies]
            constructor
            · rintro ⟨approved, resulting, reason, decision⟩
              exact ⟨decision, resulting, approved, reason⟩
            · rintro ⟨decision, resulting, approved, reason⟩
              exact ⟨approved, resulting, reason, decision⟩
  · constructor
    · intro ensures
      rw [settleRedemption, ensures_eval_error (item_of_not_isDict dict _)] at ensures
      cases ensures.1
    · intro settled
      exact absurd settled.dict dict

def redeemCommand (requestedState : Int) (entitlementHex : Json) (readiness : Readiness) : Json :=
  .obj
    [("command", .str "redeem_entitlement"), ("requested_state", .int requestedState),
      ("entitlement_hex", entitlementHex), ("readiness", readiness.toJson)]

/-- Without evidence or a grant, and after a failure that is caught, the presentation is denied,
under the grant that it names. -/
def PresentationAnswered (client : Json → EStateM Error A Json) (node : StationNode) (authority : A)
    (payload : Json) (requestedState : Int) : Prop :=
  match node.readiness, payload.field? "signed_grant_hex" with
  | some readiness, some entitlementHex =>
    match client (redeemCommand requestedState entitlementHex readiness) authority with
    | .ok outcome _ => RedemptionSettled payload outcome
    | .error e _ => e.isInstance caught = true ∧
      (assignText (fieldOr payload "grant_id" (.str ""))).Succeeds
  | _, _ => (assignText (fieldOr payload "grant_id" (.str ""))).Succeeds

theorem handleEntitlementPresentation_iff {client : Json → EStateM Error A Json} {payload : Json}
    (h : s.node.Fit) (fits : ∀ u t, t.node.Fit → Q u t) (asked : IsDict payload) :
    Ensures (handleEntitlementPresentation client payload) s Q (fun _ _ => False) ↔
      ∃ n, requestedState payload = .ok n ∧
        PresentationAnswered client s.node s.authority payload n := by
  have denied (e : Error) (t : StationHost A) (fit : t.node.Fit) :
      (e.isInstance caught = true ∧
        Ensures (finishPresentation payload (.obj []) s.node.state (.error e)) t Q
          fun _ _ => False) ↔
        e.isInstance caught = true ∧
          (assignText (fieldOr payload "grant_id" (.str ""))).Succeeds := by
    have dict : IsDict (.obj []) := trivial
    apply and_congr_right
    intro _
    rw [finishPresentation_error_iff (fun _ => fit) fits asked dict h.state]
    have decision : DecisionFits (.obj []) (redeemedGrantId payload (.obj [])) ↔
        (assignText (fieldOr payload "grant_id" (.str ""))).Succeeds :=
      ⟨DecisionFits.grantId, decisionFits_empty⟩
    rw [decision]
    exact and_iff_right fit.state
  rw [handleEntitlementPresentation, ensures_bind, eval, ensures_ofExcept_never]
  apply exists_congr
  intro n
  apply and_congr_right
  intro _
  rw [ensures_get_bind, ensures_bind, ensures_attempt_never, redeemEntitlement, ensures_get_bind]
  unfold PresentationAnswered
  cases readiness : s.node.readiness with
  | none =>
    rw [ensures_okOr_none rfl]
    exact (denied _ s h).trans (and_iff_right rfl)
  | some readiness' =>
    rw [ensures_okOr_some rfl]
    cases hex : payload.field? "signed_grant_hex" with
    | none =>
      rw [ensures_eval_error (item_missing asked hex)]
      exact (denied _ s h).trans (and_iff_right rfl)
    | some entitlementHex =>
      rw [ensures_eval_ok (item_eq_ok.mpr hex)]
      show Ensures (authorityPart.run id
        (client (redeemCommand n entitlementHex readiness'))) _ _ _ ↔ _
      cases answer : client (redeemCommand n entitlementHex readiness') s.authority with
      | ok outcome authority =>
        rw [ensures_client_ok answer, ensures_bind]
        simp only [answer]
        exact settleRedemption_iff (s := { s with authority }) h fits asked h.state
      | error e authority =>
        rw [ensures_client_error answer]
        simp only [answer]
        exact denied e { s with authority } h

/-! ## Messages -/

/-- A payload that is a dictionary, and handled as its kind asks for. -/
structure PayloadHandled (client : Json → EStateM Error A Json) (node : StationNode) (authority : A)
    (payload : Json) : Prop where
  dict : IsDict payload
  accessRequest : payload.field? "kind" = some (.str "access_request") →
    hash (fieldOr payload "scenario_id") = .ok () ∧
      SessionAnswered client (node.withScenario payload) authority
  transitionRequest : payload.field? "kind" = some (.str "transition_request") →
    ∃ n, requestedState payload = .ok n ∧ TransitionAnswered client node authority n
  entitlementPresentation : payload.field? "kind" = some (.str "entitlement_presentation") →
    ∃ n, requestedState payload = .ok n ∧ PresentationAnswered client node authority payload n

/-- A message that is not JSON is ignored. -/
def MessageHandled (client : Json → EStateM Error A Json) (node : StationNode) (authority : A) :
    Except Error Json → Prop
  | .error e => e.isInstance [.jsonDecode, .type] = true
  | .ok payload => PayloadHandled client node authority payload

theorem onChaserProtocol_ok_iff {client : Json → EStateM Error A Json} {payload : Json}
    (h : s.node.Fit) (fits : ∀ u t, t.node.Fit → Q u t) :
    Ensures (onChaserProtocol client (.ok payload)) s Q (fun _ _ => False) ↔
      PayloadHandled client s.node s.authority payload := by
  by_cases dict : IsDict payload
  · have recorded : recordProtocolEvent payload = .ok () := by
      simp only [recordProtocolEvent, get_of_isDict dict]
      rfl
    rw [onChaserProtocol, ensures_bind, ensures_attempt]
    show Ensures (eval (recordProtocolEvent payload) >>= _) s Q _ ↔ _
    rw [ensures_eval_ok recorded, ensures_eval_ok (get_of_isDict dict _ _)]
    split
    · rename_i kind
      have found := field?_of_fieldOr kind Json.noConfusion
      rw [handleAccessRequest_iff dict h fits]
      constructor
      · intro handled
        exact ⟨dict, fun _ => handled, by simp [found], by simp [found]⟩
      · intro handled
        exact handled.accessRequest found
    · rename_i kind
      have found := field?_of_fieldOr kind Json.noConfusion
      rw [handleTransitionRequest_iff h fits]
      constructor
      · intro handled
        exact ⟨dict, by simp [found], fun _ => handled, by simp [found]⟩
      · intro handled
        exact handled.transitionRequest found
    · rename_i kind
      have found := field?_of_fieldOr kind Json.noConfusion
      rw [handleEntitlementPresentation_iff h fits dict]
      constructor
      · intro handled
        exact ⟨dict, by simp [found], by simp [found], fun _ => handled⟩
      · intro handled
        exact handled.entitlementPresentation found
    · rename_i access transition presentation
      refine iff_of_true (fits _ _ h) ⟨dict, ?_, ?_, ?_⟩
      · intro found
        exact (access (fieldOr_of_field? found)).elim
      · intro found
        exact (transition (fieldOr_of_field? found)).elim
      · intro found
        exact (presentation (fieldOr_of_field? found)).elim
  · constructor
    · intro ensures
      have unrecorded : recordProtocolEvent payload = .error { kind := .attribute } := by
        simp only [recordProtocolEvent, get_of_not_isDict dict]
        rfl
      rw [onChaserProtocol, ensures_bind, ensures_attempt] at ensures
      have raised : Ensures (eval (recordProtocolEvent payload) >>= fun _ => _) s Q
          fun _ _ => False := ensures
      rw [ensures_eval_error unrecorded] at raised
      exact raised.elim
    · intro handled
      exact absurd handled.dict dict

/-- The station's handler returns if and only if the message is handled. -/
theorem onChaserProtocol_iff {client : Json → EStateM Error A Json} {data : Except Error Json}
    (h : s.node.Fit) (fits : ∀ u t, t.node.Fit → Q u t) :
    Ensures (onChaserProtocol client data) s Q (fun _ _ => False) ↔
      MessageHandled client s.node s.authority data := by
  cases data with
  | ok payload => exact onChaserProtocol_ok_iff h fits
  | error e =>
    rw [onChaserProtocol, ensures_bind, ensures_attempt_never]
    exact and_iff_left (fits () s h)

/-! ## Runs -/

theorem clear_fits (h : s.node.Fit) :
    Ensures (do assign StationNode.clearRuntimeState; status) s (fun _ t => t.node.Fit)
      fun _ _ => False := by
  have fit : s.node.clearRuntimeState.Fit := ⟨h.scenario, h.profile, ⟨_, rfl⟩⟩
  rw [ensures_assign]
  exact (status_iff fit).mpr fit

/-- Of the other messages, none is a danger. -/
theorem handle_fits (client : Json → EStateM Error A Json) (message : StationMessage)
    (h : s.node.Fit) :
    Ensures (handle client message) s (fun _ t => t.node.Fit) fun _ _ =>
      ∃ data, message = .chaserProtocol data := by
  have never {x : StationM A Unit}
      (returns : Ensures x s (fun _ t => t.node.Fit) fun _ _ => False) :
      Ensures x s (fun _ t => t.node.Fit) fun _ _ => ∃ data, message = .chaserProtocol data :=
    returns.mono (fun _ _ => id) fun _ _ => False.elim
  cases message with
  | prepare | reset => exact never (clear_fits h)
  | run data =>
    apply never
    show Ensures (do assign StationNode.clearRuntimeState; status) { s with node := _ } _ _
    apply clear_fits
    dsimp only
    split
    · exact ⟨‹_›, h.profile, h.state⟩
    · exact h
  | scenario data =>
    apply never
    simp only [handle, onScenario]
    split
    · rename_i known
      rw [ensures_assign]
      have fit : StationNode.Fit { s.node with scenarioId := data } := ⟨known, h.profile, h.state⟩
      exact (status_iff fit).mpr fit
    · exact h
  | readiness evidence =>
    apply never
    simp only [handle, onReadiness]
    rw [ensures_assign, ensures_get_bind]
    split
    · rw [ensures_assign]
      refine (status_iff ?_).mpr ?_
      · exact ⟨h.scenario, h.profile, h.state⟩
      · exact ⟨h.scenario, h.profile, h.state⟩
    · exact ⟨h.scenario, h.profile, h.state⟩
  | chaserProtocol data =>
    apply Ensures.intro
    · intro u t returned
      have handled : MessageHandled client s.node s.authority data := by
        refine (onChaserProtocol_iff (Q := fun _ _ => True) h fun _ _ _ => trivial).mp ?_
        exact (ensures_of_ok returned).mpr trivial
      have fits := (onChaserProtocol_iff (Q := fun _ t => t.node.Fit) h fun _ _ => id).mpr handled
      exact fits.of_ok returned
    · intro e t raised
      exact ⟨data, rfl⟩

/-- A station that runs has a node that fits. -/
def Station.Fit (s : Station A) : Prop := ∀ node, s.node = some node → node.Fit

theorem start_fits (client : Json → EStateM Error A Json) (authority : A) :
    (Station.start client authority).Fit := by
  have made :
      Ensures (StationNode.init client) authority (fun node _ => node.Fit) fun _ _ => True := by
    have fit (profile : Json) (published : publishStatus { protocolProfile := profile } = .ok ()) :
        StationNode.Fit { protocolProfile := profile } := ⟨.head _, published, ⟨_, rfl⟩⟩
    simp only [StationNode.init, ensures_bind, ensures_attempt, ensures_ofExcept]
    apply Ensures.intro
    · intro profile authority _
      refine ⟨?_, fun _ _ => trivial⟩
      intro _ published
      exact fit profile published
    · intro e authority _
      refine ⟨fun _ => ⟨?_, fun _ _ => trivial⟩, fun _ => trivial⟩
      intro _ published
      exact fit .null published
  intro node started
  unfold Station.start at started
  cases init : StationNode.init client authority with
  | ok node' authority' =>
    rw [init] at started
    cases started
    exact made.of_ok init
  | error e authority' =>
    rw [init] at started
    cases started

theorem Station.Fit.step {station : Station A} (h : station.Fit)
    (client : ρ → Json → EStateM Error A Json) (call : StationCall ρ) :
    (StationAccess.step client station call).2.Fit := by
  intro node after
  cases before : station.node with
  | none =>
    simp only [StationAccess.step, before] at after
    cases after
  | some node' =>
    have fits := handle_fits (s := { node := node', authority := station.authority })
      (client call.link) call.message (h node' before)
    simp only [StationAccess.step, before] at after
    cases result : handle (client call.link) call.message
        { node := node', authority := station.authority } with
    | ok u t =>
      rw [result] at after
      cases after
      exact fits.of_ok result
    | error e t =>
      rw [result] at after
      cases after

/-- Every run. -/
theorem run_fits (client : ρ → Json → EStateM Error A Json) (link : ρ) (authority : A)
    (calls : List (StationCall ρ)) :
    (Run.state (step client) (Station.start (client link) authority) calls).Fit := by
  induction calls with
  | nil => exact start_fits _ _
  | cons call calls ih => exact ih.step client call

end Access.StationAccess
