import Access.AuthorityClient
import Access.Verify.Authority

/-! # What a request to the authority does

A request that is answered is a step of the authority. A process keeps a log of what it handled;
its pending entitlements are grants it issued, by that log, in the session its engine has
(`Process.Sound`). -/

namespace Access

open EStateM Python Authority

/-! ## Responses -/

/-- What a client sees of a reply of the engine. -/
def Reply.response : Reply → Authority.Response
  | .session (.ok out) => { ok := true, value := some (.session out), error := none }
  | .issued (.ok out) | .redeemed (.ok out) =>
    { ok := true, value := some (.transition out), error := none }
  | .replayState (.ok ()) => { ok := true, value := none, error := none }
  | .session (.error e) | .issued (.error e) | .redeemed (.error e) | .replayState (.error e) =>
    errorResponse e.display

section

variable [ReplayStateBackend B] {cr : Crates} {s : Host B}

/-- A line with a call is answered as the call. -/
theorem Authority.step_of_call {line : Line} {c : Call B}
    (h : line.input.toOption.bind (Command.call? line.now) = some c) :
    Authority.step cr s line = ((Access.step cr s c).1.response, (Access.step cr s c).2) := by
  obtain ⟨input, now⟩ := line
  cases input with
  | error detail => cases h
  | ok command =>
    cases command with
    | describe => cases h
    | establish scenario nowS =>
      simp only [Except.toOption, Option.bind_some, Command.call?] at h
      simp only [Authority.step, handleCommand]
      cases hscenario : parseScenario scenario with
      | error detail =>
        rw [hscenario] at h
        cases h
      | ok scenario =>
        rw [hscenario] at h
        cases h
        simp only [respond, Access.step, answer]
        cases establishSession cr (nowS.getD now.unixTime) scenario s <;> rfl
    | transition requestedState nowS readiness =>
      cases h
      simp only [Authority.step, handleCommand, respond, Access.step, answer]
      cases requestTransition cr requestedState (nowS.getD now.unixTime) readiness s <;> rfl
    | redeemEntitlement requestedState entitlementHex nowS readiness =>
      cases h
      simp only [Authority.step, handleCommand, respond, Access.step, answer]
      cases redeemTransition cr entitlementHex requestedState (nowS.getD now.unixTime) readiness s <;>
        rfl

/-- A line without a call is answered with the configuration or an error. -/
theorem Authority.step_of_no_call {line : Line}
    (h : line.input.toOption.bind (Command.call? (B := B) line.now) = none) :
    (Authority.step cr s line).2 = s ∧
      ((∃ profile metadata, (Authority.step cr s line).1 =
        { ok := true, value := some (.description profile metadata), error := none }) ∨
        ∃ e, (Authority.step cr s line).1 = errorResponse e) := by
  obtain ⟨input, now⟩ := line
  cases input with
  | error detail => exact ⟨rfl, .inr ⟨detail, rfl⟩⟩
  | ok command =>
    cases command with
    | describe => exact ⟨rfl, .inl ⟨_, _, rfl⟩⟩
    | establish scenario nowS =>
      simp only [Except.toOption, Option.bind_some, Command.call?] at h
      simp only [Authority.step, handleCommand]
      cases hscenario : parseScenario scenario with
      | error detail => exact ⟨rfl, .inr ⟨detail, rfl⟩⟩
      | ok scenario =>
        rw [hscenario] at h
        cases h
    | transition | redeemEntitlement => cases h

/-- A response has a value or an error. -/
theorem Authority.step_response (cr : Crates) (s : Host B) (line : Line) :
    (∃ value, (Authority.step cr s line).1 = { ok := true, value := some value, error := none }) ∨
      ∃ e, (Authority.step cr s line).1 = errorResponse e := by
  have hrespond {α : Type} (wrap : α → Value) (x : EngineM B α) :
      (∃ value, (respond wrap x s).1 = { ok := true, value := some value, error := none }) ∨
        ∃ e, (respond wrap x s).1 = errorResponse e := by
    unfold respond
    cases x s with
    | ok a t => exact .inl ⟨wrap a, rfl⟩
    | error e t => exact .inr ⟨e.display, rfl⟩
  obtain ⟨input, now⟩ := line
  cases input with
  | error detail => exact .inr ⟨detail, rfl⟩
  | ok command =>
    cases command with
    | describe => exact .inl ⟨_, rfl⟩
    | establish scenario nowS =>
      simp only [Authority.step, handleCommand]
      cases parseScenario scenario with
      | error detail => exact .inr ⟨detail, rfl⟩
      | ok scenario => exact hrespond _ _
    | transition requestedState nowS readiness => exact hrespond _ _
    | redeemEntitlement requestedState entitlementHex nowS readiness => exact hrespond _ _

end

theorem readResponse_value (value : Value) :
    AuthorityClient.readResponse
      (Authority.Response.toJson { ok := true, value := some value, error := none }) =
      .ok value.toJson := by
  rfl

theorem readResponse_error (e : String) :
    AuthorityClient.readResponse (errorResponse e).toJson =
      .error { kind := .runtime, text := e } := by
  rfl

/-! ## Commands -/

/-- The name of a command on its line. -/
def Authority.Command.tag : Command → String
  | .describe => "describe"
  | .establish .. => "establish"
  | .transition .. => "transition"
  | .redeemEntitlement .. => "redeem_entitlement"

theorem Serde.readText_eq_some {value : Json} {s : String} (h : Serde.readText value = some s) :
    value = .str s := by
  cases value <;> cases h
  rfl

theorem Authority.Command.field?_of_ofJson {payload : Json} {command : Command}
    (h : Command.ofJson payload = some command) :
    payload.field? "command" = some (.str command.tag) := by
  simp only [Command.ofJson, Option.bind_eq_bind, Option.bind_eq_some_iff] at h
  obtain ⟨_, -, name, ⟨value, hvalue, hname⟩, h⟩ := h
  cases Serde.readText_eq_some hname
  rw [hvalue]
  split at h
  · cases h
    rfl
  · simp only [Option.bind_eq_some_iff, Option.pure_def, Option.some.injEq] at h
    obtain ⟨_, -, _, -, rfl⟩ := h
    rfl
  · simp only [Option.bind_eq_some_iff, Option.pure_def, Option.some.injEq] at h
    obtain ⟨_, -, _, -, _, -, rfl⟩ := h
    rfl
  · simp only [Option.bind_eq_some_iff, Option.pure_def, Option.some.injEq] at h
    obtain ⟨_, -, _, -, _, -, _, -, rfl⟩ := h
    rfl
  · cases h

theorem Authority.Command.tag_of_input {payload : Json} {now : SystemTime} {command : Command}
    (h : (AuthorityClient.line payload now).input = .ok command) :
    payload.field? "command" = some (.str command.tag) :=
  Command.field?_of_ofJson (Except.okOr_eq_ok.mp h)

/-! ## Grants in the log -/

/-- The entry of a grant that was issued. -/
structure Issuing (entry : Line × Authority.Response) (sessionId grantId : String) : Prop where
  command : ∃ requestedState nowS readiness,
    entry.1.input = .ok (.transition requestedState nowS readiness)
  outcome : ∃ out, entry.2.value = some (.transition out) ∧ out.approved = true ∧
    out.sessionId = some sessionId ∧ out.grantId = some grantId

/-- By a log, a grant was issued in a session. -/
def IssuedIn (handled : List (Line × Authority.Response)) (sessionId grantId : String) : Prop :=
  ∃ entry ∈ handled, Issuing entry sessionId grantId

theorem IssuedIn.mono {handled handled' : List (Line × Authority.Response)}
    (h : handled ⊆ handled') {sessionId grantId : String} (H : IssuedIn handled sessionId grantId) :
    IssuedIn handled' sessionId grantId := by
  obtain ⟨entry, hentry, hissuing⟩ := H
  exact ⟨entry, h hentry, hissuing⟩

/-- What is pending was issued in the present session. -/
structure Conducted (handled : List (Line × Authority.Response)) (s : Host B) : Prop where
  sound : SessionSound s.engine
  pending : ∀ grantId entitlement, s.engine.pendingEntitlements.lookup grantId = some entitlement →
    grantId ≠ "" ∧ ∃ sessionId, s.engine.sessionId = some sessionId ∧
      IssuedIn handled sessionId grantId

section

variable [ReplayStateBackend B] {cr : Crates} {s s' : Host B}
  {handled : List (Line × Authority.Response)}

/-- The identifier of a grant begins with a word. -/
theorem requestTransition_grantId {requestedState : UInt8} {nowS : Int64}
    {readiness : ReadinessEvidence} {out : TransitionOutcome}
    (h : requestTransition cr requestedState nowS readiness s = .ok out s')
    (happroved : out.approved = true) : ∃ nonce, out.grantId = some ("grant-" ++ nonce) := by
  simp only [requestTransition, bind_eq_ok, get_eq_ok, okOr_eq_ok, and_assoc, exists_and_left,
    exists_eq_left, Prod.exists] at h
  obtain ⟨_, _, -, sessionId, -, _, s₁, -, fromStage, toStage, -, h⟩ := h
  cases hdecide : s₁.engine.decideTransition cr sessionId fromStage toStage nowS readiness with
  | error denial =>
    simp only [hdecide, pure_eq_ok] at h
    obtain ⟨rfl, -⟩ := h
    rw [decideTransition_error hdecide] at happroved
    cases happroved
  | ok verdict =>
    simp only [hdecide, issueGrant, bind_eq_ok, pure_eq_ok] at h
    obtain ⟨nonce, _, -, _, _, -, _, _, -, _, _, -, rfl, -⟩ := h
    exact ⟨_, rfl⟩

/-- The identifier of a session begins with a word. -/
theorem authorizeNewSession_sessionId (self : EngineSetup) (scenario : AccessScenario)
    (nowS : Int64) (s : Host B) :
    Ensures (authorizeNewSession cr self scenario nowS) s
      (fun out _ => ∃ nonce, out.1 = "access-" ++ nonce) fun _ _ => True := by
  have hE (_ : SessionError) (_ : Host B) : True := trivial
  refine .bind_all hE fun nonce _ => .bind_all hE fun _ _ => .bind_all hE fun _ _ =>
    .bind_all hE fun _ _ => .bind_all hE fun _ _ => .bind_all hE fun _ _ => .bind_all hE fun _ _ =>
    .bind_all hE fun _ _ => .bind_all hE fun _ _ => .bind_all hE fun _ _ => .bind_all hE fun _ _ => ?_
  exact ensures_pure.mpr ⟨_, rfl⟩

theorem establishSession_sessionId {nowS : Int64} {scenario : AccessScenario}
    {out : SessionOutcome} (h : establishSession cr nowS scenario s = .ok out s') :
    ∃ nonce, out.sessionId = "access-" ++ nonce := by
  simp only [establishSession, bind_eq_ok, assign_eq_ok, get_eq_ok, pure_eq_ok, and_assoc,
    exists_and_left, exists_eq_left, exists_const, Prod.exists] at h
  obtain ⟨sessionId, request, decision, s₁, h, rfl, -⟩ := h
  exact (authorizeNewSession_sessionId _ scenario nowS _).of_ok h

omit [ReplayStateBackend B] in
theorem Conducted.quiet (H : Conducted handled s) (entry : Line × Authority.Response)
    (hsound : SessionSound s'.engine) (hsession : s'.engine.sessionId = s.engine.sessionId)
    (hpending : ∀ g p, s'.engine.pendingEntitlements.lookup g = some p →
      s.engine.pendingEntitlements.lookup g = some p) : Conducted (entry :: handled) s' where
  sound := hsound
  pending g p hp := by
    obtain ⟨hne, sessionId, hid, hissued⟩ := H.pending g p (hpending g p hp)
    exact ⟨hne, sessionId, hsession.trans hid, hissued.mono (List.subset_cons_self ..)⟩

omit [ReplayStateBackend B] in
theorem Conducted.start {entry : Line × Authority.Response} (hsound : SessionSound s'.engine)
    (hpending : s'.engine.pendingEntitlements = ∅) : Conducted (entry :: handled) s' where
  sound := hsound
  pending g p hp := by
    rw [hpending, Finmap.lookup_empty] at hp
    cases hp

theorem ne_empty_of_append {first rest s : String} (hfirst : first ≠ "") (h : s = first ++ rest) :
    s ≠ "" := by
  rintro rfl
  exact hfirst (String.append_eq_empty_iff.mp h.symm).1

theorem requestTransition_of_reply {requestedState : UInt8} {nowS : Int64}
    {readiness : ReadinessEvidence} {out : TransitionOutcome}
    (h : (Access.step cr s (.requestTransition requestedState nowS readiness)).1 =
      .issued (.ok out)) :
    ∃ s', requestTransition cr requestedState nowS readiness s = .ok out s' := by
  simp only [Access.step, answer] at h
  cases hrequest : requestTransition cr requestedState nowS readiness s with
  | ok out' s' =>
    rw [hrequest] at h
    cases h
    exact ⟨s', rfl⟩
  | error e s' =>
    rw [hrequest] at h
    cases h

omit [ReplayStateBackend B] in
theorem Authority.Command.input_of_call {line : Line} {requestedState : UInt8} {nowS : Int64}
    {readiness : ReadinessEvidence}
    (h : line.input.toOption.bind (Command.call? (B := B) line.now) =
      some (.requestTransition requestedState nowS readiness)) :
    ∃ nowS, line.input = .ok (.transition requestedState nowS readiness) := by
  obtain ⟨input, now⟩ := line
  cases input with
  | error detail => cases h
  | ok command =>
    cases command with
    | describe => cases h
    | establish scenario nowS =>
      simp only [Except.toOption, Option.bind_some, Command.call?, Option.map_eq_some_iff] at h
      obtain ⟨_, -, h⟩ := h
      cases h
    | transition requestedState nowS readiness =>
      cases h
      exact ⟨nowS, rfl⟩
    | redeemEntitlement requestedState entitlementHex nowS readiness => cases h

/-- An approved request issues the grant that it makes pending. -/
theorem Conducted.issue (H : Conducted handled s) (hsound : SessionSound s'.engine) {line : Line}
    {requestedState : UInt8} {nowS : Int64} {readiness : ReadinessEvidence} {i : Issuance}
    {out : TransitionOutcome}
    (hinput : ∃ nowS, line.input = .ok (.transition requestedState nowS readiness))
    (hrequest : ∃ s', requestTransition cr requestedState nowS readiness s = .ok out s')
    (issues : Issues cr s requestedState nowS readiness i out s') :
    Conducted ((line, (Reply.issued (.ok out)).response) :: handled) s' := by
  obtain ⟨nowS', hinput⟩ := hinput
  obtain ⟨_, hrequest⟩ := hrequest
  have hsession : s'.engine.sessionId = s.engine.sessionId :=
    (congrArg AccessEngine.sessionId issues.engine :)
  have hpending : s'.engine.pendingEntitlements = s.engine.pendingEntitlements.insert i.grantId
      { requestedState, authorizationDecision := i.decision } :=
    (congrArg AccessEngine.pendingEntitlements issues.engine :)
  have happroved : out.approved = true := by rw [issues.outcome]; rfl
  have hgrantId : out.grantId = some i.grantId := by rw [issues.outcome]; rfl
  have hsessionId : out.sessionId = some i.sessionId := by rw [issues.outcome]; rfl
  refine ⟨hsound, fun g p hp => ?_⟩
  rw [hpending] at hp
  by_cases hg : g = i.grantId
  · obtain ⟨nonce, hnonce⟩ := requestTransition_grantId hrequest happroved
    rw [hgrantId, Option.some.injEq] at hnonce
    refine ⟨hg ▸ ne_empty_of_append (by decide) hnonce, i.sessionId, hsession.trans issues.session,
      _, .head _, ⟨requestedState, nowS', readiness, hinput⟩, out, rfl, happroved, hsessionId, ?_⟩
    rw [hg]
    exact hgrantId
  · rw [Finmap.lookup_insert_of_ne _ hg] at hp
    obtain ⟨hne, sessionId, hid, hissued⟩ := H.pending g p hp
    exact ⟨hne, sessionId, hsession.trans hid, hissued.mono (List.subset_cons_self ..)⟩

/-- One line. -/
theorem Conducted.step (H : Conducted handled s) (line : Line) :
    Conducted ((line, (Authority.step cr s line).1) :: handled) (Authority.step cr s line).2 := by
  cases hcall : line.input.toOption.bind (Command.call? (B := B) line.now) with
  | none =>
    have hsame : (Authority.step cr s line).2 = s := (Authority.step_of_no_call hcall).1
    rw [hsame]
    exact H.quiet _ H.sound rfl fun _ _ h => h
  | some c =>
    have hstep := step_happens cr H.sound c
    have hsound := hstep.sound H.sound
    rw [Authority.step_of_call hcall]
    revert hsound
    generalize hreply : (Access.step cr s c).1 = r, hafter : (Access.step cr s c).2 = s' at hstep
    intro hsound
    cases hstep with
    | established _ _ kept =>
      exact .start hsound (congrArg AccessEngine.pendingEntitlements kept.1 :)
    | notEstablished _ _ kept =>
      exact .start hsound (congrArg AccessEngine.pendingEntitlements kept.1 :)
    | withheld _ _ _ _ refreshes | notIssued _ _ _ refreshes =>
      refine H.quiet _ hsound (congrArg AccessEngine.sessionId refreshes.kept.1 :) ?_
      exact (congrArg AccessEngine.pendingEntitlements refreshes.kept.1 :) ▸ fun _ _ h => h
    | redeemed _ _ _ _ redeems =>
      refine H.quiet _ hsound (congrArg AccessEngine.sessionId redeems.engine :) fun g p hp => ?_
      rw [redeems.pending] at hp
      exact lookup_of_lookup_erase hp
    | refused _ _ _ _ refuses =>
      exact H.quiet _ hsound (congrArg AccessEngine.sessionId refuses.engine :) refuses.pending
    | enabled _ _ kept | replaced _ _ _ _ _ kept =>
      refine H.quiet _ hsound (congrArg AccessEngine.sessionId kept :) ?_
      exact (congrArg AccessEngine.pendingEntitlements kept :) ▸ fun _ _ h => h
    | issued requestedState nowS readiness issues =>
      exact H.issue hsound (Command.input_of_call hcall) (requestTransition_of_reply hreply) issues

/-- A grant is issued in the present session. -/
theorem Issuing.session_eq {line : Line} {sessionId grantId : String}
    (H : Issuing (line, (Authority.step cr s line).1) sessionId grantId) :
    s.engine.sessionId = some sessionId := by
  obtain ⟨⟨requestedState, nowS, readiness, hinput⟩, out, hvalue, happroved, hsessionId, -⟩ := H
  obtain ⟨input, now⟩ := line
  cases (hinput : input = _)
  obtain ⟨out', hrequest, hout⟩ := respond_value rfl hvalue
  cases hout
  rcases requestTransition_ok hrequest with ⟨hdenied, -⟩ | ⟨i, issues⟩
  · rw [hdenied] at happroved
    cases happroved
  · rw [issues.outcome] at hsessionId
    exact issues.session.trans hsessionId

theorem Authority.step_sessionId (hsound : SessionSound s.engine) {line : Line}
    (h : ∀ scenario nowS, line.input ≠ .ok (.establish scenario nowS)) :
    (Authority.step cr s line).2.engine.sessionId = s.engine.sessionId := by
  cases hcall : line.input.toOption.bind (Command.call? (B := B) line.now) with
  | none => rw [(Authority.step_of_no_call hcall).1]
  | some c =>
    rw [Authority.step_of_call hcall]
    have hstep := step_happens cr hsound c
    refine (congrArg (fun session => session.2.1) (hstep.session_eq ?_) :)
    obtain ⟨input, now⟩ := line
    cases input with
    | error detail => cases hcall
    | ok command =>
      cases command with
      | describe => cases hcall
      | establish scenario nowS => exact absurd rfl (h scenario nowS)
      | transition requestedState nowS readiness =>
        cases hcall
        rfl
      | redeemEntitlement requestedState entitlementHex nowS readiness =>
        cases hcall
        rfl

end

/-! ## Requests -/

namespace AuthorityClient

/-- A log with at most one entry more, and one that satisfies `P`. -/
def Logs (P : α → Prop) (log log' : List α) : Prop :=
  log' = log ∨ ∃ entry, log' = entry :: log ∧ P entry

theorem Logs.mono {P P' : α → Prop} {log log' : List α} (H : Logs P log log')
    (h : ∀ entry, P entry → P' entry) : Logs P' log log' := by
  rcases H with H | ⟨entry, H, hentry⟩
  · exact .inl H
  · exact .inr ⟨entry, H, h entry hentry⟩

theorem Logs.subset {P : α → Prop} {log log' : List α} (H : Logs P log log') : log ⊆ log' := by
  rcases H with rfl | ⟨entry, rfl, -⟩
  · exact List.Subset.refl _
  · exact List.subset_cons_self ..

def Process.Sound (p : Process B) : Prop :=
  ∀ host, p.host = some host → Conducted p.handled host

/-- What a request leaves of the process, whether it is answered or not: a session only changes when
one is established, and a grant is only issued for a transition, in the present session. -/
structure Exchange (payload : Json) (p p' : Process B) : Prop where
  sound : Process.Sound p'
  session : ∀ host', p'.host = some host' → ∃ host, p.host = some host ∧
    (payload.field? "command" ≠ some (.str "establish") →
      host'.engine.sessionId = host.engine.sessionId)
  logs : Logs (fun entry => ∀ sessionId grantId, Issuing entry sessionId grantId →
    payload.field? "command" = some (.str "transition") ∧
      ∃ host, p.host = some host ∧ host.engine.sessionId = some sessionId) p.handled p'.handled

/-- A process that is lost before it handles the request. -/
theorem Exchange.lost {payload : Json} {p : Process B} :
    Exchange payload p { p with host := none } where
  sound _ h := by cases h
  session _ h := by cases h
  logs := .inl rfl

variable [ReplayStateBackend B] {cr : Crates} {fate : Fate} {now : SystemTime} {payload : Json}
  {p p' : Process B}

/-- A request that is handled, whatever becomes of the process. -/
theorem Exchange.handled (H : Process.Sound p) {host : Host B} (hhost : p.host = some host)
    (kept : Option (Host B))
    (hkept : ∀ host', kept = some host' →
      host' = (Authority.step cr host (line payload now)).2) :
    Exchange payload p
      { host := kept
        handled := (line payload now, (Authority.step cr host (line payload now)).1) :: p.handled }
    where
  sound host' h := hkept host' h ▸ (H host hhost).step _
  session host' h := by
    refine ⟨host, hhost, fun hcommand => ?_⟩
    rw [hkept host' h]
    refine Authority.step_sessionId (H host hhost).sound fun scenario nowS hinput => ?_
    exact hcommand (Command.tag_of_input hinput)
  logs := by
    refine .inr ⟨_, rfl, fun sessionId grantId hissuing => ?_⟩
    obtain ⟨requestedState, nowS, readiness, hinput⟩ := hissuing.command
    exact ⟨Command.tag_of_input hinput, host, hhost, hissuing.session_eq⟩

theorem request_steps (H : Process.Sound p) :
    Exchange payload p (request cr fate now payload p).state := by
  obtain ⟨host, handled⟩ := p
  cases host with
  | none =>
    cases fate with
    | answered => exact .lost
    | lost loss handled => exact .lost
  | some host =>
    cases fate with
    | answered =>
      have hstate : (request cr .answered now payload ⟨some host, handled⟩).state =
          { host := some (Authority.step cr host (line payload now)).2
            handled := (line payload now, (Authority.step cr host (line payload now)).1) ::
              handled } := by
        simp only [request]
        cases readResponse (Authority.step cr host (line payload now)).1.toJson <;> rfl
      rw [hstate]
      exact .handled H rfl _ fun _ h => (Option.some.inj h).symm
    | lost loss isHandled =>
      cases isHandled with
      | true => exact .handled H rfl none fun _ h => by cases h
      | false => exact .lost

theorem request_ensures (H : Process.Sound p) : Ensures (request cr fate now payload) p
    (fun json p' => request cr fate now payload p = .ok json p' ∧ Exchange payload p p')
    fun _ p' => Exchange payload p p' := by
  have hsteps : Exchange payload p (request cr fate now payload p).state := request_steps H
  refine .intro (fun json p' h => ⟨h, ?_⟩) fun e p' h => ?_
  all_goals
    rw [h] at hsteps
    exact hsteps

/-- A request that is answered with a value. -/
theorem request_eq_ok {json : Json} :
    request cr fate now payload p = .ok json p' ↔ ∃ host value,
      p.host = some host ∧ fate = .answered ∧
      (Authority.step cr host (line payload now)).1 =
        { ok := true, value := some value, error := none } ∧ json = value.toJson ∧
      p' =
        { host := some (Authority.step cr host (line payload now)).2
          handled := (line payload now, { ok := true, value := some value, error := none }) ::
            p.handled } := by
  obtain ⟨host, handled⟩ := p
  cases host with
  | none => cases fate <;> simp [request]
  | some host =>
    cases fate with
    | lost loss isHandled => cases isHandled <;> simp [request]
    | answered =>
      simp only [request]
      rcases Authority.step_response cr host (line payload now) with ⟨value, hvalue⟩ | ⟨e, he⟩
      · rw [hvalue, readResponse_value, ofExcept_eq_ok, Except.ok.injEq]
        constructor
        · rintro ⟨rfl, rfl⟩
          exact ⟨host, value, rfl, trivial, hvalue, rfl, rfl⟩
        · rintro ⟨host', value', hhost, -, hvalue', rfl, rfl⟩
          cases hhost
          cases hvalue.symm.trans hvalue'
          exact ⟨rfl, rfl⟩
      · rw [he, readResponse_error, ofExcept_eq_ok]
        constructor
        · rintro ⟨h, -⟩
          cases h
        · rintro ⟨host', value', hhost, -, hvalue', -⟩
          cases hhost
          cases he.symm.trans hvalue'

/-- The command of a line that is answered with a value. -/
theorem exists_command {s : Host B} {value : Value}
    (h : (Authority.step cr s (line payload now)).1 =
      { ok := true, value := some value, error := none }) :
    ∃ command, (line payload now).input = .ok command ∧
      payload.field? "command" = some (.str command.tag) := by
  cases hinput : (line payload now).input with
  | ok command => exact ⟨command, rfl, Command.tag_of_input hinput⟩
  | error detail =>
    simp only [Authority.step, hinput, handleCommand, errorResponse] at h
    cases h

theorem request_establish {json : Json} (h : request cr fate now payload p = .ok json p')
    (hcommand : payload.field? "command" = some (.str "establish")) :
    ∃ (out : SessionOutcome) (host' : Host B), json = out.toJson ∧ p'.host = some host' ∧
      host'.engine.sessionId = some out.sessionId ∧ out.sessionId ≠ "" := by
  obtain ⟨host, value, -, -, hvalue, rfl, rfl⟩ := request_eq_ok.mp h
  obtain ⟨command, hinput, htag⟩ := exists_command hvalue
  rw [hcommand] at htag
  cases command with
  | describe | transition | redeemEntitlement => simp [Command.tag] at htag
  | establish scenario nowS =>
    simp only [Authority.step, hinput, handleCommand] at hvalue ⊢
    cases hscenario : parseScenario scenario with
    | error detail =>
      rw [hscenario] at hvalue
      cases hvalue
    | ok scenario =>
      rw [hscenario] at hvalue
      obtain ⟨out, hsession, rfl⟩ := respond_value (Prod.ext hvalue rfl) rfl
      obtain ⟨s₁, -, -, -, -, hs₁⟩ := establishSession_ok hsession
      obtain ⟨nonce, hnonce⟩ := establishSession_sessionId hsession
      refine ⟨out, _, rfl, rfl, ?_, ne_empty_of_append (by decide) hnonce⟩
      simp only [hs₁, AccessEngine.withSession]

theorem request_describe {json : Json} (h : request cr fate now payload p = .ok json p')
    (hcommand : payload.field? "command" = some (.str "describe")) :
    ∃ profile metadata, json = (Value.description profile metadata).toJson := by
  obtain ⟨host, value, -, -, hvalue, rfl, -⟩ := request_eq_ok.mp h
  obtain ⟨command, hinput, htag⟩ := exists_command hvalue
  rw [hcommand] at htag
  cases command with
  | establish | transition | redeemEntitlement => simp [Command.tag] at htag
  | describe =>
    simp only [Authority.step, hinput, handleCommand] at hvalue
    cases hvalue
    exact ⟨_, _, rfl⟩

/-- What is redeemed was issued in the session of the engine. -/
theorem request_redeem {json : Json} (H : Process.Sound p)
    (h : request cr fate now payload p = .ok json p')
    (hcommand : payload.field? "command" = some (.str "redeem_entitlement")) :
    ∃ (out : TransitionOutcome) (host : Host B) (sessionId grantId : String), json = out.toJson ∧
      p.host = some host ∧ out.grantId = some grantId ∧ grantId ≠ "" ∧
      host.engine.sessionId = some sessionId ∧ IssuedIn p.handled sessionId grantId := by
  obtain ⟨host, value, hhost, -, hvalue, rfl, -⟩ := request_eq_ok.mp h
  obtain ⟨command, hinput, htag⟩ := exists_command hvalue
  rw [hcommand] at htag
  cases command with
  | describe | establish | transition => simp [Command.tag] at htag
  | redeemEntitlement requestedState entitlementHex nowS readiness =>
    simp only [Authority.step, hinput, handleCommand] at hvalue
    obtain ⟨out, hredeem, rfl⟩ := respond_value (Prod.ext hvalue rfl) rfl
    obtain ⟨a, redeems⟩ := redeemTransition_ok hredeem
    obtain ⟨hne, sessionId, hid, hissued⟩ :=
      (H host hhost).pending a.grantId a.pending redeems.accepts.pending
    refine ⟨out, host, sessionId, a.grantId, rfl, hhost, ?_, hne, hid, hissued⟩
    rw [redeems.outcome]
    rfl

end AuthorityClient

end Access
