import Access.Verify.Cedar
import Access.Verify.ProtocolProfile
import Access.Verify.Runs

/-! # Session establishment fails closed

An engine without a session refuses every request and every redemption, and it has no session after
an `establish_session` that failed, wherever it failed. A session that was established went through
every check. -/

namespace Access

open EStateM

/-! ## No session -/

/-- The engine holds no session. -/
structure Closed (s : Host B) : Prop where
  state : s.engine.state = .hold
  sessionId : s.engine.sessionId = none
  pending : s.engine.pendingEntitlements = ∅

/-- A session was established. -/
def opens (e : Event B) : Bool :=
  match e.reply with
  | .session (.ok _) => true
  | _ => false

/-- A request or a redemption that succeeded. -/
def proceeds (e : Event B) : Bool :=
  match e.reply with
  | .issued (.ok _) | .redeemed (.ok _) => true
  | _ => false

variable [ReplayStateBackend B] {cr : Crates} {s s' : Host B}

theorem requestTransition_sessionId {requestedState : UInt8} {nowS : Int64}
    {readiness : ReadinessEvidence} {out : TransitionOutcome}
    (h : requestTransition cr requestedState nowS readiness s = .ok out s') :
    ∃ sessionId, s.engine.sessionId = some sessionId := by
  simp only [requestTransition, bind_eq_ok, get_eq_ok, okOr_eq_ok, and_assoc, exists_and_left,
    exists_eq_left, Prod.exists] at h
  obtain ⟨_, _, -, sessionId, hsession, -⟩ := h
  exact ⟨sessionId, hsession⟩

/-- Without a session nothing succeeds but establishing one. -/
theorem step_of_sessionId_none (hnone : s.engine.sessionId = none) (c : Call B) :
    proceeds (Run.event (step cr) s c) = false ∧
      (opens (Run.event (step cr) s c) = false → (step cr s c).2.engine.sessionId = none) := by
  have hopen {id : String} : s.engine.sessionId ≠ some id := by
    rw [hnone]
    exact Option.some_ne_none id |>.symm
  have hsound : SessionSound s.engine := fun id hid => absurd hid hopen
  have H := step_happens cr hsound c
  constructor
  · cases c with
    | requestTransition requestedState nowS readiness =>
      simp only [Run.event, step, answer]
      cases hr : requestTransition cr requestedState nowS readiness s with
      | error e s' => rfl
      | ok out s' =>
        obtain ⟨_, hsome⟩ := requestTransition_sessionId hr
        exact absurd hsome hopen
    | redeemTransition signedGrantHex requestedState nowS readiness =>
      simp only [Run.event, step, answer]
      cases hr : redeemTransition cr signedGrantHex requestedState nowS readiness s with
      | error e s' => rfl
      | ok out s' =>
        obtain ⟨_, H⟩ := redeemTransition_ok hr
        exact absurd H.accepts.session hopen
    | establishSession nowS scenario =>
      simp only [Run.event, step, answer]
      cases establishSession cr nowS scenario s <;> rfl
    | enablePersistentState openFile =>
      simp only [Run.event, step, answer]
      cases enablePersistentState openFile s <;> rfl
    | setReplayState => rfl
  · intro hopens
    have hopens' : opens ⟨s, c, (step cr s c).1, (step cr s c).2⟩ = false := hopens
    revert H hopens'
    generalize (step cr s c).1 = r, (step cr s c).2 = s'
    intro H hopens'
    cases H with
    | established => cases hopens'
    | notEstablished _ _ kept => exact (congrArg AccessEngine.sessionId kept.1 :)
    | issued _ _ _ issues => exact absurd issues.session hopen
    | withheld _ _ _ _ refreshes | notIssued _ _ _ refreshes =>
      exact (congrArg AccessEngine.sessionId refreshes.kept.1 :).trans hnone
    | redeemed _ _ _ _ redeems => exact absurd redeems.accepts.session hopen
    | refused _ _ _ _ refuses => exact (congrArg AccessEngine.sessionId refuses.engine :).trans hnone
    | enabled _ _ kept | replaced _ _ _ _ _ kept =>
      exact (congrArg AccessEngine.sessionId kept :).trans hnone

/-- Nothing succeeds before a session is established. -/
theorem not_proceeds_of_sessionId_none (hnone : s.engine.sessionId = none) (calls : List (Call B))
    (h : ∀ e ∈ Run.history (step cr) s calls, opens e = false) :
    ∀ e ∈ Run.history (step cr) s calls, proceeds e = false := by
  have H := Run.invariant (step cr) s
    (I := fun es s => (∀ e ∈ es, opens e = false) →
      s.engine.sessionId = none ∧ ∀ e ∈ es, proceeds e = false)
    (fun _ => ⟨hnone, fun _ he => absurd he List.not_mem_nil⟩) (fun es s c ih hes => ?_) calls
  · exact (H h).2
  · obtain ⟨hhead, htail⟩ := List.forall_mem_cons.mp hes
    obtain ⟨hnone, hbefore⟩ := ih htail
    obtain ⟨hrefused, hstays⟩ := step_of_sessionId_none hnone c
    exact ⟨hstays hhead, List.forall_mem_cons.mpr ⟨hrefused, hbefore⟩⟩

theorem establishSession_closed {nowS : Int64} {scenario : AccessScenario} {e : SessionError}
    (h : establishSession cr nowS scenario s = .error e s') : Closed s' := by
  have hkept := (establishSession_error h).1
  exact ⟨(congrArg AccessEngine.state hkept :), (congrArg AccessEngine.sessionId hkept :),
    (congrArg AccessEngine.pendingEntitlements hkept :)⟩

/-! ## A session -/

omit [ReplayStateBackend B] in
/-- A presentation is verified if and only if every credential of it is. -/
theorem verifyPresentation_eq_ok {self : EngineSetup} {proof : VerifiedEnvelope} {nowS : Int64}
    {evidence : List VerifiedCredentialEvidence} :
    verifyPresentation cr self proof nowS = .ok evidence ↔
      List.Forall₂ (fun credential verified => ∃ claims, CredentialVerified cr credential
        self.credentialTrust proof.signer nowS claims ∧ claims.evidence = verified)
        proof.claims.credentials evidence := by
  simp only [verifyPresentation, Except.mapM_eq_ok, Except.map_eq_ok, verifyCredential_eq_ok]

/-- What a session that was established went through. -/
structure Established (cr : Crates) (setup : EngineSetup) (nowS : Int64) (out : SessionOutcome)
    (evidence : List VerifiedCredentialEvidence) : Prop where
  /-- The proof answers the challenge that the station offered, and each of its credentials is
  signed, issued to its signer, valid at the time, and of a configured profile. -/
  exists_proof : ∃ challenge offer proof,
    Handshake cr setup out.sessionId challenge nowS offer proof ∧
    (cr.Faithful → proof.signer = setup.chaser.keyId ∧
      offer.claims.challengeNonce = some challenge ∧
      proof.claims.challengeNonce = some challenge) ∧
    proof.claims.credentials ≠ [] ∧
    List.Forall₂ (fun credential verified => ∃ claims, CredentialVerified cr credential
      setup.credentialTrust proof.signer nowS claims ∧ claims.evidence = verified ∧
      CredentialValid setup.config.protocolProfile nowS verified) proof.claims.credentials evidence
  foundation : FoundationValid cr setup.config.protocolProfile nowS setup.config.trustBundleId
    setup.config.trustBundleVersion setup.config.trustBundleIssuedAtS
  allowed : CedarAllows cr setup.config.authorizationPolicyEngine setup.chaser.keyId
    "authorize_session" setup.station.keyId (context evidence true false none false)

omit [ReplayStateBackend B] in
theorem Handshake.of_faithful {self : EngineSetup} {sessionId : String} {challenge : Bytes}
    {nowS : Int64} {offer proof : VerifiedEnvelope} (hcr : cr.Faithful)
    (H : Handshake cr self sessionId challenge nowS offer proof) :
    proof.signer = self.chaser.keyId ∧ offer.claims.challengeNonce = some challenge ∧
      proof.claims.challengeNonce = some challenge := by
  obtain ⟨_, _, _, _, hoffered, hoffer⟩ := H.offered
  obtain ⟨_, _, _, _, _, hproved, hproof⟩ := H.proved
  obtain ⟨hoffer, -⟩ := hoffer.eq_of_signed hcr hoffered
  obtain ⟨hproof, hsigner⟩ := hproof.eq_of_signed hcr hproved
  exact ⟨hsigner, by rw [hoffer]; rfl, by rw [hproof]; rfl⟩

omit [ReplayStateBackend B] in
theorem SessionAuthorized.established {self : EngineSetup} {nowS : Int64} {out : SessionOutcome}
    {evidence : List VerifiedCredentialEvidence}
    (H : SessionAuthorized cr self out.sessionId nowS out.authorizationDecision evidence) :
    Established cr self nowS out evidence := by
  obtain ⟨challenge, offer, proof, hhandshake, hpresent, hverified⟩ := H.exists_proof
  have hvalid := validateCredentials_eq_ok.mp H.validated
  refine ⟨⟨challenge, offer, proof, hhandshake, fun hcr => hhandshake.of_faithful hcr, hpresent,
    ?_⟩, validateFoundation_eq_ok.mp H.foundation, CedarPolicyEngine.allows_of_authorize H.allowed⟩
  have hverified := verifyPresentation_eq_ok.mp hverified
  refine List.forall₂_iff_zip.mpr ⟨hverified.length_eq, fun {credential verified} hmem => ?_⟩
  obtain ⟨claims, hclaims, heq⟩ := (List.forall₂_iff_zip.mp hverified).2 hmem
  exact ⟨claims, hclaims, heq, hvalid verified (List.of_mem_zip hmem).2⟩

/-- From every state a run can reach: an `establish_session` that fails leaves the engine without a
session, and after it every request and every redemption fails until a session is established; and
one that succeeds leaves a session that went through every check. -/
theorem establishSession_fails_closed (cr : Crates) (setup : EngineSetup) (calls : List (Call B))
    (nowS : Int64) (scenario : AccessScenario) :
    (∀ e s', establishSession cr nowS scenario (Host.after cr setup calls) = .error e s' →
      Closed s' ∧ ∀ more, (∀ e ∈ Run.history (step cr) s' more, opens e = false) →
        ∀ e ∈ Run.history (step cr) s' more, proceeds e = false) ∧
    ∀ out s', establishSession cr nowS scenario (Host.after cr setup calls) = .ok out s' →
      s'.engine.sessionId = some out.sessionId ∧
        Established cr setup nowS out s'.engine.verifiedCredentials := by
  constructor
  · intro e s' h
    have hclosed := establishSession_closed h
    exact ⟨hclosed, not_proceeds_of_sessionId_none hclosed.sessionId⟩
  · intro out s' h
    obtain ⟨s₁, -, hsession, -, -, rfl⟩ := establishSession_ok h
    rw [(reached cr setup calls).setup_eq] at hsession
    exact ⟨rfl, hsession.established⟩

/-- The simulation without random bytes. -/
def Simulation.unseeded : EngineSetup :=
  { setup protocolProfile with randomSource := fun _ => .error "entropy pool" }

theorem Simulation.not_established_unseeded : isOk (establishSession (B := FileReplayStateBackend)
    reference nowS .nominal (Host.after reference unseeded [])) = false := by
  decide +kernel

/-- The session of the simulation, and one without random bytes. -/
theorem establishSession_fails_closed_nominal :
    (∃ out s', establishSession reference Simulation.nowS .nominal (Simulation.after []) =
        .ok out s' ∧
      Established reference (Simulation.setup Simulation.protocolProfile) Simulation.nowS out
        s'.engine.verifiedCredentials) ∧
    ∃ e s', establishSession (B := FileReplayStateBackend) reference Simulation.nowS .nominal
        (Host.after reference Simulation.unseeded []) = .error e s' ∧ Closed s' := by
  obtain ⟨hestablished, -⟩ := Simulation.runs
  obtain ⟨out, s', h⟩ := Simulation.exists_of_isOk hestablished
  obtain ⟨e, t', h'⟩ := Simulation.exists_of_not_isOk Simulation.not_established_unseeded
  exact ⟨⟨out, s', h, ((establishSession_fails_closed reference _ [] _ _).2 out s' h).2⟩,
    e, t', h', ((establishSession_fails_closed reference _ [] _ _).1 e t' h').1⟩

end Access
