import Access.Verify.Session

/-! # Issuing and redeeming entitlements

What `request_transition` and `redeem_transition` do, for each way they can end. An approved
request is an `Issues`, a redemption an `AcceptedGrant` that satisfies `Accepts`. -/

namespace Access

open EStateM Host

/-! ## Transitions -/

theorem stage_of_transitionFor {state : DockingState} {requested : UInt8} {event : DockingEvent}
    {stage : AuthorizedStage} (h : transitionFor state requested = some (event, stage)) :
    requested.toNat = (stateNumber state).toNat + 1 ∧ requested.toNat ≤ 4 := by
  unfold transitionFor at h
  split at h <;> first | exact ⟨rfl, by decide⟩ | cases h

/-- The state machine goes to the requested state or nowhere. -/
theorem stateNumber_of_reduce {state state' : DockingState} {requested : UInt8}
    {event : DockingEvent} {stage : AuthorizedStage} {authorization : AuthorizationContext}
    (h : transitionFor state requested = some (event, stage))
    (hreduce : reduce state event authorization = .ok state') :
    stateNumber state' = requested := by
  unfold transitionFor at h
  split at h <;> cases h <;> simp only [reduce, reduceCtorEq, if_false] at hreduce
  · cases hreduce
    rfl
  all_goals
    split at hreduce <;> cases hreduce
    rfl

/-- The state machine cannot refuse a transition of an authorized session. -/
theorem reduce_of_transitionFor {state : DockingState} {requested : UInt8} {event : DockingEvent}
    {stage : AuthorizedStage} (h : transitionFor state requested = some (event, stage))
    {authorization : AuthorizationContext} (hidentity : authorization.identityVerified = true)
    (hsession : authorization.sessionAuthorized = true) :
    ∃ state', reduce state event (authorization.forStage stage) = .ok state' ∧
      stateNumber state' = requested := by
  unfold transitionFor at h
  split at h <;> cases h <;>
    simp [reduce, AuthorizationContext.forStage, hidentity, hsession, stateNumber]

/-! ## Requests -/

variable {cr : Crates} {self : EngineSetup} {s s' : Host B}

/-- What a request does that issues nothing: at most it leaves a fresh proof. -/
structure Refreshes (cr : Crates) (s s' : Host B) : Prop where
  kept : Keeps AccessEngine.sansProof (Grantless cr) s s'
  proof : s.engine.holderProofAtS.isSome → s'.engine.holderProofAtS.isSome

instance : Std.Refl (Refreshes (B := B) cr) := ⟨fun s => ⟨Std.Refl.refl s, id⟩⟩

instance : IsTrans (Host B) (Refreshes cr) where
  trans _ _ _ h₁ h₂ := ⟨IsTrans.trans _ _ _ h₁.kept h₂.kept, h₂.proof ∘ h₁.proof⟩

theorem Keeps.refreshes (H : Keeps AccessEngine.sansReplay (Grantless cr) s s') :
    Refreshes cr s s' where
  kept := H.map AccessEngine.sansProof
  proof h := (congrArg AccessEngine.holderProofAtS H.1 :) ▸ h

/-- What a fresh proof leaves of the engine, up to the replay caches. -/
theorem proved_of_keeps {P : Signing → Prop} {nowS : Int64}
    (H : Keeps AccessEngine.sansProof P s s') (h : s'.engine.holderProofAtS = some nowS) :
    s'.engine.sansReplay = (s.engine.proved nowS).sansReplay := by
  have : s'.engine.sansReplay =
      { s'.engine.sansProof with holderProofAtS := s'.engine.holderProofAtS } := rfl
  rw [this, H.1, h]
  rfl

theorem decideTransition_error {e : AccessEngine B} {sessionId fromStage toStage : String}
    {nowS : Int64} {readiness : ReadinessEvidence} {out : TransitionOutcome}
    (h : e.decideTransition cr sessionId fromStage toStage nowS readiness = .error out) :
    out.approved = false := by
  unfold AccessEngine.decideTransition at h
  dsimp only at h
  split at h
  · cases h
    rfl
  · split at h
    · cases h
      rfl
    · cases h

theorem decideTransition_ok {e : AccessEngine B} {sessionId fromStage toStage : String}
    {nowS : Int64} {readiness : ReadinessEvidence} {rule : ProtocolRuleDecision}
    {decision : AccessDecision}
    (h : e.decideTransition cr sessionId fromStage toStage nowS readiness = .ok (rule, decision)) :
    e.evaluate cr fromStage toStage nowS readiness = .ok rule ∧
      e.authorize cr rule nowS readiness = .ok decision := by
  unfold AccessEngine.decideTransition at h
  dsimp only at h
  split at h
  · cases h
  · split at h
    · cases h
    · cases h
      exact ⟨‹_›, ‹_›⟩

variable [ReplayStateBackend B]

theorem refreshProof_steps (sessionId : String) (nowS : Int64) :
    Steps (Refreshes (B := B) cr) (refreshProof cr self sessionId nowS) := by
  refine .bind (randomNonce_keeps.mono fun _ _ => Keeps.refreshes) fun challenge => ?_
  refine .bind ((exchangeOffer_keeps sessionId challenge nowS).mono fun _ _ => Keeps.refreshes)
    fun offer => ?_
  refine .bind ((exchangeProof_keeps sessionId challenge [] nowS).mono fun _ _ => Keeps.refreshes)
    fun proof => .bind (.failIf _ _) fun _ => ?_
  exact .modify fun s => ⟨⟨rfl, Std.Refl.refl s.world⟩, fun _ => rfl⟩

theorem refreshProof_ok {sessionId : String} {nowS : Int64} {u : Unit}
    (h : refreshProof cr self sessionId nowS s = .ok u s') :
    s'.engine.holderProofAtS = some nowS := by
  simp only [refreshProof, bind_eq_ok, failIf_eq_ok, assign_eq_ok] at h
  obtain ⟨_, _, -, _, _, -, _, _, -, _, _, ⟨-, rfl⟩, rfl⟩ := h
  rfl

/-- A grant that was issued: what it is for, and its signed envelope. -/
structure Issuance where
  sessionId : String
  grantId : String
  fromStage : String
  toStage : String
  stage : AuthorizedStage
  rule : ProtocolRuleDecision
  decision : AccessDecision
  nonce : Bytes
  encoded : Bytes

/-- The claims of the grant. -/
def Issuance.claims (i : Issuance) (self : EngineSetup) (nowS : Int64) : ProtocolClaims :=
  grantClaims self i.sessionId i.grantId i.stage nowS i.nonce i.rule i.decision

/-- What an approved request went through and did. -/
structure Issues (cr : Crates) (s : Host B) (requestedState : UInt8) (nowS : Int64)
    (readiness : ReadinessEvidence) (i : Issuance) (out : TransitionOutcome) (s' : Host B) :
    Prop where
  transition : ∃ event, transitionFor s.engine.state requestedState = some (event, i.stage)
  names : transitionNames s.engine.state requestedState = some (i.fromStage, i.toStage)
  session : s.engine.sessionId = some i.sessionId
  evaluated : (s.engine.proved nowS).evaluate cr i.fromStage i.toStage nowS readiness = .ok i.rule
  authorized : (s.engine.proved nowS).authorize cr i.rule nowS readiness = .ok i.decision
  nonce : minNonceBytes ≤ i.nonce.length
  signed : ∃ w, s.world.GrowsBy (Grantless cr) w ∧ signEnvelope cr
    (i.claims s.engine.toEngineSetup nowS) s.engine.station w = .ok i.encoded s'.world
  engine : s'.engine.sansReplay =
    { (s.engine.proved nowS).sansReplay with
      pendingEntitlements := s.engine.pendingEntitlements.insert i.grantId
        { requestedState, authorizationDecision := i.decision } }
  outcome : out = issuedOutcome s.engine i.sessionId i.grantId i.stage nowS i.rule i.decision
    i.encoded

theorem requestTransition_ok {requestedState : UInt8} {nowS : Int64}
    {readiness : ReadinessEvidence} {out : TransitionOutcome}
    (h : requestTransition cr requestedState nowS readiness s = .ok out s') :
    out.approved = false ∧ Refreshes cr s s' ∨
      ∃ i, Issues cr s requestedState nowS readiness i out s' := by
  simp only [requestTransition, bind_eq_ok, get_eq_ok, okOr_eq_ok, and_assoc, exists_and_left,
    exists_eq_left, Prod.exists] at h
  obtain ⟨event, stage, htransition, sessionId, hsession, _, s₁, hproof, fromStage, toStage, hnames,
    h⟩ := h
  have hkeeps := (refreshProof_steps sessionId nowS).ok hproof
  have hengine := proved_of_keeps hkeeps.kept (refreshProof_ok hproof)
  cases hdecide : s₁.engine.decideTransition cr sessionId fromStage toStage nowS readiness with
  | error denial =>
    simp only [hdecide, pure_eq_ok] at h
    obtain ⟨rfl, rfl⟩ := h
    exact .inl ⟨decideTransition_error hdecide, hkeeps⟩
  | ok verdict =>
    obtain ⟨rule, decision⟩ := verdict
    simp only [hdecide, issueGrant, bind_eq_ok, Part.run_eq_ok, assign_eq_ok, pure_eq_ok] at h
    obtain ⟨b, s₂, hgrant, nonce, s₃, hnonce, encoded, _, ⟨w, hsign, rfl⟩, _, _, rfl, rfl, rfl⟩ := h
    obtain ⟨hevaluate, hauthorize⟩ := decideTransition_ok hdecide
    have hsigned : Keeps id (Grantless cr) s₁ s₃ := IsTrans.trans _ _ _
      (randomNonce_keeps.ok hgrant) (randomNonce_keeps.ok hnonce)
    have hsetup : s₁.engine.toEngineSetup = s.engine.toEngineSetup :=
      (congrArg AccessEngine.toEngineSetup hengine :)
    have hstate : s₁.engine.state = s.engine.state := (congrArg AccessEngine.state hengine :)
    have hsame : s₃.engine = s₁.engine := hsigned.1
    have hpending : s₃.engine.pendingEntitlements = s.engine.pendingEntitlements :=
      hsame ▸ (congrArg AccessEngine.pendingEntitlements hengine :)
    refine .inr ⟨⟨sessionId, "grant-" ++ Hex.encode b, fromStage, toStage, stage, rule, decision,
        nonce, encoded⟩,
      ⟨event, htransition⟩, hstate ▸ hnames, hsession, ?_, ?_, randomNonce_length hnonce,
      ⟨s₃.world, ?_, ?_⟩, ?_, ?_⟩
    · rw [← hevaluate]
      exact (congrArg (fun e => AccessEngine.evaluate cr e fromStage toStage nowS readiness)
        hengine.symm :)
    · rw [← hauthorize]
      exact (congrArg (fun e => AccessEngine.authorize cr e rule nowS readiness) hengine.symm :)
    · exact IsTrans.trans _ _ _ hkeeps.kept.2 hsigned.2
    · rw [hsetup] at hsign
      exact hsign
    · rw [← hengine, ← hpending, ← hsame]
      rfl
    · simp only [issuedOutcome, hsetup, hstate]

omit [ReplayStateBackend B] in
/-- A grant that is not issued is not signed either. -/
theorem issueGrant_error {e : AccessEngine B} {sessionId : String} {stage : AuthorizedStage}
    {requestedState : UInt8} {nowS : Int64} {rule : ProtocolRuleDecision}
    {decision : AccessDecision} {error : SessionError}
    (h : issueGrant cr e sessionId stage requestedState nowS rule decision s = .error error s') :
    Refreshes cr s s' := by
  refine Keeps.refreshes ?_
  simp only [issueGrant, bind_eq_error, Part.run_eq_error, assign_eq_error, pure_eq_error,
    and_false, exists_false, or_false] at h
  rcases h with h | ⟨_, s₁, hgrant, h | ⟨_, s₂, hnonce, _, w, hsign, -, rfl⟩⟩
  · exact randomNonce_keeps.error h
  · exact IsTrans.trans _ _ _ (randomNonce_keeps.ok hgrant) (randomNonce_keeps.error h)
  · refine IsTrans.trans _ _ _ (randomNonce_keeps.ok hgrant)
      (IsTrans.trans _ _ _ (randomNonce_keeps.ok hnonce) ⟨rfl, fun g hg => .inl ?_⟩)
    exact signEnvelope_error hsign ▸ hg

/-- A request that fails has issued nothing. -/
theorem requestTransition_error {requestedState : UInt8} {nowS : Int64}
    {readiness : ReadinessEvidence} {e : SessionError}
    (h : requestTransition cr requestedState nowS readiness s = .error e s') :
    Refreshes cr s s' := by
  simp only [requestTransition, bind_eq_error, get_eq_error, get_eq_ok, okOr_eq_error, okOr_eq_ok,
    false_or, and_assoc, exists_and_left, exists_eq_left, Prod.exists] at h
  obtain ⟨-, -, rfl⟩ | ⟨event, stage, -, ⟨-, -, rfl⟩ | ⟨sessionId, -, hproof |
    ⟨_, s₁, hproof, ⟨-, -, rfl⟩ | ⟨fromStage, toStage, -, h⟩⟩⟩⟩ := h
  · exact Std.Refl.refl _
  · exact Std.Refl.refl _
  · exact (refreshProof_steps sessionId nowS).error hproof
  · exact (refreshProof_steps sessionId nowS).ok hproof
  · refine IsTrans.trans _ _ _ ((refreshProof_steps sessionId nowS).ok hproof) ?_
    cases hdecide : s₁.engine.decideTransition cr sessionId fromStage toStage nowS readiness with
    | error denial => simp only [hdecide, pure_eq_error] at h
    | ok verdict =>
      simp only [hdecide] at h
      exact issueGrant_error h

/-! ## Redemptions -/

/-- The engine without what a redemption that is refused changes. -/
def AccessEngine.sansRedemption (e : AccessEngine B) : AccessEngine B :=
  { e with gateReplay := {}, pendingEntitlements := ∅, consumedGrants := {} }

/-- What a redemption that is refused does: it may lose a pending entitlement. -/
structure Refuses (s s' : Host B) : Prop where
  world : s'.world = s.world
  engine : s'.engine.sansRedemption = s.engine.sansRedemption
  pending : ∀ g p, s'.engine.pendingEntitlements.lookup g = some p →
    s.engine.pendingEntitlements.lookup g = some p
  consumed : s'.engine.consumedGrants.consumed = s.engine.consumedGrants.consumed

omit [ReplayStateBackend B] in
instance : Std.Refl (Refuses (B := B)) := ⟨fun _ => ⟨rfl, rfl, fun _ _ h => h, rfl⟩⟩

omit [ReplayStateBackend B] in
instance : IsTrans (Host B) Refuses where
  trans _ _ _ h₁ h₂ := ⟨h₂.world.trans h₁.world, h₂.engine.trans h₁.engine,
    fun g p h => h₁.pending g p (h₂.pending g p h), h₂.consumed.trans h₁.consumed⟩

omit [ReplayStateBackend B] in
theorem lookup_of_lookup_erase {pending : Finmap fun _ : String => PendingEntitlement}
    {grantId g : String} {p : PendingEntitlement}
    (h : (pending.erase grantId).lookup g = some p) : pending.lookup g = some p := by
  by_cases hg : g = grantId
  · rw [hg, Finmap.lookup_erase] at h
    cases h
  · rwa [Finmap.lookup_erase_ne hg] at h

omit [ReplayStateBackend B] in
theorem takePending_steps (grantId : String) : Steps (Refuses (B := B)) (takePending grantId) := by
  refine .bind .get fun s => .bind (.okOr _ _) fun pending => .bind (.modify fun s => ?_) fun _ =>
    .pure _
  exact ⟨rfl, rfl, fun g p h => lookup_of_lookup_erase h, rfl⟩

theorem acceptGrant_steps (signedGrantHex : String) (requestedState : UInt8) (nowS : Int64)
    (readiness : ReadinessEvidence) :
    Steps (Refuses (B := B)) (acceptGrant cr signedGrantHex requestedState nowS readiness) := by
  have hany {x : EStateM ProtocolError (ReplayCache B) VerifiedEnvelope} :
      Steps (fun _ _ => True) x := fun _ => trivial
  refine .bind .get fun s => .bind (.okOr _ _) fun _ => .bind (.okOr _ _) fun _ =>
    .bind (.ofExcept _ _) fun _ => .bind (.run hany fun s _ _ => ⟨rfl, rfl, fun _ _ h => h, rfl⟩)
    fun _ => .bind (.okOr _ _) fun _ => .bind (takePending_steps _) fun _ => ?_
  exact .bind (.failIf _ _) fun _ => .bind (.okOr _ _) fun _ => .bind (.ofExcept _ _) fun _ =>
    .bind (.failIf _ _) fun _ => .pure _

/-- What a presented grant that is accepted went through. -/
structure Accepts (cr : Crates) (s : Host B) (signedGrantHex : String) (requestedState : UInt8)
    (nowS : Int64) (readiness : ReadinessEvidence) (a : AcceptedGrant) : Prop where
  transition : transitionFor s.engine.state requestedState = some (a.eventKind, a.stage)
  session : s.engine.sessionId = some a.sessionId
  presented : ∃ encoded, Hex.decode signedGrantHex.asBytes = .ok encoded ∧
    EnvelopeVerified cr encoded s.engine.gateTrust s.engine.chaser.keyId nowS maxClockSkewS a.grant
  grantId : a.grant.claims.grantId = some a.grantId
  pending : s.engine.pendingEntitlements.lookup a.grantId = some a.pending
  usable : ¬GrantUnusable a.grant.claims a.pending requestedState a.sessionId a.stage nowS
  evaluated : ∃ fromStage toStage,
    transitionNames s.engine.state requestedState = some (fromStage, toStage) ∧
      s.engine.evaluate cr fromStage toStage nowS readiness = .ok a.rule
  provenanced : ¬GrantUnprovenanced a.grant.claims a.pending a.rule

omit [ReplayStateBackend B] in
theorem takePending_eq_ok {grantId : String} {pending : PendingEntitlement} :
    takePending grantId s = .ok pending s' ↔
      s.engine.pendingEntitlements.lookup grantId = some pending ∧
        s' = { s with engine := { s.engine with
          pendingEntitlements := s.engine.pendingEntitlements.erase grantId } } := by
  simp only [takePending, bind_eq_ok, get_eq_ok, okOr_eq_ok, assign_eq_ok, pure_eq_ok, and_assoc,
    exists_and_left, exists_eq_left, exists_const]
  constructor
  · rintro ⟨_, h, rfl, rfl⟩
    exact ⟨h, rfl⟩
  · rintro ⟨h, rfl⟩
    exact ⟨pending, h, rfl, rfl⟩

theorem acceptGrant_eq_ok {signedGrantHex : String} {requestedState : UInt8} {nowS : Int64}
    {readiness : ReadinessEvidence} {a : AcceptedGrant} :
    acceptGrant cr signedGrantHex requestedState nowS readiness s = .ok a s' ↔
      Accepts cr s signedGrantHex requestedState nowS readiness a ∧ ∃ gateReplay,
        ReplayCache.consume a.grant.claims.nonce s.engine.gateReplay = .ok () gateReplay ∧
        s' = { s with engine := { s.engine with
          gateReplay, pendingEntitlements := s.engine.pendingEntitlements.erase a.grantId } } := by
  simp only [acceptGrant, bind_eq_ok, get_eq_ok, okOr_eq_ok, ofExcept_eq_ok, failIf_eq_ok,
    pure_eq_ok, Part.run_eq_ok, verifyEnvelope_eq_ok, takePending_eq_ok, and_assoc,
    exists_and_left, exists_eq_left, exists_const, Prod.exists]
  constructor
  · rintro ⟨event, stage, htransition, sessionId, hsession, encoded, hdecode, grant, hgrant, _,
      ⟨gateReplay, hconsume, rfl⟩, grantId, hid, pending, hpending, husable, fromStage, toStage,
      hnames, rule, hevaluate, hprovenanced, rfl, rfl⟩
    exact ⟨⟨htransition, hsession, ⟨encoded, hdecode, hgrant⟩, hid, hpending, husable,
      ⟨fromStage, toStage, hnames, hevaluate⟩, hprovenanced⟩, gateReplay, hconsume, rfl⟩
  · rintro ⟨⟨htransition, hsession, ⟨encoded, hdecode, hgrant⟩, hid, hpending, husable,
      ⟨fromStage, toStage, hnames, hevaluate⟩, hprovenanced⟩, gateReplay, hconsume, rfl⟩
    exact ⟨_, _, htransition, _, hsession, encoded, hdecode, _, hgrant, _,
      ⟨gateReplay, hconsume, rfl⟩, _, hid, _, hpending, husable, fromStage, toStage, hnames, _,
      hevaluate, hprovenanced, rfl, rfl⟩

theorem acceptGrant_ok {signedGrantHex : String} {requestedState : UInt8} {nowS : Int64}
    {readiness : ReadinessEvidence} {a : AcceptedGrant}
    (h : acceptGrant cr signedGrantHex requestedState nowS readiness s = .ok a s') :
    Accepts cr s signedGrantHex requestedState nowS readiness a ∧
      ∃ gateReplay, s' = { s with engine := { s.engine with
        gateReplay, pendingEntitlements := s.engine.pendingEntitlements.erase a.grantId } } := by
  obtain ⟨haccepts, gateReplay, -, hs'⟩ := acceptGrant_eq_ok.mp h
  exact ⟨haccepts, gateReplay, hs'⟩

/-- What a redemption went through and did. -/
structure Redeems (cr : Crates) (s : Host B) (signedGrantHex : String) (requestedState : UInt8)
    (nowS : Int64) (readiness : ReadinessEvidence) (a : AcceptedGrant) (out : TransitionOutcome)
    (s' : Host B) : Prop where
  accepts : Accepts cr s signedGrantHex requestedState nowS readiness a
  reduced : reduce s.engine.state a.eventKind (s.engine.authorization.forStage a.stage) =
    .ok s'.engine.state
  fresh : a.grantId.asBytes ∉ s.engine.consumedGrants.consumed
  consumed : s'.engine.consumedGrants.consumed =
    insert a.grantId.asBytes s.engine.consumedGrants.consumed
  engine : s'.engine.sansRedemption =
    { s.engine.sansRedemption with state := s'.engine.state }
  pending : s'.engine.pendingEntitlements = s.engine.pendingEntitlements.erase a.grantId
  world : s'.world = s.world
  outcome : out = a.outcome s.engine.toEngineSetup signedGrantHex (stateNumber s.engine.state)
    (stateNumber s'.engine.state)

theorem redeemTransition_ok {signedGrantHex : String} {requestedState : UInt8} {nowS : Int64}
    {readiness : ReadinessEvidence} {out : TransitionOutcome}
    (h : redeemTransition cr signedGrantHex requestedState nowS readiness s = .ok out s') :
    ∃ a, Redeems cr s signedGrantHex requestedState nowS readiness a out s' := by
  simp only [redeemTransition, bind_eq_ok, get_eq_ok, ofExcept_eq_ok, assign_eq_ok, pure_eq_ok,
    Part.run_eq_ok, and_assoc, exists_and_left, exists_eq_left, exists_const] at h
  obtain ⟨a, s₁, haccept, _, _, ⟨grants, hconsume, rfl⟩, state, hreduce, rfl, rfl⟩ := h
  obtain ⟨haccepts, gateReplay, rfl⟩ := acceptGrant_ok haccept
  obtain ⟨hfresh, _, -, rfl⟩ := ReplayCache.consume_eq_ok.mp hconsume
  exact ⟨a, haccepts, hreduce, hfresh, rfl, rfl, rfl, rfl, rfl⟩

/-- A session that is open was authorized, and its holder identified. -/
def SessionSound (e : AccessEngine B) : Prop :=
  ∀ id, e.sessionId = some id → e.authorization.identityVerified = true ∧
    e.authorization.sessionAuthorized = true ∧ e.holderProofAtS.isSome

/-- The session an engine has, and what it was authorized for. -/
def AccessEngine.standing (e : AccessEngine B) : Option String × AuthorizationContext :=
  (e.sessionId, e.authorization)

omit [ReplayStateBackend B] in
theorem SessionSound.of_eq {e e' : AccessEngine B} (H : SessionSound e)
    (h : e'.standing = e.standing) (hproof : e.holderProofAtS.isSome → e'.holderProofAtS.isSome) :
    SessionSound e' := by
  intro id hid
  obtain ⟨hsession, hauthorization⟩ := Prod.mk.inj h
  obtain ⟨h₁, h₂, h₃⟩ := H id (hsession ▸ hid)
  exact ⟨hauthorization ▸ h₁, hauthorization ▸ h₂, hproof h₃⟩

/-- A grant that passes every check is redeemed, if its nonce and its identifier can be consumed. -/
theorem redeemTransition_of_accepts (H : SessionSound s.engine) {signedGrantHex : String}
    {requestedState : UInt8} {nowS : Int64} {readiness : ReadinessEvidence} {a : AcceptedGrant}
    (haccepts : Accepts cr s signedGrantHex requestedState nowS readiness a)
    (hnonce : ∃ cache, ReplayCache.consume a.grant.claims.nonce s.engine.gateReplay = .ok () cache)
    (hgrant : ∃ cache,
      ReplayCache.consume a.grantId.asBytes s.engine.consumedGrants = .ok () cache) :
    ∃ out s', redeemTransition cr signedGrantHex requestedState nowS readiness s = .ok out s' := by
  obtain ⟨gateReplay, hnonce⟩ := hnonce
  obtain ⟨grants, hgrant⟩ := hgrant
  obtain ⟨hidentity, hsession, -⟩ := H _ haccepts.session
  obtain ⟨state, hreduce, -⟩ := reduce_of_transitionFor haccepts.transition hidentity hsession
  have haccept := acceptGrant_eq_ok.mpr ⟨haccepts, gateReplay, hnonce, rfl⟩
  simp only [redeemTransition, bind_eq_ok, get_eq_ok, ofExcept_eq_ok, assign_eq_ok, pure_eq_ok,
    Part.run_eq_ok, and_assoc, exists_and_left, exists_eq_left, exists_const]
  exact ⟨_, _, a, _, haccept, (), _, ⟨grants, hgrant, rfl⟩, state, hreduce, rfl, rfl⟩

/-- A redemption that fails consumes nothing: once the grant is consumed, the state machine accepts
the transition. -/
theorem redeemTransition_error (H : SessionSound s.engine) {signedGrantHex : String}
    {requestedState : UInt8} {nowS : Int64} {readiness : ReadinessEvidence} {e : SessionError}
    (h : redeemTransition cr signedGrantHex requestedState nowS readiness s = .error e s') :
    Refuses s s' := by
  simp only [redeemTransition, bind_eq_error, get_eq_error, get_eq_ok, ofExcept_eq_error,
    assign_eq_error, pure_eq_error, Part.run_eq_error, Part.run_eq_ok, and_false, exists_false,
    or_false, false_or, and_assoc, exists_and_left, exists_eq_left] at h
  rcases h with haccept | ⟨a, s₁, haccept, h⟩
  · exact Steps.error (acceptGrant_steps _ _ _ _) haccept
  have hrefuses : Refuses s s₁ := Steps.ok (acceptGrant_steps _ _ _ _) haccept
  rcases h with ⟨_, grants, hconsume, -, rfl⟩ | ⟨_, _, -, _, hreduce, -⟩
  · exact IsTrans.trans _ _ _ hrefuses
      ⟨rfl, rfl, fun _ _ h => h, ReplayCache.consume_error_consumed hconsume⟩
  · obtain ⟨haccepts, -⟩ := acceptGrant_ok haccept
    obtain ⟨hidentity, hsession, -⟩ := H _ haccepts.session
    obtain ⟨state, hok, -⟩ := reduce_of_transitionFor haccepts.transition hidentity hsession
    rw [hok] at hreduce
    cases hreduce

end Access
