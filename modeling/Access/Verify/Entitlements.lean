import Access.Verify.StageOrder

/-! # What is behind an entitlement

Every pending entitlement is backed by an approved request of the session (`Backed`), and every
grant that was signed is the grant of an approved request (`Logged`). -/

namespace Access

open EStateM

/-- What a session is decided on: its engine, its identifier, its authorization and its
credentials. -/
def AccessEngine.session (e : AccessEngine B) : EngineSetup × Option String ×
    AuthorizationContext × List VerifiedCredentialEvidence :=
  (e.toEngineSetup, e.sessionId, e.authorization, e.verifiedCredentials)

/-- A request that approved a grant. -/
def approves (g : String) (e : Event B) : Bool := (approval e).bind (·.grantId) = some g

/-- The event of an approved request, with what was issued. -/
structure IssuedBy (cr : Crates) (e : Event B) (requestedState : UInt8) (nowS : Int64)
    (readiness : ReadinessEvidence) (i : Issuance) (out : TransitionOutcome) : Prop where
  call : e.call = .requestTransition requestedState nowS readiness
  reply : e.reply = .issued (.ok out)
  approved : out.approved = true
  issues : Issues cr e.before requestedState nowS readiness i out e.after

/-- The entitlement that is pending for a grant is that of the latest request that approved the
grant, and the session is still the one of that request. -/
structure BackedBy (cr : Crates) (es : List (Event B)) (s : Host B) (g : String)
    (p : PendingEntitlement) : Prop where
  exists_request : ∃ e nowS readiness i out, es.find? (approves g) = some e ∧
    IssuedBy cr e p.requestedState nowS readiness i out ∧ i.grantId = g ∧
    p.authorizationDecision = i.decision ∧ e.before.engine.session = s.engine.session

def Backed (cr : Crates) (es : List (Event B)) (s : Host B) : Prop :=
  ∀ g p, s.engine.pendingEntitlements.lookup g = some p → BackedBy cr es s g p

/-- What was signed is no grant, or the grant of an approved request. -/
def Logged (cr : Crates) (es : List (Event B)) (s : Host B) : Prop :=
  ∀ sig ∈ s.world.signings, Grantless cr sig ∨
    ∃ e ∈ es, ∃ requestedState nowS readiness i out,
      IssuedBy cr e requestedState nowS readiness i out ∧
      sig.MadeFrom cr (i.claims e.before.engine.toEngineSetup nowS) e.before.engine.station

variable {cr : Crates} {es : List (Event B)} {s s' : Host B} {c : Call B} {r : Reply}

/-- Only establishing a session changes what it is decided on. -/
theorem Happens.session_eq (H : Happens cr s c r s')
    (h : establishes ⟨s, c, r, s'⟩ = false) : s'.engine.session = s.engine.session := by
  cases H with
  | established | notEstablished => cases h
  | issued _ _ _ issues => exact (congrArg AccessEngine.session issues.engine :)
  | withheld _ _ _ _ refreshes | notIssued _ _ _ refreshes =>
    exact (congrArg AccessEngine.session refreshes.kept.1 :)
  | redeemed _ _ _ _ redeems => exact (congrArg AccessEngine.session redeems.engine :)
  | refused _ _ _ _ refuses => exact (congrArg AccessEngine.session refuses.engine :)
  | enabled _ _ kept | replaced _ _ _ _ _ kept => exact (congrArg AccessEngine.session kept :)

theorem BackedBy.cons {g : String} {p : PendingEntitlement} (H : BackedBy cr es s g p)
    {e : Event B} (happroves : approves g e = false)
    (hsession : s'.engine.session = s.engine.session) : BackedBy cr (e :: es) s' g p := by
  obtain ⟨e', nowS, readiness, i, out, hfind, hissued, hgrant, hdecision, hsame⟩ :=
    H.exists_request
  refine ⟨e', nowS, readiness, i, out, ?_, hissued, hgrant, hdecision, hsame.trans hsession.symm⟩
  rw [List.find?_cons, happroves]
  exact hfind

/-- A step that approves nothing, keeps the session, and makes nothing pending. -/
theorem Backed.quiet (H : Backed cr es s) {e : Event B} (happroval : approval e = none)
    (hsession : s'.engine.session = s.engine.session)
    (hpending : ∀ g p, s'.engine.pendingEntitlements.lookup g = some p →
      s.engine.pendingEntitlements.lookup g = some p) : Backed cr (e :: es) s' := by
  intro g p hp
  refine (H g p (hpending g p hp)).cons ?_ hsession
  simp [approves, happroval]

theorem Backed.start {e : Event B} (hpending : s'.engine.pendingEntitlements = ∅) :
    Backed cr (e :: es) s' := by
  intro g p hp
  rw [hpending, Finmap.lookup_empty] at hp
  cases hp

/-- An approved request makes its own entitlement pending. -/
theorem Backed.issue (H : Backed cr es s) {requestedState : UInt8} {nowS : Int64}
    {readiness : ReadinessEvidence} {i : Issuance} {out : TransitionOutcome}
    (issues : Issues cr s requestedState nowS readiness i out s') :
    Backed cr (⟨s, .requestTransition requestedState nowS readiness, .issued (.ok out), s'⟩ :: es)
      s' := by
  have hsession : s'.engine.session = s.engine.session :=
    (congrArg AccessEngine.session issues.engine :)
  have hpending : s'.engine.pendingEntitlements = s.engine.pendingEntitlements.insert i.grantId
      { requestedState, authorizationDecision := i.decision } :=
    (congrArg AccessEngine.pendingEntitlements issues.engine :)
  have happroved : out.approved = true := by rw [issues.outcome]; rfl
  have hgrant : out.grantId = some i.grantId := by rw [issues.outcome]; rfl
  have happroves (g : String) : approves g ⟨s, .requestTransition requestedState nowS readiness,
      .issued (.ok out), s'⟩ = decide (i.grantId = g) := by
    simp [approves, approval, happroved, hgrant]
  intro g p hp
  rw [hpending] at hp
  by_cases hg : g = i.grantId
  · subst hg
    rw [Finmap.lookup_insert] at hp
    cases hp
    refine ⟨⟨s, .requestTransition requestedState nowS readiness, .issued (.ok out), s'⟩, nowS,
      readiness, i, out, ?_, ⟨rfl, rfl, happroved, issues⟩, rfl, rfl, hsession.symm⟩
    rw [List.find?_cons, happroves, decide_eq_true rfl]
  · rw [Finmap.lookup_insert_of_ne _ hg] at hp
    refine (H g p hp).cons ?_ hsession
    rw [happroves]
    exact decide_eq_false (Ne.symm hg)

/-- One step. -/
theorem Happens.backed (H : Happens cr s c r s') (hs : Backed cr es s) :
    Backed cr (⟨s, c, r, s'⟩ :: es) s' := by
  cases H with
  | established _ _ kept =>
    exact .start (congrArg AccessEngine.pendingEntitlements kept.1 :)
  | notEstablished _ _ kept =>
    exact .start (congrArg AccessEngine.pendingEntitlements kept.1 :)
  | issued _ _ _ issues => exact hs.issue issues
  | withheld _ _ _ denied refreshes =>
    refine hs.quiet (by simp [approval, denied]) (congrArg AccessEngine.session refreshes.kept.1 :) ?_
    exact (congrArg AccessEngine.pendingEntitlements refreshes.kept.1 :) ▸ fun _ _ h => h
  | notIssued _ _ _ refreshes =>
    refine hs.quiet rfl (congrArg AccessEngine.session refreshes.kept.1 :) ?_
    exact (congrArg AccessEngine.pendingEntitlements refreshes.kept.1 :) ▸ fun _ _ h => h
  | redeemed _ _ _ _ redeems =>
    refine hs.quiet rfl (congrArg AccessEngine.session redeems.engine :) fun g p hp => ?_
    rw [redeems.pending] at hp
    exact lookup_of_lookup_erase hp
  | refused _ _ _ _ refuses =>
    exact hs.quiet rfl (congrArg AccessEngine.session refuses.engine :) refuses.pending
  | enabled _ _ kept | replaced _ _ _ _ _ kept =>
    refine hs.quiet rfl (congrArg AccessEngine.session kept :) ?_
    exact (congrArg AccessEngine.pendingEntitlements kept :) ▸ fun _ _ h => h

theorem Logged.grows (H : Logged cr es s) {e : Event B}
    (h : s.world.GrowsBy (Grantless cr) s'.world) : Logged cr (e :: es) s' := by
  intro sig hsig
  rcases h sig hsig with hbefore | hgrantless
  · refine (H sig hbefore).imp_right fun ⟨e', he', h⟩ => ⟨e', .tail _ he', h⟩
  · exact .inl hgrantless

/-- An approved request signs its own grant. -/
theorem Logged.issue (H : Logged cr es s) {requestedState : UInt8} {nowS : Int64}
    {readiness : ReadinessEvidence} {i : Issuance} {out : TransitionOutcome}
    (issues : Issues cr s requestedState nowS readiness i out s') :
    Logged cr (⟨s, .requestTransition requestedState nowS readiness, .issued (.ok out), s'⟩ :: es)
      s' := by
  obtain ⟨w, hgrows, hsign⟩ := issues.signed
  intro sig hsig
  rcases (signEnvelope_steps _ _).ok hsign sig hsig with hsig | hmade
  · refine ((hgrows sig hsig).elim (H sig) .inl).imp_right fun ⟨e', he', h⟩ => ⟨e', .tail _ he', h⟩
  · exact .inr ⟨_, .head _, requestedState, nowS, readiness, i, out,
      ⟨rfl, rfl, by rw [issues.outcome]; rfl, issues⟩, hmade⟩

theorem Happens.logged (H : Happens cr s c r s') (hs : Logged cr es s) :
    Logged cr (⟨s, c, r, s'⟩ :: es) s' := by
  cases H with
  | established _ _ kept => exact hs.grows kept.2
  | notEstablished _ _ kept => exact hs.grows kept.2
  | issued _ _ _ issues => exact hs.issue issues
  | withheld _ _ _ _ refreshes | notIssued _ _ _ refreshes => exact hs.grows refreshes.kept.2
  | redeemed _ _ _ _ redeems => exact hs.grows fun sig hsig => .inl (redeems.world ▸ hsig)
  | refused _ _ _ _ refuses => exact hs.grows fun sig hsig => .inl (refuses.world ▸ hsig)
  | enabled _ world | replaced _ _ _ _ world =>
    exact hs.grows fun sig hsig => .inl (world ▸ hsig)

variable [ReplayStateBackend B]

theorem backed (cr : Crates) (setup : EngineSetup) (calls : List (Call B)) :
    Backed cr (history cr setup calls) (Host.after cr setup calls) ∧
      Logged cr (history cr setup calls) (Host.after cr setup calls) := by
  have H := Run.invariant (step cr) (Host.new setup)
    (I := fun es s => SessionSound s.engine ∧ Backed cr es s ∧ Logged cr es s)
    ⟨nofun, fun g p hp => ?_, fun sig hsig => absurd hsig List.not_mem_nil⟩
    (fun es s c ih => ?_) calls
  · exact H.2
  · rw [show (Host.new setup : Host B).engine.pendingEntitlements = ∅ from rfl,
      Finmap.lookup_empty] at hp
    cases hp
  · obtain ⟨hsound, hbacked, hlogged⟩ := ih
    have hstep := step_happens cr hsound c
    exact ⟨hstep.sound hsound, hstep.backed hbacked, hstep.logged hlogged⟩

end Access
