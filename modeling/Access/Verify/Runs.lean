import Access.Runs
import Access.Verify.Transitions

/-! # What a call can do

`Happens` lists the ways a call can end, with everything it may change. Every step of a run is one of
them (`step_happens`), as long as an open session was authorized; and each of them keeps it so
(`Happens.sound`), hence both hold along every run (`reached`). -/

namespace Access

open EStateM

/-- The engine without its replay caches. -/
def AccessEngine.sansCaches (e : AccessEngine B) : AccessEngine B :=
  { e with stationReplay := {}, chaserReplay := {}, gateReplay := {}, consumedGrants := {} }

inductive Happens (cr : Crates) (s : Host B) : Call B → Reply → Host B → Prop where
  | established (nowS scenario) {out : SessionOutcome} {s₁ : Host B}
    (kept : Keeps AccessEngine.sansFacts (Grantless cr) (s.resetFor scenario) s₁)
    (session : SessionAuthorized cr s.engine.toEngineSetup out.sessionId nowS
      out.authorizationDecision s₁.engine.verifiedCredentials)
    (identity : s₁.engine.authorization.identityVerified = true)
    (proof : s₁.engine.holderProofAtS = some nowS) :
    Happens cr s (.establishSession nowS scenario) (.session (.ok out))
      { s₁ with engine := s₁.engine.withSession out.sessionId }
  | notEstablished (nowS scenario) {e : SessionError} {s' : Host B}
    (kept : Keeps AccessEngine.sansFacts (Grantless cr) (s.resetFor scenario) s') :
    Happens cr s (.establishSession nowS scenario) (.session (.error e)) s'
  | issued (requestedState nowS readiness) {i : Issuance} {out : TransitionOutcome} {s' : Host B}
    (issues : Issues cr s requestedState nowS readiness i out s') :
    Happens cr s (.requestTransition requestedState nowS readiness) (.issued (.ok out)) s'
  | withheld (requestedState nowS readiness) {out : TransitionOutcome} {s' : Host B}
    (denied : out.approved = false) (refreshes : Refreshes cr s s') :
    Happens cr s (.requestTransition requestedState nowS readiness) (.issued (.ok out)) s'
  | notIssued (requestedState nowS readiness) {e : SessionError} {s' : Host B}
    (refreshes : Refreshes cr s s') :
    Happens cr s (.requestTransition requestedState nowS readiness) (.issued (.error e)) s'
  | redeemed (signedGrantHex requestedState nowS readiness) {a : AcceptedGrant}
    {out : TransitionOutcome} {s' : Host B}
    (redeems : Redeems cr s signedGrantHex requestedState nowS readiness a out s') :
    Happens cr s (.redeemTransition signedGrantHex requestedState nowS readiness)
      (.redeemed (.ok out)) s'
  | refused (signedGrantHex requestedState nowS readiness) {e : SessionError} {s' : Host B}
    (refuses : Refuses s s') :
    Happens cr s (.redeemTransition signedGrantHex requestedState nowS readiness)
      (.redeemed (.error e)) s'
  | enabled (openFile) {r : Except SessionError Unit} {s' : Host B} (world : s'.world = s.world)
    (kept : s'.engine.sansCaches = s.engine.sansCaches) :
    Happens cr s (.enablePersistentState openFile) (.replayState r) s'
  | replaced (stationReplay chaserReplay gateReplay consumedGrants)
    {r : Except SessionError Unit} {s' : Host B} (world : s'.world = s.world)
    (kept : s'.engine.sansCaches = s.engine.sansCaches) :
    Happens cr s (.setReplayState stationReplay chaserReplay gateReplay consumedGrants)
      (.replayState r) s'

variable [ReplayStateBackend B] {cr : Crates} {setup : EngineSetup} {s : Host B}

theorem enablePersistentState_steps (openFile : String → Except String B) :
    Steps (fun s s' : Host B => s'.world = s.world ∧ s'.engine.sansCaches = s.engine.sansCaches)
      (enablePersistentState openFile) := by
  have : Std.Refl fun s s' : Host B =>
      s'.world = s.world ∧ s'.engine.sansCaches = s.engine.sansCaches := ⟨fun _ => ⟨rfl, rfl⟩⟩
  have : IsTrans (Host B) fun s s' =>
      s'.world = s.world ∧ s'.engine.sansCaches = s.engine.sansCaches :=
    ⟨fun _ _ _ h₁ h₂ => ⟨h₂.1.trans h₁.1, h₂.2.trans h₁.2⟩⟩
  refine .bind (.ofExcept _ _) fun _ => .bind (.modify fun _ => ⟨rfl, rfl⟩) fun _ => ?_
  refine .bind (.ofExcept _ _) fun _ => .bind (.modify fun _ => ⟨rfl, rfl⟩) fun _ => ?_
  refine .bind (.ofExcept _ _) fun _ => .bind (.modify fun _ => ⟨rfl, rfl⟩) fun _ => ?_
  exact .bind (.ofExcept _ _) fun _ => .modify fun _ => ⟨rfl, rfl⟩

theorem step_happens (cr : Crates) (H : SessionSound s.engine) (c : Call B) :
    Happens cr s c (step cr s c).1 (step cr s c).2 := by
  cases c with
  | establishSession nowS scenario =>
    simp only [step, answer]
    cases h : establishSession cr nowS scenario s with
    | ok out s' =>
      obtain ⟨s₁, hkept, hsession, hidentity, hproof, rfl⟩ := establishSession_ok h
      exact .established nowS scenario hkept hsession hidentity hproof
    | error e s' => exact .notEstablished nowS scenario (establishSession_error h)
  | requestTransition requestedState nowS readiness =>
    simp only [step, answer]
    cases h : requestTransition cr requestedState nowS readiness s with
    | ok out s' =>
      rcases requestTransition_ok h with ⟨hdenied, hkept⟩ | ⟨i, hissues⟩
      · exact .withheld requestedState nowS readiness hdenied hkept
      · exact .issued requestedState nowS readiness hissues
    | error e s' => exact .notIssued requestedState nowS readiness (requestTransition_error h)
  | redeemTransition signedGrantHex requestedState nowS readiness =>
    simp only [step, answer]
    cases h : redeemTransition cr signedGrantHex requestedState nowS readiness s with
    | ok out s' =>
      obtain ⟨a, hredeems⟩ := redeemTransition_ok h
      exact .redeemed signedGrantHex requestedState nowS readiness hredeems
    | error e s' =>
      exact .refused signedGrantHex requestedState nowS readiness (redeemTransition_error H h)
  | enablePersistentState openFile =>
    have hsteps := enablePersistentState_steps openFile s
    simp only [step, answer]
    cases h : enablePersistentState openFile s <;>
      exact .enabled openFile (by simpa [h] using hsteps.1) (by simpa [h] using hsteps.2)
  | setReplayState stationReplay chaserReplay gateReplay consumedGrants =>
    exact .replaced stationReplay chaserReplay gateReplay consumedGrants rfl rfl

namespace Happens

variable {c : Call B} {r : Reply} {s' : Host B}

omit [ReplayStateBackend B]

/-- No call changes the setup. -/
theorem setup_eq (H : Happens cr s c r s') :
    s'.engine.toEngineSetup = s.engine.toEngineSetup := by
  cases H with
  | established _ _ kept | notEstablished _ _ kept =>
    exact (congrArg AccessEngine.toEngineSetup kept.1 :)
  | withheld _ _ _ _ refreshes | notIssued _ _ _ refreshes =>
    exact (congrArg AccessEngine.toEngineSetup refreshes.kept.1 :)
  | issued _ _ _ issues => exact (congrArg AccessEngine.toEngineSetup issues.engine :)
  | redeemed _ _ _ _ redeems => exact (congrArg AccessEngine.toEngineSetup redeems.engine :)
  | refused _ _ _ _ refuses => exact (congrArg AccessEngine.toEngineSetup refuses.engine :)
  | enabled _ _ kept | replaced _ _ _ _ _ kept =>
    exact (congrArg AccessEngine.toEngineSetup kept :)

/-- An open session stays authorized. -/
theorem sound (H : Happens cr s c r s') (hs : SessionSound s.engine) :
    SessionSound s'.engine := by
  cases H with
  | established _ _ _ _ hidentity hproof =>
    exact fun _ _ => ⟨hidentity, rfl, Option.isSome_of_eq_some hproof⟩
  | notEstablished _ _ kept =>
    intro id hid
    have hnone : s'.engine.sessionId = none := (congrArg AccessEngine.sessionId kept.1 :)
    rw [hnone] at hid
    cases hid
  | issued _ _ _ issues =>
    exact hs.of_eq (congrArg AccessEngine.standing issues.engine :) fun _ =>
      (congrArg (·.holderProofAtS.isSome) issues.engine :)
  | withheld _ _ _ _ refreshes | notIssued _ _ _ refreshes =>
    exact hs.of_eq (congrArg AccessEngine.standing refreshes.kept.1 :) refreshes.proof
  | redeemed _ _ _ _ redeems =>
    exact hs.of_eq (congrArg AccessEngine.standing redeems.engine :)
      ((congrArg AccessEngine.holderProofAtS redeems.engine :) ▸ id)
  | refused _ _ _ _ refuses =>
    exact hs.of_eq (congrArg AccessEngine.standing refuses.engine :)
      ((congrArg AccessEngine.holderProofAtS refuses.engine :) ▸ id)
  | enabled _ _ kept | replaced _ _ _ _ _ kept =>
    exact hs.of_eq (congrArg AccessEngine.standing kept :)
      ((congrArg AccessEngine.holderProofAtS kept :) ▸ id)

end Happens

/-! ## Runs -/

/-- Every step of a run is one of the listed ones, from a state in which an open session is
authorized. -/
structure Reached (cr : Crates) (setup : EngineSetup) (calls : List (Call B)) : Prop where
  setup_eq : (Host.after cr setup calls).engine.toEngineSetup = setup
  sound : SessionSound (Host.after cr setup calls).engine

theorem reached (cr : Crates) (setup : EngineSetup) (calls : List (Call B)) :
    Reached cr setup calls := by
  have h := Run.invariant (step cr) (Host.new setup)
    (I := fun _ s => s.engine.toEngineSetup = setup ∧ SessionSound s.engine)
    ⟨rfl, nofun⟩ (fun _ s c h =>
      have hstep := step_happens cr h.2 c
      ⟨hstep.setup_eq.trans h.1, hstep.sound h.2⟩) calls
  exact ⟨h.1, h.2⟩

/-- An event of a run: it is the step after a shorter run, and one of the listed ones. -/
theorem event_happens {calls : List (Call B)} {later earlier : List (Event B)} {e : Event B}
    (h : history cr setup calls = later ++ e :: earlier) :
    ∃ previous, earlier = history cr setup previous ∧ e.before = Host.after cr setup previous ∧
      Happens cr e.before e.call e.reply e.after ∧ (step cr e.before e.call).2 = e.after := by
  obtain ⟨previous, c, rfl, rfl⟩ := Run.history_split h
  exact ⟨previous, rfl, rfl, step_happens cr (reached cr setup previous).sound c, rfl⟩

end Access
