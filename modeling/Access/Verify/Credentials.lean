import Access.Verify.Entitlements
import Access.Verify.Establishment

/-! # How long the credentials of a session are valid

The engine checks the validity of credentials when a session is established, and keeps no record of
it. What it keeps is the evidence of the credentials that were issued then (`Opened`), so their
validity at a later time is a matter of the time that has passed. -/

namespace Access

open EStateM

/-- Every credential is within its validity interval. -/
def AllValidAt (credentials : List CredentialClaims) (nowS : Int64) : Prop :=
  ∀ credential ∈ credentials, credential.issuedAtS ≤ nowS ∧ nowS ≤ credential.expiresAtS

/-- The latest call of `establish_session` succeeded, and the session that is open is the one it
established, on the credentials that were issued and presented in it. -/
structure Opened (setup : EngineSetup) (es : List (Event B)) (s : Host B) (openedAtS : Int64)
    (scenario : AccessScenario) : Prop where
  exists_event : ∃ e out, es.find? establishes = some e ∧
    e.call = .establishSession openedAtS scenario ∧ e.reply = .session (.ok out) ∧
    s.engine.sessionId = some out.sessionId
  evidence : s.engine.verifiedCredentials =
    (sessionCredentials setup scenario openedAtS).map (·.evidence)
  valid : AllValidAt (sessionCredentials setup scenario openedAtS) openedAtS

/-- The time of a request that was approved, or of a redemption that succeeded. -/
def decidedAt (e : Event B) : Option Int64 :=
  match e.call, e.reply with
  | .requestTransition _ nowS _, .issued (.ok out) => if out.approved then some nowS else none
  | .redeemTransition _ _ nowS _, .redeemed (.ok _) => some nowS
  | _, _ => none

variable {cr : Crates} {self : EngineSetup} {s s' : Host B}

/-! ## What is presented -/

/-- Credentials that were issued, one for each of the claims. -/
def IssuedFor (cr : Crates) (issuer : IdentityKey) (claims : List CredentialClaims)
    (credentials : List Bytes) : Prop :=
  List.Forall₂ (fun claims credential => ∃ w w', issueCredential cr claims issuer w =
    .ok credential w') claims credentials

/-- What was issued is verified as it was issued. -/
theorem IssuedFor.verified (hcr : cr.Faithful) {issuer : IdentityKey}
    {claims : List CredentialClaims} {credentials : List Bytes}
    (H : IssuedFor cr issuer claims credentials) {trust : TrustStore} {subject : String}
    {nowS : Int64} {evidence : List VerifiedCredentialEvidence}
    (h : List.Forall₂ (fun credential verified => ∃ claims, CredentialVerified cr credential trust
      subject nowS claims ∧ claims.evidence = verified) credentials evidence) :
    evidence = claims.map (·.evidence) ∧ AllValidAt claims nowS := by
  induction H generalizing evidence with
  | nil =>
    cases h
    exact ⟨rfl, fun _ h => absurd h List.not_mem_nil⟩
  | cons hissued _ ih =>
    obtain ⟨w, w', hissue⟩ := hissued
    cases h with
    | cons hverified hrest =>
      obtain ⟨claims', hclaims, rfl⟩ := hverified
      obtain ⟨rfl, hvalid⟩ := ih hrest
      cases hclaims.eq_of_issued hcr hissue
      exact ⟨rfl, List.forall_mem_cons.mpr ⟨⟨hclaims.issued, hclaims.unexpired⟩, hvalid⟩⟩

variable [ReplayStateBackend B]

theorem proveHolder_issued (hcr : cr.Faithful) {sessionId : String} {scenario : AccessScenario}
    {nowS : Int64} {proof : VerifiedEnvelope}
    (h : proveHolder cr self sessionId scenario nowS s = .ok proof s') :
    IssuedFor cr self.credentialIssuer (sessionCredentials self scenario nowS)
      proof.claims.credentials := by
  simp only [proveHolder, bind_eq_ok, failIf_eq_ok, pure_eq_ok, Part.run_eq_ok] at h
  obtain ⟨_, _, -, _, _, -, credentials, _, ⟨_, hissued, -⟩, proof, _, hproof, _, _, -, rfl, -⟩ := h
  obtain ⟨_, _, _, _, hsign, hverified⟩ := exchangeProof_ok hproof
  rw [(hverified.eq_of_signed hcr hsign).1]
  exact forall₂_of_mapM_ok hissued

/-- What is kept of the credentials of a new session. -/
theorem authorizeNewSession_credentials (hcr : cr.Faithful) {nowS : Int64}
    {scenario : AccessScenario} {v : String × VerifiedEnvelope × AccessDecision}
    (h : authorizeNewSession cr self scenario nowS s = .ok v s') :
    s'.engine.verifiedCredentials =
        (sessionCredentials self scenario nowS).map (·.evidence) ∧
      AllValidAt (sessionCredentials self scenario nowS) nowS := by
  simp only [authorizeNewSession, bind_eq_ok, assign_eq_ok, failIf_eq_ok, ofExcept_eq_ok,
    pure_eq_ok] at h
  obtain ⟨_, _, -, _, _, -, _, _, rfl, proof, _, hproof, _, _, -, credentials, _, ⟨hverified, rfl⟩,
    _, _, rfl, _, _, ⟨-, rfl⟩, _, _, ⟨-, rfl⟩, _, _, rfl, _, _, ⟨-, rfl⟩, -, rfl⟩ := h
  exact (proveHolder_issued hcr hproof).verified hcr (verifyPresentation_eq_ok.mp hverified)

theorem establishSession_credentials (hcr : cr.Faithful) {nowS : Int64} {scenario : AccessScenario}
    {out : SessionOutcome} (h : establishSession cr nowS scenario s = .ok out s') :
    s'.engine.verifiedCredentials =
        (sessionCredentials s.engine.toEngineSetup scenario nowS).map (·.evidence) ∧
      AllValidAt (sessionCredentials s.engine.toEngineSetup scenario nowS) nowS := by
  simp only [establishSession, bind_eq_ok, assign_eq_ok, get_eq_ok, pure_eq_ok, and_assoc,
    exists_and_left, exists_eq_left, exists_const, Prod.exists] at h
  obtain ⟨_, _, _, _, h, -, rfl⟩ := h
  have hcredentials := authorizeNewSession_credentials hcr h
  exact hcredentials

/-- In every run, an open session is the one that was established last. -/
theorem opened (hcr : cr.Faithful) (setup : EngineSetup) (calls : List (Call B)) :
    ∀ id, (Host.after cr setup calls).engine.sessionId = some id →
      ∃ openedAtS scenario, Opened setup (history cr setup calls) (Host.after cr setup calls)
        openedAtS scenario := by
  have H := Run.invariant (step cr) (Host.new setup)
    (I := fun es s => s.engine.toEngineSetup = setup ∧ SessionSound s.engine ∧
      ∀ id, s.engine.sessionId = some id →
        ∃ openedAtS scenario, Opened setup es s openedAtS scenario)
    ⟨rfl, nofun, nofun⟩ (fun es s c ih => ?_) calls
  · exact H.2.2
  · obtain ⟨hsetup, hsound, hopened⟩ := ih
    have hstep := step_happens cr hsound c
    refine ⟨hstep.setup_eq.trans hsetup, hstep.sound hsound, fun id hid => ?_⟩
    by_cases hestablishes : establishes (Run.event (step cr) s c) = true
    · cases c with
      | establishSession nowS scenario =>
        simp only [Run.event, step, answer] at hid ⊢
        cases h : establishSession cr nowS scenario s with
        | ok out s' =>
          obtain ⟨hevidence, hvalid⟩ := establishSession_credentials hcr h
          obtain ⟨_, -, -, -, -, rfl⟩ := establishSession_ok h
          rw [hsetup] at hevidence hvalid
          exact ⟨nowS, scenario, ⟨_, out, rfl, rfl, rfl, rfl⟩, hevidence, hvalid⟩
        | error e s' =>
          rw [h] at hid
          rw [(establishSession_closed h).sessionId] at hid
          cases hid
      | requestTransition | redeemTransition | enablePersistentState | setReplayState =>
        cases hestablishes
    · have hestablishes := Bool.eq_false_iff.mpr hestablishes
      have hsession := hstep.session_eq hestablishes
      have hsame : (step cr s c).2.engine.sessionId = s.engine.sessionId :=
        congrArg (·.2.1) hsession
      obtain ⟨openedAtS, scenario, ⟨e, out, hfind, hcall, hreply, hout⟩, hevidence, hvalid⟩ :=
        hopened id (hsame ▸ hid)
      refine ⟨openedAtS, scenario, ⟨e, out, ?_, hcall, hreply, hsame.trans hout⟩, ?_, hvalid⟩
      · rw [List.find?_cons, hestablishes]
        exact hfind
      · rw [← hevidence]
        exact congrArg (·.2.2.2) hsession

/-! ## Validity -/

omit [ReplayStateBackend B] in
theorem Opened.eq_of_call {setup : EngineSetup} {e : Event B} {es : List (Event B)}
    {openedAtS nowS : Int64} {scenario scenario' : AccessScenario}
    (H : Opened setup (e :: es) s openedAtS scenario)
    (hcall : e.call = .establishSession nowS scenario') :
    openedAtS = nowS ∧ scenario = scenario' := by
  obtain ⟨e', out, hfind, hcall', -⟩ := H.exists_event
  rw [List.find?_cons_of_pos (by simp only [establishes, hcall])] at hfind
  cases hfind
  cases hcall.symm.trans hcall'
  exact ⟨rfl, rfl⟩

omit [ReplayStateBackend B] in
theorem decidedAt_sessionId {c : Call B} {r : Reply} (H : Happens cr s c r s') {nowS : Int64}
    (h : decidedAt ⟨s, c, r, s'⟩ = some nowS) : ∃ id, s.engine.sessionId = some id := by
  cases H with
  | issued _ _ _ issues => exact ⟨_, issues.session⟩
  | redeemed _ _ _ _ redeems => exact ⟨_, redeems.accepts.session⟩
  | withheld _ _ _ denied => simp [decidedAt, denied] at h
  | established | notEstablished | notIssued | refused | enabled | replaced => cases h

omit [ReplayStateBackend B] in
/-- When credentials of a session that are valid when it is established are valid. -/
theorem AllValidAt.iff {scenario : AccessScenario} {openedAtS : Int64}
    (H : AllValidAt (sessionCredentials self scenario openedAtS) openedAtS) (nowS : Int64) :
    AllValidAt (sessionCredentials self scenario openedAtS) nowS ↔
      openedAtS.toInt - 60 ≤ nowS.toInt ∧ nowS.toInt ≤ openedAtS.toInt + 86400 := by
  obtain ⟨⟨hissued, hvehicle⟩, -, hdocking⟩ :=
    (List.forall_mem_cons.mp H).imp_right List.forall_mem_singleton.mp
  have hfrom := Int64.toInt_sub_of_sub_le (by decide) hissued
  have huntil := Int64.toInt_add_of_le_add (by decide) hdocking
  rw [show (60 : Int64).toInt = 60 from rfl] at hfrom
  rw [show (86400 : Int64).toInt = 86400 from rfl] at huntil
  have hexpiry : (if scenario = .expiredCredential then openedAtS - 1 else openedAtS + 86400) =
      openedAtS + 86400 := by
    refine if_neg fun hexpired => ?_
    have hrange := (openedAtS - 60).toInt_range
    rw [if_pos hexpired, Int64.le_iff_toInt_le, Int64.toInt_sub,
      show (1 : Int64).toInt = 1 from rfl, Int.bmod_def] at hvehicle
    omega
  simp only [AllValidAt, sessionCredentials, hexpiry, List.forall_mem_cons, Int64.le_iff_toInt_le,
    hfrom, huntil, List.not_mem_nil, false_imp_iff, implies_true, and_true, and_self]

/-- In every run, a request that is approved and a redemption that succeeds are decided in the
session that was established last, on the credentials that were presented then; and at the time of
the decision these are valid if and only if that time is at most a minute before and a day after
the session was established. -/
theorem decided_credentials_valid_iff (cr : Crates) (hcr : cr.Faithful) (setup : EngineSetup)
    (calls : List (Call B)) (later earlier : List (Event B)) (e : Event B)
    (h : history cr setup calls = later ++ e :: earlier) (nowS : Int64)
    (hdecided : decidedAt e = some nowS) :
    ∃ openedAtS scenario, Opened setup earlier e.before openedAtS scenario ∧
      (AllValidAt (sessionCredentials setup scenario openedAtS) nowS ↔
        openedAtS.toInt - 60 ≤ nowS.toInt ∧ nowS.toInt ≤ openedAtS.toInt + 86400) := by
  obtain ⟨previous, rfl, hbefore, hhappens, -⟩ := event_happens h
  obtain ⟨id, hid⟩ := decidedAt_sessionId hhappens hdecided
  rw [hbefore] at hid ⊢
  obtain ⟨openedAtS, scenario, hopened⟩ := opened hcr setup previous id hid
  exact ⟨openedAtS, scenario, hopened, hopened.valid.iff nowS⟩

end Access

namespace Access.Simulation

theorem decidedAt_request {s : Host FileReplayStateBackend} {requestedState : UInt8}
    {nowS : Int64} {readiness : ReadinessEvidence}
    (h : (outcome (requestTransition reference requestedState nowS readiness s)).any (·.approved) =
      true) : decidedAt (Run.event (step reference) s
        (.requestTransition requestedState nowS readiness)) = some nowS := by
  obtain ⟨out, s', h, happroved⟩ := exists_of_outcome h
  simp only [decidedAt, Run.event, step, answer, h, happroved, if_true]

/-- A profile that does not limit the age of a status. -/
def statuslessProfile : ProtocolProfile :=
  { protocolProfile with
    credentialProfiles := protocolProfile.credentialProfiles.map fun credential =>
      { credential with maximumStatusAgeS := none } }

/-- More than a day after the session was established. -/
def nextDayS : Int64 := nowS + 90000

theorem approved_nextDay : (outcome (requestTransition reference 1 nextDayS
    { steady with observedAtMs := nextDayS * 1000 }
    (Host.after reference (setup statuslessProfile) established))).any (·.approved) = true := by
  decide +kernel

end Access.Simulation

namespace Access

open Simulation

/-- The request of the simulation. -/
theorem decided_credentials_valid_iff_approach :
    AllValidAt (sessionCredentials (setup protocolProfile) .nominal nowS) nowS := by
  obtain ⟨-, -, hissued, -⟩ := Simulation.runs
  obtain ⟨openedAtS, scenario, hopened, hiff⟩ := decided_credentials_valid_iff reference
    reference_faithful (setup protocolProfile) requested [] _ _ rfl nowS (decidedAt_request hissued)
  obtain ⟨rfl, rfl⟩ := hopened.eq_of_call rfl
  exact hiff.mpr (by decide)

/-- A request that is approved after the credentials of its session have expired. -/
theorem decided_credentials_expired :
    ¬∀ (cr : Crates) (_ : cr.Faithful) (setup : EngineSetup)
      (calls : List (Call FileReplayStateBackend)) (later earlier : List (Event FileReplayStateBackend))
      (e : Event FileReplayStateBackend), history cr setup calls = later ++ e :: earlier →
      ∀ nowS, decidedAt e = some nowS →
      ∃ openedAtS scenario, Opened setup earlier e.before openedAtS scenario ∧
        AllValidAt (sessionCredentials setup scenario openedAtS) nowS := by
  intro H
  obtain ⟨openedAtS, scenario, hopened, hvalid⟩ := H reference reference_faithful
    (setup statuslessProfile) (.requestTransition 1 nextDayS
      { steady with observedAtMs := nextDayS * 1000 } :: established) [] _ _ rfl nextDayS
    (decidedAt_request approved_nextDay)
  obtain ⟨rfl, rfl⟩ := hopened.eq_of_call rfl
  have hexpired : ¬nextDayS ≤ nowS + 86400 := by decide
  exact hexpired (hvalid _ (.head _)).2

end Access
