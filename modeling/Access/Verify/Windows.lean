import Access.Verify.Authority
import Access.Verify.VerifierRuns

/-! # When a configuration is valid

The validity interval of the authorization policy bundle and that of a client trust bundle are
compared with the time when a process starts. Both stay in use for its life; of what a grant comes
from, only the protocol profile is compared with the time of the command. -/

namespace Access

open EStateM Authority EntitlementVerifier

variable {cr : Crates}

/-! ## Grants -/

/-- A grant comes from the policy bundle that the process was started with, and is issued within
the window of the profile. -/
structure GrantedUnder (cr : Crates) (env : Environment B)
    (startedAtS nowS : Int64) (out : TransitionOutcome) : Prop where
  exists_bundle : ∃ policyBundle decision, env.policyBundle = .ok policyBundle ∧
    WithinWindow cr policyBundle.issuedAt policyBundle.validUntil startedAtS ∧
    out.authorizationDecision = some decision ∧
    decision.policy.bundleId = policyBundle.bundleId ∧
    decision.policy.bundleVersion = policyBundle.bundleVersion
  exists_profile : ∃ profile, env.protocolProfile = .ok profile ∧
    WithinWindow cr profile.validFrom profile.validUntil nowS

theorem Issues.policy_eq {s s' : Host B} {requestedState : UInt8} {nowS : Int64}
    {readiness : ReadinessEvidence} {i : Issuance} {out : TransitionOutcome}
    (H : Issues cr s requestedState nowS readiness i out s') :
    i.decision.policy = s.engine.config.authorizationPolicyEngine.metadata := by
  obtain ⟨_, -, -, -, hdecision⟩ := CedarPolicyEngine.authorize_eq_ok.mp H.authorized
  rw [hdecision]
  rfl

/-- In every run of a process. -/
theorem grantedUnder [ReplayStateBackend B] {env : Environment B} {startedAtS : Int64}
    {host : Host B} (hstart : Authority.start cr env startedAtS = .ok host) {lines : List Line}
    {later earlier : List (Authority.Event B)} {e : Authority.Event B}
    (h : Run.history (Authority.step cr) host lines = later ++ e :: earlier)
    {requestedState : UInt8} {nowS : Option Int64} {readiness : ReadinessEvidence}
    (hcall : e.call.input = .ok (.transition requestedState nowS readiness))
    {out : TransitionOutcome} (hvalue : e.reply.value = some (.transition out))
    (happroved : out.approved = true) :
    GrantedUnder cr env startedAtS (nowS.getD e.call.now.unixTime) out := by
  obtain ⟨previous, ⟨input, now⟩, rfl, -⟩ := Run.history_split h
  obtain ⟨setup, calls, hsetup, hstate⟩ := exists_calls hstart previous
  have hreached := reached cr setup calls
  cases (hcall : input = _)
  simp only [Run.event, hstate] at hvalue ⊢
  obtain ⟨out', hrequest, hout⟩ := respond_value rfl hvalue
  cases hout
  rcases requestTransition_ok hrequest with ⟨hdenied, -⟩ | ⟨i, H⟩
  · rw [hdenied] at happroved
    cases happroved
  obtain ⟨bundle, hconfigured⟩ := setup_ok hsetup
  obtain ⟨rule, -, -, hfoundation, -⟩ := H.exists_rule
  have hpolicy := H.policy_eq
  rw [hreached.setup_eq] at hpolicy hfoundation
  refine ⟨⟨bundle, i.decision, hconfigured.policyBundle, hconfigured.window, ?_, ?_, ?_⟩,
    ⟨_, hconfigured.protocolProfile, hfoundation.window⟩⟩
  · rw [H.outcome]
    rfl
  · rw [hpolicy, hconfigured.bundleId]
  · rw [hpolicy, hconfigured.bundleVersion]

/-! ## Entitlements -/

namespace EntitlementVerifier

/-- A verifier was started with a bundle within its window, and not again since. -/
structure StartedWith (cr : Crates) (es : List (VerifierEvent B)) (bundle : ClientTrustBundle)
    (startedAtS : Int64) : Prop where
  exists_start : ∃ since e before directory, es = since ++ e :: before ∧
    e.call = .restart (.ok bundle) startedAtS directory ∧ e.reply = .started (.ok ()) ∧
    ∀ e' ∈ since, ∀ result, e'.reply ≠ .started result
  window : WithinWindow cr bundle.validFrom bundle.validUntil startedAtS

theorem StartedWith.cons {es : List (VerifierEvent B)} {bundle : ClientTrustBundle}
    {startedAtS : Int64} (H : StartedWith cr es bundle startedAtS) {e : VerifierEvent B}
    (h : ∀ result, e.reply ≠ .started result) : StartedWith cr (e :: es) bundle startedAtS := by
  obtain ⟨since, e₀, before, directory, rfl, hcall, hreply, hsince⟩ := H.exists_start
  refine ⟨⟨e :: since, e₀, before, directory, rfl, hcall, hreply, fun e' he' => ?_⟩, H.window⟩
  rcases List.mem_cons.mp he' with rfl | he'
  · exact h
  · exact hsince e' he'

theorem load_eq_ok {bundle bundle' : ClientTrustBundle} {nowS : Int64}
    (h : bundle.load cr nowS = .ok bundle') :
    bundle' = bundle ∧ WithinWindow cr bundle.validFrom bundle.validUntil nowS := by
  simp only [ClientTrustBundle.load, Except.bind_eq_ok, Except.okOr_eq_ok, Except.failIf_eq_ok,
    Except.pure_eq_ok, not_or, gt_iff_lt, Int64.not_lt] at h
  obtain ⟨first, hfirst, last, hlast, _, ⟨h₁, h₂⟩, _, -, rfl⟩ := h
  exact ⟨rfl, first, last, hfirst, hlast, h₁, h₂⟩

variable [ReplayStateBackend B] {parse : String → Except String VerifyCommand}

/-- A verifier that runs after a start was given its bundle, within its window. -/
theorem boot_running {file : Except String ClientTrustBundle} {nowS : Int64}
    {directory : Except String Unit} {storage : B} {bundle : ClientTrustBundle} {trust : TrustStore}
    {replay : ReplayCache B}
    (h : (boot cr file nowS directory storage).2 = .running bundle trust replay) :
    file = .ok bundle ∧ WithinWindow cr bundle.validFrom bundle.validUntil nowS ∧
      (boot cr file nowS directory storage).1 = .ok () := by
  unfold boot at h ⊢
  cases hstart : file.mapError DynError.json >>= (EntitlementVerifier.start cr · nowS) with
  | error e =>
    rw [hstart] at h
    cases h
  | ok started =>
    obtain ⟨parsed, hfile, hparsed⟩ := Except.bind_eq_ok.mp hstart
    obtain ⟨hload, -⟩ := start_eq_ok.mp hparsed
    obtain ⟨hsame, hwindow⟩ := load_eq_ok hload
    rw [hstart] at h
    cases directory with
    | error detail => cases h
    | ok u =>
      dsimp only at h ⊢
      split at h <;> cases h
      rw [hsame]
      exact ⟨Except.mapError_eq_ok.mp hfile, hwindow, rfl⟩

/-- What runs was started with its bundle. -/
def Serving (cr : Crates) (es : List (VerifierEvent B)) (v : Verifier B) : Prop :=
  ∀ bundle trust replay, v = .running bundle trust replay →
    ∃ startedAtS, StartedWith cr es bundle startedAtS

theorem Serving.step {es : List (VerifierEvent B)} {v : Verifier B} (H : Serving cr es v)
    (c : VerifierCall) :
    Serving cr (Run.event (Verifier.step cr parse) v c :: es) (Verifier.step cr parse v c).2 := by
  intro bundle trust replay hrunning
  cases c with
  | verify input unixTime =>
    cases v with
    | down storage => cases hrunning
    | running bundle₀ trust₀ replay₀ =>
      obtain ⟨startedAtS, hstarted⟩ := H bundle₀ trust₀ replay₀ rfl
      simp only [Verifier.step] at hrunning
      cases hverify : verifyCommand cr parse unixTime input bundle₀ trust₀ replay₀ with
      | ok out replay' =>
        simp only [hverify, Verifier.running.injEq] at hrunning
        obtain ⟨rfl, -, -⟩ := hrunning
        exact ⟨startedAtS, hstarted.cons (by simp [Run.event, Verifier.step, hverify])⟩
      | error e replay' =>
        simp only [hverify, Verifier.running.injEq] at hrunning
        obtain ⟨rfl, -, -⟩ := hrunning
        exact ⟨startedAtS, hstarted.cons (by simp [Run.event, Verifier.step, hverify])⟩
  | restart file nowS directory =>
    cases hstorage : v.journal.storage? with
    | some storage =>
      rw [step_restart hstorage] at hrunning
      obtain ⟨rfl, hwindow, hstarted⟩ := boot_running hrunning
      refine ⟨nowS, ⟨[], _, es, directory, rfl, rfl, ?_, by simp⟩, hwindow⟩
      rw [Run.event, step_restart hstorage, hstarted]
    | none =>
      cases v with
      | down storage => cases hstorage
      | running bundle₀ trust₀ replay₀ =>
        obtain ⟨consumed, backend⟩ := replay₀
        cases (hstorage : backend = none)
        obtain ⟨startedAtS, hstarted⟩ := H _ _ _ rfl
        cases hrunning
        exact ⟨startedAtS, hstarted.cons (fun _ h => by cases h)⟩

theorem serving (cr : Crates) (parse : String → Except String VerifyCommand) (first : B)
    (calls : List VerifierCall) :
    Serving cr (Run.history (Verifier.step cr parse) (.down first) calls)
      (Run.state (Verifier.step cr parse) (.down first) calls) :=
  Run.invariant _ _ (fun _ _ _ h => by cases h) (fun _ _ c H => H.step c) calls

end EntitlementVerifier

/-- In every run of an authority, a grant comes from the policy bundle that the process was started
with, within its window when it was started, and is issued within the window of the profile; and in
every run of a verifier, an entitlement is accepted under the bundle that the verifier was last
started with, within its window when it was started. -/
theorem configured_within_windows [ReplayStateBackend B] [ReplayStateBackend C] (cr : Crates) :
    (∀ (env : Environment B) (startedAtS : Int64) (host : Host B),
      Authority.start cr env startedAtS = .ok host →
      ∀ (lines : List Line) (later earlier : List (Authority.Event B)) (e : Authority.Event B),
      Run.history (Authority.step cr) host lines = later ++ e :: earlier →
      ∀ (requestedState : UInt8) (nowS : Option Int64) (readiness : ReadinessEvidence)
        (out : TransitionOutcome),
      e.call.input = .ok (.transition requestedState nowS readiness) →
      e.reply.value = some (.transition out) → out.approved = true →
      GrantedUnder cr env startedAtS (nowS.getD e.call.now.unixTime) out) ∧
    (∀ (parse : String → Except String VerifyCommand) (first : C) (calls : List VerifierCall)
        (later earlier : List (VerifierEvent C)) (e : VerifierEvent C),
      Run.history (Verifier.step cr parse) (.down first) calls = later ++ e :: earlier →
      ∀ out, e.reply = .verified (.ok out) →
      ∃ bundle trust replay startedAtS, e.before = .running bundle trust replay ∧
        out.trustBundleId = bundle.bundleId ∧ out.trustBundleVersion = bundle.version ∧
        StartedWith cr earlier bundle startedAtS) := by
  constructor
  · intro env startedAtS host hstart lines later earlier e h requestedState nowS readiness out hcall
      hvalue happroved
    exact grantedUnder hstart h hcall hvalue happroved
  · intro parse first calls later earlier e h out hout
    obtain ⟨previous, c, rfl, rfl⟩ := Run.history_split h
    have hserving := serving cr parse first previous
    revert hout hserving
    generalize Run.state (Verifier.step cr parse) (.down first) previous = s
    intro hout hserving
    cases c with
    | restart file nowS directory =>
      cases s with
      | down storage => cases hout
      | running bundle trust replay => obtain ⟨consumed, _ | storage⟩ := replay <;> cases hout
    | verify input unixTime =>
      obtain ⟨bundle, trust, replay, replay', rfl, hok, -⟩ := step_verified (Prod.ext hout rfl)
      obtain ⟨_, _, _, _, -, -, -, -, -, hcheck, -⟩ := verifyCommand_eq_ok.mp hok
      obtain ⟨startedAtS, hstarted⟩ := hserving bundle trust replay rfl
      obtain ⟨hid, hversion, -⟩ := (checkGrant_eq_ok.mp hcheck).bundle
      exact ⟨bundle, trust, replay, startedAtS, rfl, hid, hversion, hstarted⟩

/-! ## Windows of one moment -/

namespace Simulation

/-- The first moment of the profile's window. -/
def newYearS : Int64 := 1767225600

def trustRecord (identity : IdentityKey) (scopes : List String) : TrustRecord where
  keyId := identity.keyId
  publicKeyHex := Hex.encode identity.verifyingKey.bytes
  scopes

/-- The files of the simulation, except that its policy bundle is valid for one moment. -/
def environment : Environment FileReplayStateBackend where
  trust := .ok
    { bundleId := "waystation-1-trust"
      version := 42
      issuedAt := "2026-01-01T00:00:00Z"
      keys :=
        [trustRecord chaser ["station_peer"],
         trustRecord station ["chaser_peer", "transition_gate"],
         trustRecord issuer ["credential_issuer"]] }
  protocolProfile := .ok protocolProfile
  policyBundle := .ok
    { bundleId := metadata.bundleId
      bundleVersion := metadata.bundleVersion
      issuedAt := "2026-01-01T00:00:00Z"
      validUntil := "2026-01-01T00:00:00Z"
      sourceFile := "commercial-docking.cedar" }
  readToString := .ok
  signer
    | "chaser" => chaser.signer
    | "station" => station.signer
    | _ => issuer.signer
  randomSource
  openFile _ := .ok emptyJournal

/-- A line of input a second later. -/
def lineOf (command : Option Int64 → Command) : Line where
  input := .ok (command (some (newYearS + 1)))
  now := ⟨0, by decide⟩

def establishLine : Line := lineOf (.establish "nominal" ·)

def transitionLine : Line :=
  lineOf (.transition 1 · { steady with observedAtMs := (newYearS + 1) * 1000 })

def approves (response : Authority.Response) : Bool :=
  match response.value with
  | some (.transition out) => out.approved
  | _ => false

theorem exists_of_approves {response : Authority.Response} (h : approves response = true) :
    ∃ out, response.value = some (.transition out) ∧ out.approved = true := by
  obtain ⟨ok, value, error⟩ := response
  cases value with
  | none => cases h
  | some value =>
    cases value with
    | transition out => exact ⟨out, rfl, h⟩
    | description | session => cases h

theorem environment_approves :
    ((Authority.start reference environment newYearS).toOption.any fun host =>
      approves (Authority.step reference
        (Run.state (Authority.step reference) host [establishLine]) transitionLine).1) = true := by
  decide +kernel

/-- A grant is issued in a process that was started at that moment. -/
theorem exists_approved : ∃ host out,
    Authority.start reference environment newYearS = .ok host ∧
      (Run.event (Authority.step reference)
        (Run.state (Authority.step reference) host [establishLine]) transitionLine).reply.value =
        some (.transition out) ∧ out.approved = true := by
  obtain ⟨host, hstart, happroves⟩ := exists_of_toOption_any environment_approves
  obtain ⟨out, hvalue, happroved⟩ := exists_of_approves happroves
  exact ⟨host, out, hstart, hvalue, happroved⟩

/-- The client's bundle, valid for one moment. -/
def momentaryBundle : ClientTrustBundle :=
  { clientBundle [stationAuthority] with validUntil := "2026-01-01T00:00:00Z" }

/-- The start of the verifier at that moment. -/
def momentaryRestart : VerifierCall := .restart (.ok momentaryBundle) newYearS (.ok ())

theorem state_momentary (parse : String → Except String VerifyCommand) :
    Run.state (Verifier.step reference parse) (.down emptyJournal) [momentaryRestart] =
      .running momentaryBundle (Finmap.singleton station.keyId station.verifyingKey)
        { backend := some loadedJournal } := by
  simp only [Run.state, momentaryRestart, Verifier.step, boot, Except.mapError]
  rfl

/-- An entitlement of the station is accepted months later. -/
theorem momentary_accepts : ∃ out,
    (Run.event (Verifier.step reference parseApproach)
      (Run.state (Verifier.step reference parseApproach) (.down emptyJournal) [momentaryRestart])
      (.verify "" nowS)).reply = .verified (.ok out) := by
  obtain ⟨out, cache', h⟩ : ∃ out cache', verifyCommand reference parseApproach nowS ""
      momentaryBundle (Finmap.singleton station.keyId station.verifyingKey)
      { backend := some loadedJournal } = .ok out cache' :=
    exists_of_checks exists_consume_file entitlement_checks.1
  exact ⟨out, by rw [Run.event, state_momentary, step_verify_ok h]⟩

end Simulation

open Simulation

/-- The grant of the process that was started at that moment, and the bundle of the verifier. -/
theorem configured_within_windows_moment :
    (∃ out, GrantedUnder reference environment newYearS (newYearS + 1) out) ∧
      ∃ bundle startedAtS, StartedWith reference
        (Run.history (Verifier.step reference parseApproach) (.down emptyJournal)
          [momentaryRestart]) bundle startedAtS := by
  obtain ⟨host, out, hstart, hvalue, happroved⟩ := exists_approved
  obtain ⟨out', hout⟩ := momentary_accepts
  constructor
  · exact ⟨out, (configured_within_windows (C := FileReplayStateBackend) reference).1 environment
      newYearS host hstart [transitionLine, establishLine] [] _ _ rfl 1 (some (newYearS + 1)) _ out
      rfl hvalue happroved⟩
  · obtain ⟨bundle, trust, replay, startedAtS, -, -, -, hstarted⟩ :=
      (configured_within_windows (B := FileReplayStateBackend) reference).2 parseApproach
        emptyJournal [.verify "" nowS, momentaryRestart] [] _ _ rfl out' hout
    exact ⟨bundle, startedAtS, hstarted⟩

/-- A grant is issued after the end of the policy bundle, and an entitlement is accepted after the
end of the client's. -/
theorem configured_outside_windows :
    (¬∀ (cr : Crates) (env : Environment FileReplayStateBackend) (startedAtS : Int64)
      (host : Host FileReplayStateBackend), Authority.start cr env startedAtS = .ok host →
      ∀ (lines : List Line) (later earlier : List (Authority.Event FileReplayStateBackend))
        (e : Authority.Event FileReplayStateBackend),
      Run.history (Authority.step cr) host lines = later ++ e :: earlier →
      ∀ (requestedState : UInt8) (nowS : Option Int64) (readiness : ReadinessEvidence)
        (out : TransitionOutcome),
      e.call.input = .ok (.transition requestedState nowS readiness) →
      e.reply.value = some (.transition out) → out.approved = true →
      ∃ policyBundle, env.policyBundle = .ok policyBundle ∧ WithinWindow cr policyBundle.issuedAt
        policyBundle.validUntil (nowS.getD e.call.now.unixTime)) ∧
    ¬∀ (cr : Crates) (parse : String → Except String VerifyCommand)
        (first : FileReplayStateBackend) (calls : List VerifierCall)
        (later earlier : List (VerifierEvent FileReplayStateBackend))
        (e : VerifierEvent FileReplayStateBackend),
      Run.history (Verifier.step cr parse) (.down first) calls = later ++ e :: earlier →
      ∀ input unixTime command out, e.call = .verify input unixTime → parse input = .ok command →
      e.reply = .verified (.ok out) →
      ∃ bundle trust replay, e.before = .running bundle trust replay ∧
        WithinWindow cr bundle.validFrom bundle.validUntil (command.nowS.getD unixTime) := by
  constructor
  · intro h
    obtain ⟨host, out, hstart, hvalue, happroved⟩ := exists_approved
    obtain ⟨policyBundle, hbundle, first, last, -, hlast, -, hnow⟩ := h reference environment
      newYearS host hstart [transitionLine, establishLine] [] _ _ rfl 1 (some (newYearS + 1)) _ out
      rfl hvalue happroved
    cases hbundle
    cases hlast
    rw [Option.getD_some] at hnow
    exact absurd hnow (by decide)
  · intro h
    obtain ⟨out, hout⟩ := momentary_accepts
    obtain ⟨bundle, trust, replay, hbefore, first, last, -, hlast, -, hnow⟩ := h reference
      parseApproach emptyJournal [.verify "" nowS, momentaryRestart] [] _ _ rfl "" nowS _ out rfl
      rfl hout
    rw [Run.event, state_momentary, Verifier.running.injEq] at hbefore
    obtain ⟨rfl, -, -⟩ := hbefore
    cases hlast
    exact absurd hnow (by decide)

end Access
