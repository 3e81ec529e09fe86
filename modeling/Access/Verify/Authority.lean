import Access.Authority
import Access.Verify.Lifetime

/-! # What the authority process does with its engine

A line of input makes at most one call of the engine (`step_eq`), so the states of a process are
states of an engine (`exists_calls`), and what holds along every run of an engine holds of it. -/

namespace Access.Authority

open EStateM

variable {cr : Crates} {s s' : Host B}

/-! ## Start-up -/

/-- A time lies within the window that two timestamps describe. -/
def WithinWindow (cr : Crates) (opens closes : String) (t : Int64) : Prop :=
  ∃ first last, cr.parseFromRfc3339 opens = some first ∧ cr.parseFromRfc3339 closes = some last ∧
    first ≤ t ∧ t ≤ last

/-- What of its configuration is in an engine, and the time when that was valid. -/
structure ConfiguredBy (cr : Crates) (env : Environment B) (startedAtS : Int64)
    (config : AccessEngineConfig) (bundle : AuthorizationPolicyBundle) : Prop where
  policyBundle : env.policyBundle = .ok bundle
  window : WithinWindow cr bundle.issuedAt bundle.validUntil startedAtS
  protocolProfile : env.protocolProfile = .ok config.protocolProfile
  bundleId : config.authorizationPolicyEngine.metadata.bundleId = bundle.bundleId
  bundleVersion : config.authorizationPolicyEngine.metadata.bundleVersion = bundle.bundleVersion

theorem load_eq_ok {bundle bundle' : AuthorizationPolicyBundle} {nowS : Int64}
    {readToString : String → Except String String} {source : String} :
    bundle.load cr nowS readToString = .ok (bundle', source) ↔
      WithinWindow cr bundle.issuedAt bundle.validUntil nowS ∧ bundle' = bundle ∧
        readToString bundle.sourceFile = .ok source := by
  simp only [AuthorizationPolicyBundle.load, WithinWindow, Except.bind_eq_ok, Except.okOr_eq_ok,
    Except.failIf_eq_ok, Except.mapError_eq_ok, Except.pure_eq_ok, Prod.mk.injEq, not_or, gt_iff_lt,
    Int64.not_lt]
  constructor
  · rintro ⟨first, hfirst, last, hlast, _, ⟨h₁, h₂⟩, _, hsource, rfl, rfl⟩
    exact ⟨⟨first, last, hfirst, hlast, h₁, h₂⟩, rfl, hsource⟩
  · rintro ⟨⟨first, last, hfirst, hlast, h₁, h₂⟩, rfl, hsource⟩
    exact ⟨first, hfirst, last, hlast, (), ⟨h₁, h₂⟩, source, hsource, rfl, rfl⟩

theorem setup_ok {env : Environment B} {startedAtS : Int64} {setup : EngineSetup}
    (h : env.setup cr startedAtS = .ok setup) :
    ∃ bundle, ConfiguredBy cr env startedAtS setup.config bundle := by
  simp only [Environment.setup, Except.bind_eq_ok, Except.mapError_eq_ok, Except.pure_eq_ok,
    Prod.exists] at h
  obtain ⟨_, -, trust, -, profile, hprofile, bundle, hbundle, _, source, hload, engine, hengine, _,
    -, _, -, _, -, _, -, _, -, _, -, _, -, _, -, rfl⟩ := h
  obtain ⟨hwindow, rfl, -⟩ := load_eq_ok.mp hload
  simp only [CedarPolicyEngine.fromSource, Except.bind_eq_ok, Except.mapError_eq_ok,
    Except.pure_eq_ok] at hengine
  obtain ⟨_, -, _, -, rfl⟩ := hengine
  exact ⟨_, hbundle, hwindow, hprofile, rfl, rfl⟩

variable [ReplayStateBackend B]

theorem start_eq_ok {env : Environment B} {startedAtS : Int64} {host : Host B} :
    start cr env startedAtS = .ok host ↔ ∃ setup, env.setup cr startedAtS = .ok setup ∧
      enablePersistentState env.openFile (Host.new setup) = .ok () host := by
  unfold start
  cases env.setup cr startedAtS with
  | error e => simp
  | ok setup =>
    simp only [Except.ok.injEq, exists_eq_left']
    cases henable : enablePersistentState env.openFile (Host.new setup) with
    | ok u host' => simp
    | error e host' => simp

/-! ## Lines -/

omit [ReplayStateBackend B] in
theorem respond_value {wrap : α → Value} {x : EngineM B α} {response : Response} {value : Value}
    (h : respond wrap x s = (response, s')) (hvalue : response.value = some value) :
    ∃ a, x s = .ok a s' ∧ wrap a = value := by
  unfold respond at h
  cases hx : x s with
  | ok a s'' =>
    rw [hx] at h
    cases h
    exact ⟨a, rfl, Option.some.inj hvalue⟩
  | error e s'' =>
    rw [hx] at h
    cases h
    cases hvalue

omit [ReplayStateBackend B] in
theorem respond_snd (wrap : α → Value) (wrap' : Except SessionError α → Reply) (x : EngineM B α)
    (s : Host B) : (respond wrap x s).2 = (answer wrap' x s).2 := by
  unfold respond answer
  cases x s <;> rfl

/-- The call of the engine that a command makes. -/
def Command.call? (now : SystemTime) : Command → Option (Call B)
  | .describe => none
  | .establish scenario nowS =>
    (parseScenario scenario).toOption.map (.establishSession (nowS.getD now.unixTime) ·)
  | .transition requestedState nowS readiness =>
    some (.requestTransition requestedState (nowS.getD now.unixTime) readiness)
  | .redeemEntitlement requestedState entitlementHex nowS readiness =>
    some (.redeemTransition entitlementHex requestedState (nowS.getD now.unixTime) readiness)

omit [ReplayStateBackend B] in
/-- A line that asks for a transition. -/
theorem input_of_requestTransition {line : Line} {requestedState : UInt8} {nowS : Int64}
    {readiness : ReadinessEvidence}
    (h : line.input.toOption.bind (Command.call? (B := B) line.now) =
      some (.requestTransition requestedState nowS readiness)) :
    ∃ askedS : Option Int64, line.input = .ok (.transition requestedState askedS readiness) ∧
      nowS = askedS.getD line.now.unixTime := by
  obtain ⟨input, now⟩ := line
  obtain ⟨command, hinput, hcommand⟩ := Option.bind_eq_some_iff.mp h
  cases input with
  | error detail => cases hinput
  | ok command' =>
    cases hinput
    cases command with
    | describe | redeemEntitlement => cases hcommand
    | establish scenario askedS =>
      obtain ⟨_, -, hcommand⟩ := Option.map_eq_some_iff.mp hcommand
      cases hcommand
    | transition requestedState askedS readiness =>
      cases hcommand
      exact ⟨askedS, rfl, rfl⟩

/-- A line changes what the call of its command changes. -/
theorem step_eq (s : Host B) (line : Line) :
    (step cr s line).2 = ((line.input.toOption.bind (Command.call? line.now)).map
      fun c => (Access.step cr s c).2).getD s := by
  obtain ⟨input, now⟩ := line
  cases input with
  | error detail => rfl
  | ok command =>
    cases command with
    | describe => rfl
    | establish scenario nowS =>
      simp only [step, handleCommand, Except.toOption, Option.bind_some, Command.call?]
      cases parseScenario scenario with
      | error detail => rfl
      | ok scenario => exact respond_snd _ _ _ _
    | transition requestedState nowS readiness => exact respond_snd _ _ _ _
    | redeemEntitlement requestedState entitlementHex nowS readiness => exact respond_snd _ _ _ _

/-- The states of a process are states of an engine. -/
theorem exists_calls {env : Environment B} {startedAtS : Int64} {host : Host B}
    (h : start cr env startedAtS = .ok host) (lines : List Line) :
    ∃ setup calls, env.setup cr startedAtS = .ok setup ∧
      Run.state (step cr) host lines = Host.after cr setup calls := by
  obtain ⟨setup, hsetup, henable⟩ := start_eq_ok.mp h
  refine ⟨setup, ?_⟩
  induction lines with
  | nil =>
    refine ⟨[.enablePersistentState env.openFile], hsetup, ?_⟩
    simp only [Run.state, Host.after, Access.step, answer, henable]
  | cons line lines ih =>
    obtain ⟨calls, -, hcalls⟩ := ih
    rw [Run.state, step_eq, hcalls]
    cases hcall : line.input.toOption.bind (Command.call? line.now) with
    | none => exact ⟨calls, hsetup, rfl⟩
    | some c => exact ⟨c :: calls, hsetup, rfl⟩

end Access.Authority
