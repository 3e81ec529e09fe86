import Access.Verify.Authority
import Access.Verify.Redemptions
import Access.Verify.StageOrder
import Access.Verify.StationRuns

/-! # Restarts of the authority

The authority keeps its engine in memory and its replay journals in files. When a process ends, in
the middle of a command or between two of them, only the journals are left, and the next process
finds them.

Over all the lives of an authority a grant is redeemed once, and an envelope is presented
successfully once, because the journals of the gate go through runs of replay caches (`Kept`). And a
grant is redeemed in the life that issued it only, because a new process has nothing pending
(`Lived`). -/

namespace Access.Authority

open EStateM

/-! ## The server -/

/-- The replay journals, by the files that `enable_persistent_state` opens. -/
structure Journals (B : Type) where
  stationNonces : B
  chaserNonces : B
  gateNonces : B
  consumedGrants : B

/-- The journal at a path. -/
def Journals.openFile (journals : Journals B) : String → Except String B
  | "station-nonces.log" => .ok journals.stationNonces
  | "chaser-nonces.log" => .ok journals.chaserNonces
  | "gate-nonces.log" => .ok journals.gateNonces
  | "consumed-grants.log" => .ok journals.consumedGrants
  | path => .error path

/-- The journals of an engine. -/
def journals? (host : Host B) : Option (Journals B) := do
  let stationNonces ← host.engine.stationReplay.backend
  let chaserNonces ← host.engine.chaserReplay.backend
  let gateNonces ← host.engine.gateReplay.backend
  let consumedGrants ← host.engine.consumedGrants.backend
  pure { stationNonces, chaserNonces, gateNonces, consumedGrants }

inductive Server (B : Type) where
  | running (host : Host B)
  | down (journals : Journals B)

inductive Occurrence (B : Type) where
  | answered (event : Event B)
  /-- The process ends; a command it was at is not answered. -/
  | ended
  | started (env : Environment B) (nowS : Int64)
  | notStarted

section

variable [ReplayStateBackend B]

/-- Journals after some of their calls. -/
structure Journals.Later (journals journals' : Journals B) : Prop where
  stationNonces : Storage.Later (storageOps B) journals.stationNonces journals'.stationNonces
  chaserNonces : Storage.Later (storageOps B) journals.chaserNonces journals'.chaserNonces
  gateNonces : Storage.Later (storageOps B) journals.gateNonces journals'.gateNonces
  consumedGrants : Storage.Later (storageOps B) journals.consumedGrants journals'.consumedGrants

variable (cr : Crates)

/-- One occurrence. A process that ends in a command has done some of its calls of the journals, and
so has one that does not start. -/
inductive Server.Step : Server B → Occurrence B → Server B → Prop where
  | answered (host : Host B) (line : Line) :
    Step (.running host) (.answered (Run.event (step cr) host line)) (.running (step cr host line).2)
  | ended {host : Host B} {journals journals' : Journals B} (left : journals? host = some journals)
    (later : journals.Later journals') : Step (.running host) .ended (.down journals')
  | started {journals : Journals B} {env : Environment B} {nowS : Int64} {host : Host B}
    (ok : start cr { env with openFile := journals.openFile } nowS = .ok host) :
    Step (.down journals) (.started env nowS) (.running host)
  | notStarted {journals journals' : Journals B} (later : journals.Later journals') :
    Step (.down journals) .notStarted (.down journals')

/-- A run from the first journals, with the latest occurrence first. -/
inductive Server.Runs (first : Journals B) : List (Occurrence B) → Server B → Prop where
  | nil : Runs first [] (.down first)
  | cons {os : List (Occurrence B)} {server server' : Server B} {o : Occurrence B}
    (run : Runs first os server) (step : Server.Step cr server o server') :
    Runs first (o :: os) server'

end

/-! ## What a command does to a journal -/

/-- A cache goes through consumptions and resets, and stays with its process. -/
def Uses [ReplayStateBackend B] (cache cache' : ReplayCache B) : Prop :=
  ∃ calls, Run.state Process.step (.running cache) calls = .running cache'

section

variable [ReplayStateBackend B] {cr : Crates} {s s' : Host B} {cache cache' : ReplayCache B}

instance : Std.Refl (Uses (B := B)) := ⟨fun _ => ⟨[], rfl⟩⟩

theorem Uses.consume (cache : ReplayCache B) (id : Bytes) :
    Uses cache (ReplayCache.consume id cache).state :=
  ⟨[.consume id], EntitlementVerifier.step_consume cache id⟩

theorem Uses.reset (cache : ReplayCache B) : Uses cache cache.resetEphemeral :=
  ⟨[.resetEphemeral], rfl⟩

/-- Both journals of the gate were used, and nothing else was done to them. -/
structure UsesGate (s s' : Host B) : Prop where
  gate : Uses s.engine.gateReplay s'.engine.gateReplay
  grants : Uses s.engine.consumedGrants s'.engine.consumedGrants

theorem UsesGate.of_same (gate : s'.engine.gateReplay = s.engine.gateReplay)
    (grants : s'.engine.consumedGrants = s.engine.consumedGrants) : UsesGate s s' :=
  ⟨gate ▸ Std.Refl.refl _, grants ▸ Std.Refl.refl _⟩

theorem UsesGate.of_reset (gate : s'.engine.gateReplay = s.engine.gateReplay.resetEphemeral)
    (grants : s'.engine.consumedGrants = s.engine.consumedGrants.resetEphemeral) : UsesGate s s' :=
  ⟨gate ▸ .reset _, grants ▸ .reset _⟩

theorem establishSession_uses (nowS : Int64) (scenario : AccessScenario) :
    Steps (UsesGate (B := B)) (establishSession cr nowS scenario) := by
  intro s
  cases hresult : establishSession cr nowS scenario s with
  | ok out s' =>
    obtain ⟨s₁, hkept, -, -, -, rfl⟩ := establishSession_ok hresult
    exact .of_reset (congrArg AccessEngine.gateReplay hkept.1 :)
      (congrArg AccessEngine.consumedGrants hkept.1 :)
  | error e s' =>
    have hkept := establishSession_error hresult
    exact .of_reset (congrArg AccessEngine.gateReplay hkept.1 :)
      (congrArg AccessEngine.consumedGrants hkept.1 :)

theorem requestTransition_uses (requestedState : UInt8) (nowS : Int64)
    (readiness : ReadinessEvidence) :
    Steps (UsesGate (B := B)) (requestTransition cr requestedState nowS readiness) := by
  intro s
  have hrefreshes {s' : Host B} (h : Refreshes cr s s') : UsesGate s s' :=
    .of_same (congrArg AccessEngine.gateReplay h.kept.1 :)
      (congrArg AccessEngine.consumedGrants h.kept.1 :)
  cases hresult : requestTransition cr requestedState nowS readiness s with
  | ok out s' =>
    rcases requestTransition_ok hresult with ⟨-, h⟩ | ⟨i, hissues⟩
    · exact hrefreshes h
    · exact .of_same (congrArg AccessEngine.gateReplay hissues.engine :)
        (congrArg AccessEngine.consumedGrants hissues.engine :)
  | error e s' => exact hrefreshes (requestTransition_error hresult)

/-- What a redemption consumes. -/
theorem redeemTransition_consumes {signedGrantHex : String} {requestedState : UInt8} {nowS : Int64}
    {readiness : ReadinessEvidence} {out : TransitionOutcome}
    (h : redeemTransition cr signedGrantHex requestedState nowS readiness s = .ok out s') :
    ∃ a, Accepts cr s signedGrantHex requestedState nowS readiness a ∧
      out.grantId = some a.grantId ∧
      ReplayCache.consume a.grant.claims.nonce s.engine.gateReplay = .ok () s'.engine.gateReplay ∧
      ReplayCache.consume a.grantId.asBytes s.engine.consumedGrants =
        .ok () s'.engine.consumedGrants := by
  simp only [redeemTransition, bind_eq_ok, get_eq_ok, ofExcept_eq_ok, assign_eq_ok, pure_eq_ok,
    Part.run_eq_ok, and_assoc, exists_and_left, exists_eq_left, exists_const] at h
  obtain ⟨a, s₁, haccept, _, _, ⟨grants, hgrants, rfl⟩, _, -, rfl, rfl⟩ := h
  obtain ⟨haccepts, gateReplay, hnonce, rfl⟩ := acceptGrant_eq_ok.mp haccept
  exact ⟨a, haccepts, rfl, hnonce, hgrants⟩

theorem acceptGrant_keepsGrants (signedGrantHex : String) (requestedState : UInt8) (nowS : Int64)
    (readiness : ReadinessEvidence) :
    Steps (fun s s' : Host B => s'.engine.consumedGrants = s.engine.consumedGrants)
      (acceptGrant cr signedGrantHex requestedState nowS readiness) := by
  have : Std.Refl fun s s' : Host B => s'.engine.consumedGrants = s.engine.consumedGrants :=
    ⟨fun _ => rfl⟩
  have : IsTrans (Host B) fun s s' => s'.engine.consumedGrants = s.engine.consumedGrants :=
    ⟨fun _ _ _ h₁ h₂ => h₂.trans h₁⟩
  have hany {x : EStateM ProtocolError (ReplayCache B) VerifiedEnvelope} :
      Steps (fun _ _ => True) x := fun _ => trivial
  have htake (grantId : String) : Steps (fun s s' : Host B =>
      s'.engine.consumedGrants = s.engine.consumedGrants) (takePending grantId) :=
    .bind .get fun _ => .bind (.okOr _ _) fun _ => .bind (.modify fun _ => rfl) fun _ => .pure _
  refine .bind .get fun s => .bind (.okOr _ _) fun _ => .bind (.okOr _ _) fun _ =>
    .bind (.ofExcept _ _) fun _ => .bind (.run hany fun _ _ _ => rfl)
    fun _ => .bind (.okOr _ _) fun _ => .bind (htake _) fun _ => ?_
  exact .bind (.failIf _ _) fun _ => .bind (.okOr _ _) fun _ => .bind (.ofExcept _ _) fun _ =>
    .bind (.failIf _ _) fun _ => .pure _

/-- What a redemption that fails does to the journals of the gate. -/
theorem redeemTransition_error_uses {signedGrantHex : String} {requestedState : UInt8}
    {nowS : Int64} {readiness : ReadinessEvidence} {e : SessionError}
    (h : redeemTransition cr signedGrantHex requestedState nowS readiness s = .error e s') :
    UsesGate s s' := by
  constructor
  · rcases redeemTransition_error_left h with ⟨rfl, -⟩ | ⟨v, -, ⟨_, cache, hconsume, rfl⟩ | hconsume⟩
    · exact Std.Refl.refl _
    · have huses := Uses.consume s.engine.gateReplay v.claims.nonce
      rw [hconsume] at huses
      exact huses
    · have huses := Uses.consume s.engine.gateReplay v.claims.nonce
      rw [hconsume] at huses
      exact huses
  · simp only [redeemTransition, bind_eq_error, get_eq_error, get_eq_ok, ofExcept_eq_error,
      assign_eq_error, pure_eq_error, Part.run_eq_error, Part.run_eq_ok, and_false, exists_false,
      or_false, false_or, and_assoc, exists_and_left, exists_eq_left] at h
    rcases h with haccept | ⟨a, s₁, haccept, h⟩
    · rw [(acceptGrant_keepsGrants _ _ _ _).error haccept]
      exact Std.Refl.refl _
    have hkept : Host.consumedGrantsPart.get s₁ = s.engine.consumedGrants :=
      (acceptGrant_keepsGrants _ _ _ _).ok haccept
    rw [hkept] at h
    have huses := Uses.consume s.engine.consumedGrants a.grantId.asBytes
    rcases h with ⟨_, grants, hconsume, -, rfl⟩ | ⟨_, _, ⟨grants, hconsume, rfl⟩, _, -, -, rfl⟩
    · rw [hconsume] at huses
      exact huses
    · rw [hconsume] at huses
      exact huses

theorem redeemTransition_uses (signedGrantHex : String) (requestedState : UInt8) (nowS : Int64)
    (readiness : ReadinessEvidence) :
    Steps (UsesGate (B := B)) (redeemTransition cr signedGrantHex requestedState nowS readiness) := by
  intro s
  cases hresult : redeemTransition cr signedGrantHex requestedState nowS readiness s with
  | ok out s' =>
    obtain ⟨a, -, -, hnonce, hgrant⟩ := redeemTransition_consumes hresult
    have hgate := Uses.consume s.engine.gateReplay a.grant.claims.nonce
    have hgrants := Uses.consume s.engine.consumedGrants a.grantId.asBytes
    rw [hnonce] at hgate
    rw [hgrant] at hgrants
    exact ⟨hgate, hgrants⟩
  | error e s' => exact redeemTransition_error_uses hresult

omit [ReplayStateBackend B] in
theorem answer_snd (wrap : Except SessionError α → Reply) (x : EngineM B α) (s : Host B) :
    (answer wrap x s).2 = (x s).state := by
  unfold answer
  cases x s <;> rfl

/-- What a call of the engine that does not replace the journals does to those of the gate. -/
theorem command_uses {now : SystemTime} {command : Command} {c : Call B}
    (h : command.call? now = some c) : UsesGate s (Access.step cr s c).2 := by
  cases command with
  | describe => cases h
  | establish scenario nowS =>
    obtain ⟨scenario, -, rfl⟩ := Option.map_eq_some_iff.mp h
    rw [Access.step, answer_snd]
    exact establishSession_uses _ _ s
  | transition requestedState nowS readiness =>
    cases h
    rw [Access.step, answer_snd]
    exact requestTransition_uses _ _ _ s
  | redeemEntitlement requestedState entitlementHex nowS readiness =>
    cases h
    rw [Access.step, answer_snd]
    exact redeemTransition_uses _ _ _ _ s

end

/-! ## What is accepted once -/

/-- The outcome of a line that redeems an entitlement. -/
def redeemed (e : Event B) : Option TransitionOutcome :=
  match e.call.input, e.reply.value with
  | .ok (.redeemEntitlement ..), some (.transition out) => some out
  | _, _ => none

/-- The claims in an envelope. -/
def readClaims (cr : Crates) (encoded : Bytes) : Option ProtocolClaims := do
  let message ← cr.fromTaggedSlice encoded
  let payload ← message.payload
  cr.fromReader payload >>= ProtocolClaims.deserialize

/-- The claims that a line presents. -/
def presentedClaims (cr : Crates) (e : Event B) : Option ProtocolClaims :=
  match e.call.input with
  | .ok (.redeemEntitlement _ entitlementHex _ _) =>
    (Hex.decode entitlementHex.asBytes).toOption.bind (readClaims cr)
  | _ => none

/-- The grant that is redeemed. -/
def Occurrence.redeemedGrant : Occurrence B → Option String
  | .answered e => (redeemed e).bind (·.grantId)
  | _ => none

/-- The nonce of the envelope that is redeemed. -/
def Occurrence.redeemedNonce (cr : Crates) : Occurrence B → Option Bytes
  | .answered e => (redeemed e).bind fun _ => (presentedClaims cr e).map (·.nonce)
  | _ => none

theorem readClaims_eq_some {cr : Crates} {encoded : Bytes} {claims : ProtocolClaims} :
    readClaims cr encoded = some claims ↔ ReadAs cr encoded claims := by
  simp only [readClaims, Option.bind_eq_bind, Option.bind_eq_some_iff]
  constructor
  · rintro ⟨message, hmessage, payload, hpayload, hclaims⟩
    exact ⟨message, payload, hmessage, hpayload, Option.bind_eq_some_iff.mpr hclaims⟩
  · rintro ⟨message, payload, hmessage, hpayload, hclaims⟩
    exact ⟨message, hmessage, payload, hpayload, Option.bind_eq_some_iff.mp hclaims⟩

section

variable [ReplayStateBackend B] {cr : Crates} {s : Host B} {first : B} {f : Occurrence B → Option Bytes}
  {os : List (Occurrence B)} {o : Occurrence B} {p : Process B} {cache cache' : ReplayCache B}

/-- What the occurrences of a run accept is accepted once, by a journal that went through a run of a
replay cache. -/
structure Records (f : Occurrence B → Option Bytes) (first : B) (os : List (Occurrence B))
    (p : Process B) : Prop where
  nodup : (os.filterMap f).Nodup
  exists_run : ∃ ces, Guarded first ces p ∧ os.filterMap f ⊆ ces.filterMap acceptedId

theorem Records.nil (first : B) : Records f first [] (.down first) :=
  ⟨List.nodup_nil, [], Guarded.nil first, List.nil_subset _⟩

/-- An occurrence that accepts nothing. -/
theorem Records.cons_of_none (H : Records f first os p) (haccepts : f o = none) {p' : Process B}
    {ces : List (CacheEvent B)} (hguarded : Guarded first ces p')
    (hsub : os.filterMap f ⊆ ces.filterMap acceptedId) : Records f first (o :: os) p' := by
  have hos : (o :: os).filterMap f = os.filterMap f := List.filterMap_cons_none haccepts
  constructor
  · rw [hos]
    exact H.nodup
  · refine ⟨ces, hguarded, ?_⟩
    rw [hos]
    exact hsub

/-- Consumptions and resets of a cache keep the guarantee. -/
theorem guarded_of_uses (hfirst : Storage.Honours (storageOps B) first)
    {ces : List (CacheEvent B)} (hguarded : Guarded first ces (.running cache))
    (huses : Uses cache cache') : ∃ ces', Guarded first ces' (.running cache') ∧
      ces.filterMap acceptedId ⊆ ces'.filterMap acceptedId := by
  obtain ⟨calls, hcalls⟩ := huses
  rw [← hcalls]
  clear hcalls
  induction calls with
  | nil => exact ⟨ces, hguarded, List.Subset.refl _⟩
  | cons c calls ih =>
    obtain ⟨ces', hguarded', hsub⟩ := ih
    exact ⟨_, hguarded'.step hfirst c,
      List.Subset.trans hsub (EntitlementVerifier.Journaled.subset_cons _ _)⟩

/-- An occurrence in a running process. What it accepts, it consumes. -/
theorem Records.answer (H : Records f first os (.running cache))
    (hfirst : Storage.Honours (storageOps B) first) (huses : Uses cache cache')
    (hconsume : ∀ id, f o = some id → ReplayCache.consume id cache = .ok () cache') :
    Records f first (o :: os) (.running cache') := by
  obtain ⟨ces, hguarded, hsub⟩ := H.exists_run
  cases haccepts : f o with
  | none =>
    obtain ⟨ces', hguarded', hsub'⟩ := guarded_of_uses hfirst hguarded huses
    exact H.cons_of_none haccepts hguarded' (List.Subset.trans hsub hsub')
  | some id =>
    have hconsumed := hconsume id haccepts
    have hstep : Process.step (.running cache) (.consume id) = (some (.ok ()), .running cache') := by
      simp only [Process.step, hconsumed]
    have hguarded' := hguarded.step hfirst (.consume id)
    simp only [Run.event, hstep] at hguarded'
    have hos : (o :: os).filterMap f = id :: os.filterMap f := List.filterMap_cons_some haccepts
    constructor
    · rw [hos]
      refine List.nodup_cons.mpr ⟨?_, H.nodup⟩
      intro hmem
      exact (ReplayCache.consume_eq_ok.mp hconsumed).1 (hguarded.memory cache rfl id (hsub hmem))
    · refine ⟨_, hguarded', ?_⟩
      rw [hos]
      exact List.cons_subset_cons id hsub

/-- A process ends or does not start. -/
theorem Records.stop (H : Records f first os p) (haccepts : f o = none) {storage storage' : B}
    (hp : p.storage? = some storage) (hlater : Storage.Later (storageOps B) storage storage') :
    Records f first (o :: os) (.down storage') := by
  obtain ⟨ces, hguarded, hsub⟩ := H.exists_run
  obtain ⟨_, hp', hlater', hdurable⟩ := hguarded.storage
  cases hp.symm.trans hp'
  refine H.cons_of_none haccepts ⟨hguarded.nodup, ⟨storage', rfl, hlater'.trans hlater, ?_⟩, ?_⟩ hsub
  · intro id hid
    exact (hdurable id hid).later hlater
  · intro cache hcache
    cases hcache

/-- A process starts. -/
theorem Records.start {storage : B} (H : Records f first os (.down storage)) (haccepts : f o = none)
    (hstart : ReplayCache.withBackend storage = .ok cache) :
    Records f first (o :: os) (.running cache) := by
  obtain ⟨ces, hguarded, hsub⟩ := H.exists_run
  have hguarded' := hguarded.start (e := Run.event Process.step (.down storage) .restart) rfl rfl
  have hrunning : (Process.start storage).2 = .running cache := by
    simp only [Process.start, hstart]
  rw [hrunning] at hguarded'
  exact H.cons_of_none haccepts hguarded'
    (List.Subset.trans hsub (EntitlementVerifier.Journaled.subset_cons _ _))

end

/-! ## Over all lives -/

section

variable [ReplayStateBackend B] {cr : Crates} {s : Host B} {line : Line} {first : Journals B}
  {os : List (Occurrence B)} {o : Occurrence B} {server server' : Server B}

/-- A line that redeems an entitlement. -/
theorem redeemTransition_of_redeemed {out : TransitionOutcome}
    (h : redeemed (Run.event (step cr) s line) = some out) :
    ∃ requestedState entitlementHex nowS readiness,
      line.input = .ok (.redeemEntitlement requestedState entitlementHex nowS readiness) ∧
      redeemTransition cr entitlementHex requestedState (nowS.getD line.now.unixTime) readiness s =
        .ok out (step cr s line).2 := by
  obtain ⟨input, now⟩ := line
  simp only [redeemed, Run.event] at h
  split at h
  · rename_i value requestedState entitlementHex nowS readiness out' hvalue
    cases h
    refine ⟨requestedState, entitlementHex, nowS, readiness, rfl, ?_⟩
    obtain ⟨out', hok, hout'⟩ := respond_value (Prod.ext rfl rfl : respond .transition
      (redeemTransition cr entitlementHex requestedState (nowS.getD now.unixTime) readiness) s =
        (_, _)) hvalue
    cases hout'
    exact hok
  · cases h

/-- What a line does to the journals of the gate. -/
theorem step_uses (s : Host B) (line : Line) : UsesGate s (step cr s line).2 := by
  rw [step_eq]
  cases hcall : line.input.toOption.bind (Command.call? line.now) with
  | none => exact .of_same rfl rfl
  | some c =>
    obtain ⟨command, -, hcommand⟩ := Option.bind_eq_some_iff.mp hcall
    exact command_uses hcommand

/-- What a line that redeems an entitlement consumes. -/
theorem redeemed_consumes {out : TransitionOutcome}
    (h : redeemed (Run.event (step cr) s line) = some out) :
    (∃ grantId, out.grantId = some grantId ∧
      ReplayCache.consume grantId.asBytes s.engine.consumedGrants =
        .ok () (step cr s line).2.engine.consumedGrants) ∧
    ∃ claims, presentedClaims cr (Run.event (step cr) s line) = some claims ∧
      ReplayCache.consume claims.nonce s.engine.gateReplay =
        .ok () (step cr s line).2.engine.gateReplay := by
  obtain ⟨requestedState, entitlementHex, nowS, readiness, hinput, hok⟩ :=
    redeemTransition_of_redeemed h
  obtain ⟨a, haccepts, hgrantId, hnonce, hgrant⟩ := redeemTransition_consumes hok
  refine ⟨⟨a.grantId, hgrantId, hgrant⟩, a.grant.claims, ?_, hnonce⟩
  obtain ⟨encoded, hdecode, hverified⟩ := haccepts.presented
  simp only [presentedClaims, Run.event, hinput, hdecode, Except.toOption, Option.bind_some]
  exact readClaims_eq_some.mpr hverified.readAs

/-- The journal of the presented nonces, with its cache. -/
def Server.gate : Server B → Process B
  | running host => .running host.engine.gateReplay
  | down journals => .down journals.gateNonces

/-- The journal of the redeemed grants, with its cache. -/
def Server.grants : Server B → Process B
  | running host => .running host.engine.consumedGrants
  | down journals => .down journals.consumedGrants

/-- Grants and nonces are accepted once. -/
structure Kept (cr : Crates) (first : Journals B) (os : List (Occurrence B)) (server : Server B) :
    Prop where
  grants : Records (fun o => o.redeemedGrant.map String.asBytes) first.consumedGrants os
    server.grants
  gate : Records (Occurrence.redeemedNonce cr) first.gateNonces os server.gate

theorem Kept.step (H : Kept cr first os server)
    (hgate : Storage.Honours (storageOps B) first.gateNonces)
    (hgrants : Storage.Honours (storageOps B) first.consumedGrants)
    (hstep : Server.Step cr server o server') : Kept cr first (o :: os) server' := by
  cases hstep with
  | answered host line =>
    have huses : UsesGate host (Authority.step cr host line).2 := step_uses host line
    constructor
    · refine H.grants.answer hgrants huses.grants ?_
      intro id hid
      obtain ⟨grantId, hgrantId, rfl⟩ := Option.map_eq_some_iff.mp hid
      obtain ⟨out, hout, hgrantId⟩ := Option.bind_eq_some_iff.mp hgrantId
      obtain ⟨⟨grantId', hgrantId', hconsume⟩, -⟩ := redeemed_consumes hout
      cases hgrantId.symm.trans hgrantId'
      exact hconsume
    · refine H.gate.answer hgate huses.gate ?_
      intro id hid
      obtain ⟨out, hout, hid⟩ := Option.bind_eq_some_iff.mp hid
      obtain ⟨-, claims, hclaims, hconsume⟩ := redeemed_consumes hout
      rw [hclaims, Option.map_some, Option.some.injEq] at hid
      rw [← hid]
      exact hconsume
  | @ended host journals journals' left later =>
    simp only [journals?, Option.bind_eq_bind, Option.bind_eq_some_iff, Option.pure_def,
      Option.some.injEq] at left
    obtain ⟨_, -, _, -, _, hgateNonces, _, hconsumedGrants, rfl⟩ := left
    exact ⟨H.grants.stop rfl hconsumedGrants later.consumedGrants,
      H.gate.stop rfl hgateNonces later.gateNonces⟩
  | @started journals env nowS host ok =>
    obtain ⟨setup, -, henable⟩ := start_eq_ok.mp ok
    simp only [enablePersistentState, bind_eq_ok, ofExcept_eq_ok, assign_eq_ok] at henable
    obtain ⟨_, _, ⟨-, rfl⟩, _, _, rfl, _, _, ⟨-, rfl⟩, _, _, rfl, gate, _, ⟨hgateOpened, rfl⟩, _, _,
      rfl, grants, _, ⟨hgrantsOpened, rfl⟩, rfl⟩ := henable
    exact ⟨H.grants.start rfl hgrantsOpened, H.gate.start rfl hgateOpened⟩
  | notStarted later =>
    exact ⟨H.grants.stop rfl rfl later.consumedGrants, H.gate.stop rfl rfl later.gateNonces⟩

theorem kept (hgate : Storage.Honours (storageOps B) first.gateNonces)
    (hgrants : Storage.Honours (storageOps B) first.consumedGrants)
    (run : Server.Runs cr first os server) : Kept cr first os server := by
  induction run with
  | nil => exact ⟨.nil _, .nil _⟩
  | cons run step ih => exact ih.step hgate hgrants step

end

/-! ## One life -/

/-- The events of the process that runs, or ended last. -/
def life : List (Occurrence B) → List (Event B)
  | .answered e :: os => e :: life os
  | _ => []

/-- A line starts a session, or tries to. -/
def StartsSession (e : Event B) : Prop :=
  ∃ scenario nowS accessScenario, e.call.input = .ok (.establish scenario nowS) ∧
    parseScenario scenario = .ok accessScenario

/-- A grant was issued before, in the same life and the same session, one stage before. -/
def IssuedInLife (os : List (Occurrence B)) (out : TransitionOutcome) : Prop :=
  ∃ between r older nowS readiness issued, life os = between ++ r :: older ∧
    (∀ e ∈ between, ¬StartsSession e) ∧
    r.call.input = .ok (.transition out.resultingState nowS readiness) ∧
    r.reply.value = some (.transition issued) ∧ issued.approved = true ∧
    issued.grantId = out.grantId ∧ stateNumber r.before.engine.state = out.previousState

section

variable [ReplayStateBackend B] {cr : Crates} {first : Journals B} {os : List (Occurrence B)}
  {o : Occurrence B} {server server' : Server B}

/-- The event of the engine behind a line. -/
def engineEvent? (cr : Crates) (e : Event B) : Option (Access.Event B) :=
  (e.call.input.toOption.bind (Command.call? e.call.now)).map
    fun c => Run.event (Access.step cr) e.before c

/-- The life of a process is a run of an engine that first opened the journals. -/
structure Lived (cr : Crates) (os : List (Occurrence B)) (host : Host B) : Prop where
  exists_run : ∃ setup calls opened, host = Host.after cr setup calls ∧
    history cr setup calls = (life os).filterMap (engineEvent? cr) ++ [opened] ∧
    ∃ openFile, opened.call = .enablePersistentState openFile
  steps : ∀ e ∈ life os, e = Run.event (step cr) e.before e.call

theorem Lived.answer {host : Host B} (H : Lived cr os host) (line : Line) :
    Lived cr (.answered (Run.event (step cr) host line) :: os) (step cr host line).2 := by
  obtain ⟨⟨setup, calls, opened, rfl, hhistory, hopened⟩, hsteps⟩ := H
  constructor
  · rw [step_eq]
    cases hcall : line.input.toOption.bind (Command.call? line.now) with
    | none =>
      refine ⟨setup, calls, opened, rfl, ?_, hopened⟩
      have hnone : engineEvent? cr (Run.event (step cr) (Host.after cr setup calls) line) = none :=
        congrArg (Option.map _) hcall
      rw [life, List.filterMap_cons_none hnone]
      exact hhistory
    | some c =>
      refine ⟨setup, c :: calls, opened, rfl, ?_, hopened⟩
      have hsome : engineEvent? cr (Run.event (step cr) (Host.after cr setup calls) line) =
        some (Run.event (Access.step cr) (Host.after cr setup calls) c) :=
        congrArg (Option.map _) hcall
      rw [life, List.filterMap_cons_some hsome, List.cons_append, ← hhistory]
      rfl
  · intro e he
    rcases List.mem_cons.mp he with rfl | he
    · rfl
    · exact hsteps e he

theorem lived (run : Server.Runs cr first os server) {host : Host B}
    (h : server = .running host) : Lived cr os host := by
  induction run generalizing host with
  | nil => cases h
  | cons run step ih =>
    cases step with
    | answered host line =>
      cases h
      exact (ih rfl).answer line
    | @started journals env nowS host ok =>
      cases h
      obtain ⟨setup, -, henable⟩ := start_eq_ok.mp ok
      refine ⟨⟨setup, [.enablePersistentState journals.openFile], _, ?_, rfl, _, rfl⟩, ?_⟩
      · simp only [Host.after, Run.state, Access.step, answer, henable]
      · intro e he
        cases he
    | ended | notStarted => cases h

/-- An occurrence is a step of a run. -/
theorem Server.Runs.split {later earlier : List (Occurrence B)}
    (run : Server.Runs cr first os server) (h : os = later ++ o :: earlier) :
    ∃ s₁ s₂, Server.Runs cr first earlier s₁ ∧ Server.Step cr s₁ o s₂ := by
  induction run generalizing later with
  | nil => cases later <;> cases h
  | cons run step ih =>
    cases later with
    | nil =>
      cases h
      exact ⟨_, _, run, step⟩
    | cons _ later => exact ih (List.cons.inj h).2

/-- A line that asks for a transition, by the event of the engine. -/
theorem transition_of_engineEvent {e : Event B} {request : Access.Event B}
    (he : e = Run.event (step cr) e.before e.call) (h : engineEvent? cr e = some request)
    {requestedState : UInt8} {nowS : Int64} {readiness : ReadinessEvidence}
    {issued : TransitionOutcome}
    (hcall : request.call = .requestTransition requestedState nowS readiness)
    (hreply : request.reply = .issued (.ok issued)) :
    (∃ nowS, e.call.input = .ok (.transition requestedState nowS readiness)) ∧
      e.reply.value = some (.transition issued) ∧ request.before = e.before := by
  obtain ⟨before, ⟨input, now⟩, reply, after⟩ := e
  obtain ⟨c, hc, rfl⟩ := Option.map_eq_some_iff.mp h
  cases (hcall : c = _)
  obtain ⟨askedS, hinput, rfl⟩ := input_of_requestTransition hc
  cases (hinput : input = _)
  refine ⟨⟨askedS, rfl⟩, ?_, rfl⟩
  have hanswered : reply = (step cr before ⟨.ok (.transition requestedState askedS readiness),
    now⟩).1 := congrArg Run.Event.reply he
  rw [hanswered]
  simp only [Run.event, Access.step, answer] at hreply
  simp only [step, handleCommand, respond]
  split at hreply
  · rename_i hresult
    cases hreply
    rw [hresult]
  · cases hreply

/-- A line that starts a session, by the event of the engine. -/
theorem establishes_of_startsSession {e : Event B} (h : StartsSession e) :
    ∃ event, engineEvent? cr e = some event ∧ establishes event = true := by
  obtain ⟨before, ⟨input, now⟩, reply, after⟩ := e
  obtain ⟨scenario, nowS, accessScenario, hinput, hscenario⟩ := h
  cases hinput
  simp only [engineEvent?, Except.toOption, Option.bind_some, Command.call?, hscenario,
    Option.map_some]
  exact ⟨_, rfl, rfl⟩

omit [ReplayStateBackend B] in
theorem exists_before_last {xs before after : List α} {last x : α}
    (h : xs ++ [last] = before ++ x :: after) (ne : x ≠ last) :
    ∃ rest, xs = before ++ x :: rest := by
  rcases List.eq_nil_or_concat after with rfl | ⟨rest, y, rfl⟩
  · have same := (List.append_inj' h rfl).2
    exact absurd (List.cons.inj same).1.symm ne
  · rw [List.concat_eq_append, ← List.cons_append, ← List.append_assoc] at h
    exact ⟨rest, (List.append_inj' h rfl).1⟩

/-- In one life. -/
theorem Lived.issuedInLife {host : Host B} (H : Lived cr os host) {line : Line}
    {out : TransitionOutcome} (hout : redeemed (Run.event (step cr) host line) = some out) :
    IssuedInLife os out := by
  obtain ⟨⟨setup, calls, opened, rfl, hhistory, openFile, hopened⟩, hsteps⟩ := H
  obtain ⟨requestedState, entitlementHex, nowS, readiness, hinput, hok⟩ :=
    redeemTransition_of_redeemed hout
  let c : Call B := .redeemTransition entitlementHex requestedState (nowS.getD line.now.unixTime)
    readiness
  have hredemption : redemption (Run.event (Access.step cr) (Host.after cr setup calls) c) =
      some out := by
    simp only [c, redemption, Run.event, Access.step, Access.answer, hok]
  have hcons : history cr setup (c :: calls) =
    [] ++ Run.event (Access.step cr) (Host.after cr setup calls) c :: history cr setup calls := rfl
  obtain ⟨g, hg, -, -, between, request, older, nowS', readiness', issued, hsplit, -, hsession,
    hcall, hreply, happroved, hissued, hbefore⟩ := (redeemed_inOrder hcons hredemption).usesUp
  rw [hhistory] at hsplit
  -- the request is not the opening of the journals, so it is behind a line of this life
  have hrequest : request ≠ opened := by
    rintro rfl
    cases hopened.symm.trans hcall
  obtain ⟨rest, hlife⟩ := exists_before_last hsplit hrequest
  obtain ⟨between', rest', hlife, hbetween, hrest⟩ := List.filterMap_eq_append_iff.mp hlife
  obtain ⟨skipped, r, older', rfl, hskipped, hr, -⟩ := List.filterMap_eq_cons_iff.mp hrest
  rw [← List.append_assoc] at hlife
  have hmem : r ∈ life os := hlife ▸ List.mem_append_right _ (.head _)
  obtain ⟨⟨nowS'', htransition⟩, hvalue, hstate⟩ :=
    transition_of_engineEvent (hsteps r hmem) hr hcall hreply
  refine ⟨between' ++ skipped, r, older', nowS'', readiness', issued, hlife, ?_, htransition,
    hvalue, happroved, hissued.trans hg.symm, ?_⟩
  · intro e he hstarts
    have hopened : ∃ event, engineEvent? cr e = some event ∧ establishes event = true :=
      establishes_of_startsSession hstarts
    obtain ⟨event, hevent, hestablishes⟩ := hopened
    rcases List.mem_append.mp he with he | he
    · have hmem : event ∈ between := by
        rw [← hbetween]
        exact List.mem_filterMap.mpr ⟨e, he, hevent⟩
      have hnot := List.all_eq_true.mp hsession event hmem
      rw [hestablishes] at hnot
      cases hnot
    · cases (hskipped e he).symm.trans hevent
  · rw [← hstate]
    exact hbefore

/-- Over journals of the gate that honour their contract, in every run of the authority, whatever it
is restarted with and wherever its processes end: no grant is redeemed twice, no nonce is presented
successfully twice, and a grant that is redeemed was issued in the same life and the same session,
one stage before. -/
theorem redeemed_once_over_restarts (cr : Crates) (first : Journals B)
    (hgate : Storage.Honours (storageOps B) first.gateNonces)
    (hgrants : Storage.Honours (storageOps B) first.consumedGrants) (os : List (Occurrence B))
    (server : Server B) (run : Server.Runs cr first os server) :
    (os.filterMap Occurrence.redeemedGrant).Nodup ∧
    (os.filterMap (Occurrence.redeemedNonce cr)).Nodup ∧
    ∀ later earlier e out, os = later ++ .answered e :: earlier → redeemed e = some out →
      IssuedInLife earlier out := by
  have H := kept hgate hgrants run
  refine ⟨?_, H.gate.nodup, ?_⟩
  · have hnodup := H.grants.nodup
    rw [← List.map_filterMap] at hnodup
    exact hnodup.of_map _
  · intro later earlier e out hsplit hout
    obtain ⟨s₁, s₂, hrun, hstep⟩ := run.split hsplit
    cases hstep with
    | answered host line => exact (lived hrun rfl).issuedInLife hout

end

end Access.Authority

/-! ## A run with a restart -/

namespace Access.Simulation

open Authority

def emptyJournals : Journals FileReplayStateBackend :=
  ⟨emptyJournal, emptyJournal, emptyJournal, emptyJournal⟩

/-- The process of the simulation over journals. -/
def startOver (journals : Journals FileReplayStateBackend) :
    Except Authority.DynError (Host FileReplayStateBackend) :=
  Authority.start reference { environment with openFile := journals.openFile } newYearS

/-- The redemption of what was signed last. -/
def redemptionLine (host : Host FileReplayStateBackend) : Line :=
  lineOf (.redeemEntitlement 1 (hexText (lastSigned host.world)) ·
    { steady with observedAtMs := (newYearS + 1) * 1000 })

/-- The process that was asked for a session and a grant. -/
def granted (host : Host FileReplayStateBackend) : Host FileReplayStateBackend :=
  Run.state (Authority.step reference) host [transitionLine, establishLine]

def redemptionEvent (host : Host FileReplayStateBackend) :
    Authority.Event FileReplayStateBackend :=
  Run.event (Authority.step reference) (granted host) (redemptionLine (granted host))

/-- A process ends after its start, and the next one redeems a grant. -/
theorem restart_redeems : ((startOver emptyJournals).toOption.any fun host =>
    (journals? host).any fun journals =>
      (startOver journals).toOption.any fun host => (redeemed (redemptionEvent host)).isSome) =
        true := by
  decide +kernel

theorem exists_restart : ∃ host journals host' out, startOver emptyJournals = .ok host ∧
    journals? host = some journals ∧ startOver journals = .ok host' ∧
    redeemed (redemptionEvent host') = some out := by
  obtain ⟨host, hstart, hends⟩ := exists_of_toOption_any restart_redeems
  obtain ⟨journals, hjournals, hredeems⟩ := (Option.any_eq_true _ _).mp hends
  obtain ⟨host', hstart', hredeems⟩ := exists_of_toOption_any hredeems
  obtain ⟨out, hout⟩ := Option.isSome_iff_exists.mp hredeems
  exact ⟨host, journals, host', out, hstart, hjournals, hstart', hout⟩

end Access.Simulation

namespace Access.Authority

open Simulation

/-- A grant is redeemed after a restart. -/
theorem redeemed_once_over_restarts_simulation :
    ∃ (os : List (Occurrence FileReplayStateBackend)) (e : Event FileReplayStateBackend)
      (earlier : List (Occurrence FileReplayStateBackend)) (out : TransitionOutcome),
      os = .answered e :: earlier ∧ redeemed e = some out ∧
      (os.filterMap Occurrence.redeemedGrant).Nodup ∧ IssuedInLife earlier out := by
  obtain ⟨host, journals, host', out, hstart, hjournals, hstart', hout⟩ := exists_restart
  have hhonours : Storage.Honours (storageOps FileReplayStateBackend) emptyJournal :=
    FileReplayStateBackend.Whole.honours ⟨rfl, by simp [emptyJournal]⟩
  have hlater : journals.Later journals := ⟨.refl _, .refl _, .refl _, .refl _⟩
  have hnil : Server.Runs reference emptyJournals [] (.down emptyJournals) := .nil
  have hrestarted := ((hnil.cons (.started hstart)).cons (.ended hjournals hlater)).cons
    (.started hstart')
  have hrun := ((hrestarted.cons (.answered host' establishLine)).cons
    (.answered _ transitionLine)).cons (.answered _ (redemptionLine (granted host')))
  obtain ⟨hnodup, -, hissued⟩ := redeemed_once_over_restarts reference emptyJournals hhonours
    hhonours _ _ hrun
  exact ⟨_, redemptionEvent host', _, out, rfl, hout, hnodup, hissued [] _ _ out rfl hout⟩

end Access.Authority
