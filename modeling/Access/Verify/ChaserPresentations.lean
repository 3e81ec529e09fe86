import Access.VerifierClient
import Access.Verify.AuthorityRestarts
import Access.Verify.HandlerReturns
import Access.Verify.StationRuns
import Access.Verify.VerifierRuns

/-! # What the chaser presents

The chaser presents an entitlement only after its verifier accepted it, for the session that the
chaser has and the stage that was asked for, and every acceptance is good for one presentation. A
verifier accepts a nonce once, so no envelope is presented twice. -/

namespace Access.VerifierClient

open EStateM Python Serde
open AuthorityClient (Fate Loss)
open ChaserAccess (ChaserHost ChaserM ChaserNode ChaserMessage stageName)
open EntitlementVerifier

/-- What is presented, or accepted: an entitlement for a stage in a session. -/
structure Entitlement where
  sessionId : String
  stage : String
  grantId : String
  entitlementHex : String

/-- The nonce in the envelope. -/
def Entitlement.nonce (cr : Crates) (x : Entitlement) : Option Bytes :=
  (Hex.decode x.entitlementHex.asBytes).toOption.bind fun encoded =>
    (Authority.readClaims cr encoded).map (·.nonce)

def IsPresentation (message : Json) : Prop :=
  message.field? "kind" = some (.str "entitlement_presentation")

def readInt : Json → Option Int
  | .int n => some n
  | _ => none

/-- The entitlement in a presentation. -/
def presented? (message : Json) : Option Entitlement :=
  match message.field? "kind" with
  | some (.str "entitlement_presentation") => do
    let sessionId ← (message.field? "session_id").bind readText
    let requestedState ← (message.field? "requested_state").bind readInt
    let stage ← stageName.lookup requestedState
    let grantId ← (message.field? "grant_id").bind readText
    let entitlementHex ← (message.field? "signed_grant_hex").bind readText
    pure { sessionId, stage, grantId, entitlementHex }
  | _ => none

/-- The entitlement that was accepted. -/
def accepted? (entry : Handled) : Option Entitlement :=
  match entry.result with
  | .ok out => do
    let command ← VerifyCommand.ofJson entry.payload
    let entitlementHex ← command.entitlementHex
    pure
      { sessionId := out.sessionId
        stage := out.authorizedStage
        grantId := out.grantId
        entitlementHex }
  | .error _ => none

/-- An entitlement that was accepted, with all that was checked of it. -/
structure Accepts (cr : Crates) (bundle : ClientTrustBundle) (trust : TrustStore) (entry : Handled)
    (x : Entitlement) : Prop where
  exists_checked : ∃ command out encoded v, VerifyCommand.ofJson entry.payload = some command ∧
    entry.result = .ok out ∧ command.entitlementHex = some x.entitlementHex ∧
    Hex.decode x.entitlementHex.asBytes = .ok encoded ∧
    Entitled cr bundle trust command encoded (command.nowS.getD entry.unixTime) v out ∧
    x.nonce cr = some v.claims.nonce ∧
    command.expectedSessionId = some x.sessionId ∧ command.expectedStage = some x.stage ∧
    v.claims.grantId = some x.grantId

/-- The nonce of what was accepted. -/
def acceptedNonce (cr : Crates) (entry : Handled) : Option Bytes :=
  (accepted? entry).bind (·.nonce cr)

theorem accepted?_ok {payload : Json} {unixTime : Int64} {out : VerifiedEntitlement} {x : Entitlement}
    (h : accepted? ⟨payload, unixTime, .ok out⟩ = some x) : x.grantId = out.grantId := by
  simp only [accepted?, Option.bind_eq_bind, Option.bind_eq_some_iff, Option.pure_def,
    Option.some.injEq] at h
  obtain ⟨_, -, _, -, rfl⟩ := h
  rfl

/-! ## The verifier -/

section

variable [ReplayStateBackend B] {cr : Crates} {bundle : ClientTrustBundle} {trust : TrustStore}
  {replay replay' : ReplayCache B} {payload : Json} {unixTime : Int64} {fate : Fate}
  {p p' : Process B}

/-- A verification that succeeds accepts an entitlement, and consumes its nonce. -/
theorem verifyPayload_ok {out : VerifiedEntitlement}
    (h : verifyPayload cr unixTime payload bundle trust replay = .ok out replay') :
    ∃ x nonce, accepted? ⟨payload, unixTime, .ok out⟩ = some x ∧
      Accepts cr bundle trust ⟨payload, unixTime, .ok out⟩ x ∧ x.nonce cr = some nonce ∧
      ReplayCache.consume nonce replay = .ok () replay' := by
  obtain ⟨command, hex, encoded, v, hparse, -, hhex, hdecode, henvelope, hcheck, hconsume⟩ :=
    verifyCommand_eq_ok.mp h
  have hcommand : VerifyCommand.ofJson payload = some command := Except.okOr_eq_ok.mp hparse
  have hchecked := checkGrant_eq_ok.mp hcheck
  have hfresh := UInt64.le_iff_toNat_le.mp henvelope.fresh
  rw [Int64.toNat_absDiff, Int64.toNat_unsignedAbs] at hfresh
  let x : Entitlement := ⟨out.sessionId, out.authorizedStage, out.grantId, hex⟩
  have hnonce : x.nonce cr = some v.claims.nonce := by
    have hclaims : Authority.readClaims cr encoded = some v.claims :=
      Authority.readClaims_eq_some.mpr henvelope.readAs
    simp only [Entitlement.nonce, x, hdecode, Except.toOption, Option.bind_some, hclaims,
      Option.map_some]
  refine ⟨x, _, ?_, ?_, hnonce, hconsume⟩
  · simp only [accepted?, hcommand, hhex, Option.bind_eq_bind, Option.bind_some]
    rfl
  · exact ⟨command, out, encoded, v, hcommand, rfl, hhex, hdecode,
      ⟨henvelope, hchecked, henvelope.recipient_eq, hfresh⟩, hnonce, hchecked.expectedSessionId,
      hchecked.expectedStage, hchecked.grantId⟩

/-- A verification that fails forgets no nonce. -/
theorem verifyPayload_error {e : DynError}
    (h : verifyPayload cr unixTime payload bundle trust replay = .error e replay') :
    replay.consumed ⊆ replay'.consumed := by
  rcases verifyCommand_error h with ⟨rfl, -⟩ | ⟨_, v, -, rfl⟩
  · exact Finset.Subset.refl _
  · cases hconsume : ReplayCache.consume v.claims.nonce replay with
    | ok u replay' =>
      obtain ⟨-, committed, -, rfl⟩ := ReplayCache.consume_eq_ok.mp hconsume
      exact Finset.subset_insert _ _
    | error e replay' =>
      exact (ReplayCache.consume_error_consumed hconsume).symm.subset

/-- A verifier that has accepted no nonce twice. -/
structure Consumed (cr : Crates) (p : Process B) : Prop where
  nodup : (p.handled.filterMap (acceptedNonce cr)).Nodup
  memory : ∀ replay, p.replay = some replay →
    ∀ nonce ∈ p.handled.filterMap (acceptedNonce cr), nonce ∈ replay.consumed
  accepts : ∀ entry ∈ p.handled, ∀ x, accepted? entry = some x → Accepts cr p.bundle p.trust entry x

omit [ReplayStateBackend B] in
/-- The verifier is lost. -/
theorem Consumed.lost {p : Process B} (H : Consumed cr p) :
    Consumed cr ({ p with replay := none } : Process B) where
  nodup := H.nodup
  memory replay h := by cases h
  accepts := H.accepts

/-- One line. -/
theorem Consumed.handle {p : Process B} (H : Consumed cr p) (payload : Json) (unixTime : Int64)
    (hreplay : p.replay = some replay) :
    Consumed cr
      ({ p with
        replay := some (resultOf (verifyPayload cr unixTime payload p.bundle p.trust replay)).2
        handled := ⟨payload, unixTime,
          (resultOf (verifyPayload cr unixTime payload p.bundle p.trust replay)).1⟩ :: p.handled } :
        Process B) := by
  cases h : verifyPayload cr unixTime payload p.bundle p.trust replay with
  | ok out replay' =>
    obtain ⟨x, nonce, haccepted, haccepts, hnonce, hconsume⟩ := verifyPayload_ok h
    have hnew : acceptedNonce cr ⟨payload, unixTime, .ok out⟩ = some nonce := by
      rw [acceptedNonce, haccepted]
      exact hnonce
    obtain ⟨hunused, committed, -, rfl⟩ := ReplayCache.consume_eq_ok.mp hconsume
    refine ⟨?_, ?_, ?_⟩
    · simp only [resultOf, List.filterMap_cons, hnew]
      exact List.nodup_cons.mpr ⟨fun mem => hunused (H.memory replay hreplay nonce mem), H.nodup⟩
    · rintro _ ⟨⟩
      simp only [resultOf, List.filterMap_cons, hnew]
      refine List.forall_mem_cons.mpr ⟨Finset.mem_insert_self _ _, fun other mem => ?_⟩
      exact Finset.mem_insert_of_mem (H.memory replay hreplay other mem)
    · refine List.forall_mem_cons.mpr ⟨?_, H.accepts⟩
      intro x' hx'
      cases haccepted.symm.trans hx'
      exact haccepts
  | error e replay' =>
    refine ⟨H.nodup, ?_, ?_⟩
    · rintro _ ⟨⟩ nonce mem
      exact verifyPayload_error h (H.memory replay hreplay nonce mem)
    · refine List.forall_mem_cons.mpr ⟨?_, H.accepts⟩
      intro x hx
      cases hx

/-- What a request leaves of the verifier. -/
structure Grows (p p' : Process B) : Prop where
  bundle : p'.bundle = p.bundle
  trust : p'.trust = p.trust
  handled : ∃ entries, p'.handled = entries ++ p.handled

theorem request_steps (fate : Fate) (unixTime : Int64) (payload : Json) (H : Consumed cr p) :
    Consumed cr (request cr fate unixTime payload p).state ∧
      Grows p (request cr fate unixTime payload p).state := by
  obtain ⟨bundle, trust, replay, handled⟩ := p
  cases replay with
  | none => cases fate <;> exact ⟨H, rfl, rfl, [], rfl⟩
  | some replay =>
    have hhandle := H.handle payload unixTime rfl
    cases fate with
    | lost loss isHandled =>
      cases isHandled with
      | true => exact ⟨hhandle.lost, rfl, rfl, [_], rfl⟩
      | false => exact ⟨H.lost, rfl, rfl, [], rfl⟩
    | answered =>
      simp only [request]
      cases AuthorityClient.readResponse (response
        (resultOf (verifyPayload cr unixTime payload bundle trust replay)).1) <;>
        exact ⟨hhandle, rfl, rfl, [_], rfl⟩

/-- A request that is answered with a value: that of an entitlement that was accepted. -/
theorem request_ok {json : Json} (h : request cr fate unixTime payload p = .ok json p') :
    ∃ entry x, p'.handled = entry :: p.handled ∧ entry.payload = payload ∧
      accepted? entry = some x ∧ json.field? "grant_id" = some (.str x.grantId) := by
  obtain ⟨bundle, trust, replay, handled⟩ := p
  cases replay with
  | none => cases fate <;> cases h
  | some replay =>
    cases fate with
    | lost loss isHandled => cases isHandled <;> cases h
    | answered =>
      simp only [request] at h
      cases hverify : verifyPayload cr unixTime payload bundle trust replay with
      | ok out replay' =>
        rw [hverify] at h
        cases h
        obtain ⟨x, -, haccepted, haccepts, -⟩ := verifyPayload_ok hverify
        refine ⟨_, x, rfl, rfl, haccepted, ?_⟩
        rw [accepted?_ok haccepted]
        rfl
      | error e replay' =>
        rw [hverify] at h
        cases h

end

/-! ## The command of the chaser -/

theorem readOption_text {json : Json} {text : String}
    (h : readOption readText (some json) = some (some text)) : json = .str text := by
  cases json <;> cases h
  rfl

/-- The command for a grant is read as it was meant. -/
theorem ofJson_verifyCommand {entitlementHex authority sessionId : Json} {stage : String}
    {command : VerifyCommand} (h : VerifyCommand.ofJson
      (ChaserAccess.verifyCommand entitlementHex authority sessionId stage) = some command) :
    (∀ text, command.entitlementHex = some text → entitlementHex = .str text) ∧
      (∀ text, command.expectedSessionId = some text → sessionId = .str text) ∧
      command.expectedStage = some stage := by
  simp only [VerifyCommand.ofJson, Option.bind_eq_bind, Option.bind_eq_some_iff, Option.pure_def,
    Option.some.injEq] at h
  obtain ⟨_, -, _, -, hex, hhex, _, -, session, hsession, stage', hstage, _, -, rfl⟩ := h
  refine ⟨?_, ?_, ?_⟩
  · rintro text rfl
    exact readOption_text hhex
  · rintro text rfl
    exact readOption_text hsession
  · exact (Option.some.inj hstage).symm

/-! ## The chaser -/

section

variable [ReplayStateBackend B] {cr : Crates} {link : VerifierLink} {payload : Json}
  {s t : ChaserHost (Process B)}

/-- Only the verifier has changed. -/
structure Asks (cr : Crates) (s t : ChaserHost (Process B)) : Prop where
  node : t.node = s.node
  messages : t.messages = s.messages
  consumed : Consumed cr t.verifier
  grows : Grows s.verifier t.verifier

/-- The verifier has accepted an entitlement for the session of the chaser, and returned it. -/
structure Obtains (cr : Crates) (payload : Json) (s : ChaserHost (Process B)) (requestedState : Int)
    (verified : Json) (t : ChaserHost (Process B)) : Prop extends Asks cr s t where
  exists_accepted : ∃ entry x, t.verifier.handled = entry :: s.verifier.handled ∧
    accepted? entry = some x ∧ s.node.sessionId = .str x.sessionId ∧
    stageName.lookup requestedState = some x.stage ∧
    verified.field? "grant_id" = some (.str x.grantId) ∧
    payload.field? "signed_grant_hex" = some (.str x.entitlementHex)

theorem verifyEntitlement_ensures (H : Consumed cr s.verifier) :
    Ensures (ChaserAccess.verifyEntitlement (client cr link) payload) s
      (fun r t => Obtains cr payload s r.1 r.2 t) fun _ t => Asks cr s t := by
  have hsame : Asks cr s s := ⟨rfl, rfl, H, rfl, rfl, [], rfl⟩
  have heq : ChaserAccess.verifyEntitlement (client cr link) payload s = _ :=
    ChaserAccess.verifyEntitlement_eq
  unfold Ensures
  rw [heq]
  change Ensures _ s _ _
  rw [ensures_bind, ChaserAccess.eval, ensures_ofExcept]
  refine ⟨?_, fun _ _ => hsame⟩
  rintro ⟨requestedState, stage, entitlementHex, authority⟩ hread
  have hsteps := request_steps link.fate link.unixTime
    (ChaserAccess.verifyCommand entitlementHex authority s.node.sessionId stage) H
  rw [ensures_bind, ensures_run]
  refine .intro (fun json p' h => ?_) fun e p' h => ?_
  · change client cr link _ s.verifier = _ at h
    rw [client] at h
    rw [h] at hsteps
    obtain ⟨entry, x, hhandled, hpayload, haccepted, hgrant⟩ := request_ok h
    obtain ⟨command, _, _, _, hcommand, -, hhex, -, -, -, hsession, hstage, -⟩ :=
      (hsteps.1.accepts entry (hhandled ▸ .head _) x haccepted).exists_checked
    rw [hpayload] at hcommand
    obtain ⟨htext, hid, hexpected⟩ := ofJson_verifyCommand hcommand
    have hlookup : stageName.lookup requestedState = some stage := by
      simp only [ChaserAccess.readGrant, Except.bind_eq_ok, Except.pure_eq_ok, Except.okOr_eq_ok,
        Prod.mk.injEq] at hread
      obtain ⟨_, -, _, -, _, hlookup, _, -, _, -, rfl, rfl, -⟩ := hread
      exact hlookup
    refine ⟨⟨rfl, rfl, hsteps.1, hsteps.2⟩, entry, x, hhandled, haccepted, hid _ hsession, ?_, hgrant,
      ?_⟩
    · rw [hlookup]
      exact hexpected.symm.trans hstage
    · rw [ChaserAccess.field?_of_readGrant hread, htext _ hhex]
  · change client cr link _ s.verifier = _ at h
    rw [client] at h
    rw [h] at hsteps
    exact ⟨rfl, rfl, hsteps.1, hsteps.2⟩

/-- What a handler leaves: a presentation of an entitlement for the session of the chaser, of one that
the verifier has accepted meanwhile; or none. -/
structure Presents (cr : Crates) (s t : ChaserHost (Process B)) : Prop where
  consumed : Consumed cr t.verifier
  bundle : t.verifier.bundle = s.verifier.bundle
  trust : t.verifier.trust = s.verifier.trust
  exists_new : ∃ entries messages, t.verifier.handled = entries ++ s.verifier.handled ∧
    t.messages = s.messages ++ messages ∧
    (∀ message ∈ messages, IsPresentation message →
      ∃ x, presented? message = some x ∧ s.node.sessionId = .str x.sessionId) ∧
    (messages.filterMap presented?).Sublist (entries.filterMap accepted?)

omit [ReplayStateBackend B] in
/-- No presentation. -/
theorem Presents.of_silent (entries : List Handled) (messages : List Json)
    (consumed : Consumed cr t.verifier) (bundle : t.verifier.bundle = s.verifier.bundle)
    (trust : t.verifier.trust = s.verifier.trust) (handled : t.verifier.handled = entries ++ s.verifier.handled)
    (sent : t.messages = s.messages ++ messages)
    (silent : ∀ message ∈ messages, ¬IsPresentation message) : Presents cr s t := by
  refine ⟨consumed, bundle, trust, entries, messages, handled, sent, ?_, ?_⟩
  · intro message mem presentation
    exact absurd presentation (silent message mem)
  · have hnone : messages.filterMap presented? = [] := by
      apply List.filterMap_eq_nil_iff.mpr
      intro message mem
      unfold presented?
      split
      · rename_i hkind
        exact absurd hkind (silent message mem)
      · rfl
    rw [hnone]
    exact List.nil_sublist _

omit [ReplayStateBackend B] in
theorem Asks.presents (H : Asks cr s t) : Presents cr s t := by
  obtain ⟨entries, handled⟩ := H.grows.handled
  refine .of_silent _ [] H.consumed H.grows.bundle H.grows.trust handled ?_ ?_
  · rw [H.messages, List.append_nil]
  · intro message mem
    cases mem

/-- The presentation of what was obtained. -/
theorem presented?_entitlementPresentation (node : ChaserNode) {x : Entitlement}
    {requestedState : Int} (hsession : node.sessionId = .str x.sessionId)
    (hstage : stageName.lookup requestedState = some x.stage) :
    presented? (ChaserAccess.entitlementPresentation node requestedState (.str x.grantId)
      (.str x.entitlementHex)) = some x := by
  have hfields (message : Json) (hmessage : message = ChaserAccess.entitlementPresentation node
      requestedState (.str x.grantId) (.str x.entitlementHex)) :
      message.field? "kind" = some (.str "entitlement_presentation") ∧
        message.field? "session_id" = some (.str x.sessionId) ∧
        message.field? "requested_state" = some (.int requestedState) ∧
        message.field? "grant_id" = some (.str x.grantId) ∧
        message.field? "signed_grant_hex" = some (.str x.entitlementHex) := by
    subst hmessage
    refine ⟨rfl, ?_, rfl, rfl, rfl⟩
    rw [← hsession]
    rfl
  obtain ⟨hkind, hid, hstate, hgrant, hhex⟩ := hfields _ rfl
  simp only [presented?, hkind, hid, hstate, hgrant, hhex, Option.bind_some, readText, readInt,
    hstage, Option.bind_eq_bind, Option.pure_def]

omit [ReplayStateBackend B] in
/-- Nothing is published, and the verifier is as it was. -/
theorem Presents.of_same (H : Consumed cr s.verifier) (verifier : t.verifier = s.verifier)
    (sent : t.messages = s.messages) : Presents cr s t := by
  refine .of_silent [] [] ?_ ?_ ?_ ?_ ?_ ?_
  all_goals try rw [verifier]
  · exact H
  · rfl
  · rw [sent, List.append_nil]
  · intro message mem
    cases mem

theorem onAuthorizationGrant_presents (H : Consumed cr s.verifier) :
    Ensures (ChaserAccess.onAuthorizationGrant (client cr link) payload) s
      (fun _ t => Presents cr s t) fun _ t => Presents cr s t := by
  have hsame : Presents cr s s := .of_same H rfl rfl
  rw [ChaserAccess.onAuthorizationGrant, ensures_bind, ChaserAccess.eval, ensures_ofExcept]
  refine ⟨fun approved _ => ?_, fun _ _ => hsame⟩
  split
  · rw [ensures_bind, ensures_attempt]
    refine (verifyEntitlement_ensures H).mono (fun r t hr => ?_) fun e t ht => ?_
    · obtain ⟨requestedState, verified⟩ := r
      obtain ⟨hasks, entry, x, hhandled, haccepted, hsession, hstage, hgrant, hhex⟩ := hr
      have hlost (u : ChaserHost (Process B)) (hverifier : u.verifier = t.verifier)
          (hmessages : u.messages = t.messages) : Presents cr s u := by
        refine .of_silent [entry] [] ?_ ?_ ?_ ?_ ?_ fun _ mem => by cases mem
        · exact hverifier.symm ▸ hasks.consumed
        · exact hverifier.symm ▸ hasks.grows.bundle
        · exact hverifier.symm ▸ hasks.grows.trust
        · exact hverifier.symm ▸ hhandled
        · rw [hmessages, hasks.messages, List.append_nil]
      simp only [ChaserAccess.eval, ensures_bind, ensures_ofExcept, ChaserAccess.assign,
        ensures_modify, ensures_get, ChaserAccess.publishProtocol]
      refine ⟨fun grantId hid => ⟨fun _ _ => ⟨fun _ _ => ⟨fun _ _ => ⟨fun _ _ =>
        ⟨fun signedGrantHex hsigned => ?_, ?_⟩, ?_⟩, ?_⟩, ?_⟩, ?_⟩, ?_⟩
      case refine_1 =>
        have hid : .str x.grantId = grantId := Option.some.inj (hgrant.symm.trans (item_eq_ok.mp hid))
        have hsigned : .str x.entitlementHex = signedGrantHex :=
          Option.some.inj (hhex.symm.trans (item_eq_ok.mp hsigned))
        subst hid hsigned
        have hsession' : t.node.sessionId = .str x.sessionId := hasks.node ▸ hsession
        have hpresented := presented?_entitlementPresentation
          { t.node with presentedGrants := .str x.grantId :: t.node.presentedGrants } hsession' hstage
        refine ⟨hasks.consumed, hasks.grows.bundle, hasks.grows.trust, [entry], [_], hhandled,
          congrArg (· ++ _) hasks.messages, ?_, ?_⟩
        · intro message mem _
          cases List.mem_singleton.mp mem
          exact ⟨x, hpresented, hsession⟩
        · rw [List.filterMap_cons_some hpresented, List.filterMap_cons_some haccepted]
          exact List.Sublist.refl _
      all_goals exact fun _ _ => hlost _ rfl rfl
    · exact ⟨fun _ => ht.presents, fun _ => ht.presents⟩
  · exact hsame

omit [ReplayStateBackend B] in
/-- A message of another kind. -/
theorem Presents.of_message (H : Consumed cr s.verifier) (verifier : t.verifier = s.verifier)
    {kind : String} {fields : List (String × Json)}
    (sent : t.messages = s.messages ++ [ChaserAccess.chaserMessage kind fields])
    (other : kind ≠ "entitlement_presentation") : Presents cr s t := by
  refine .of_silent [] [ChaserAccess.chaserMessage kind fields] ?_ ?_ ?_ ?_ sent ?_
  all_goals try rw [verifier]
  · exact H
  · rfl
  · intro message mem presentation
    cases List.mem_singleton.mp mem
    exact other (Json.str.inj (Option.some.inj presentation))

theorem onStationProtocol_presents (H : Consumed cr s.verifier) (data : Except Error Json) :
    Ensures (ChaserAccess.onStationProtocol (client cr link) data) s
      (fun _ t => Presents cr s t) fun _ t => Presents cr s t := by
  have hsame : Presents cr s s := .of_same H rfl rfl
  simp only [ChaserAccess.onStationProtocol, ensures_bind, ChaserAccess.eval, ensures_attempt,
    ensures_ofExcept]
  refine ⟨fun payload _ => ?_, fun _ _ => ⟨fun _ => hsame, fun _ => hsame⟩⟩
  refine ⟨fun kind _ => ?_, fun _ _ => hsame⟩
  split
  · refine ensures_bind.mpr (ensures_ofExcept.mpr ⟨fun _ _ => ?_, fun _ _ => hsame⟩)
    exact Presents.of_same H rfl rfl
  · exact Presents.of_same H rfl rfl
  · exact onAuthorizationGrant_presents H
  · simp only [ChaserAccess.onTransitionDecision, ChaserAccess.eval, ensures_bind, ensures_ofExcept,
      ensures_get]
    refine ⟨fun _ _ => ⟨fun _ _ => ⟨fun _ _ => ?_, fun _ _ => hsame⟩, fun _ _ => hsame⟩,
      fun _ _ => hsame⟩
    split
    · exact hsame
    · exact Presents.of_same H rfl rfl
  · exact hsame

/-- Every message. -/
theorem handle_presents (H : Consumed cr s.verifier) (message : ChaserMessage) :
    Ensures (ChaserAccess.handle (client cr link) message) s
      (fun _ t => Presents cr s t) fun _ t => Presents cr s t := by
  cases message with
  | prepare => exact Presents.of_same H rfl rfl
  | scenario data => exact Presents.of_same H rfl rfl
  | reset | run data => exact Presents.of_message H rfl rfl (by decide)
  | transitionRequest request => exact Presents.of_message H rfl rfl (by decide)
  | stationProtocol data => exact onStationProtocol_presents H data

end

/-! ## Runs -/

/-- What was presented in a run, the latest first. -/
def presentations (es : List (ChaserEvent B)) : List Entitlement :=
  es.flatMap fun e => e.reply.filterMap presented?

/-- A run of the chaser and its verifier: the log of the verifier accounts for what was presented. -/
structure Accounts (cr : Crates) (bundle : ClientTrustBundle) (trust : TrustStore)
    (es : List (ChaserEvent B)) (s : ChaserAccess.Chaser (Process B)) : Prop where
  consumed : Consumed cr s.verifier
  bundle : s.verifier.bundle = bundle
  trust : s.verifier.trust = trust
  current : ∀ e ∈ es, ∀ message ∈ e.reply, IsPresentation message → ∃ node x,
    e.before.node = some node ∧ node.sessionId = .str x.sessionId ∧ presented? message = some x
  presented : (presentations es).Sublist (s.verifier.handled.filterMap accepted?)

section

variable [ReplayStateBackend B] {cr : Crates} {bundle : ClientTrustBundle} {trust : TrustStore}
  {es : List (ChaserEvent B)} {s : ChaserAccess.Chaser (Process B)}

omit [ReplayStateBackend B] in
/-- A message that is handled. -/
theorem Accounts.cons (H : Accounts cr bundle trust es s) {node : ChaserNode}
    (hnode : s.node = some node) (call : ChaserAccess.ChaserCall VerifierLink)
    {t : ChaserHost (Process B)} (h : Presents cr { node, verifier := s.verifier } t)
    (after : Option ChaserNode) :
    Accounts cr bundle trust (⟨s, call, t.messages, { node := after, verifier := t.verifier }⟩ :: es)
      { node := after, verifier := t.verifier } := by
  obtain ⟨hconsumed, hbundle, htrust, entries, messages, hhandled, hmessages, hcurrent, hsub⟩ := h
  have hsent : t.messages = messages := hmessages
  refine ⟨hconsumed, hbundle.trans H.bundle, htrust.trans H.trust, ?_, ?_⟩
  · refine List.forall_mem_cons.mpr ⟨fun message mem presentation => ?_, H.current⟩
    obtain ⟨x, hpresented, hsession⟩ := hcurrent message (hsent ▸ mem) presentation
    exact ⟨node, x, hnode, hsession, hpresented⟩
  · rw [presentations, List.flatMap_cons, hsent, hhandled, List.filterMap_append]
    exact hsub.append H.presented

/-- One step. -/
theorem Accounts.step (H : Accounts cr bundle trust es s)
    (call : ChaserAccess.ChaserCall VerifierLink) :
    Accounts cr bundle trust (Run.event (ChaserAccess.step (client cr)) s call :: es)
      (ChaserAccess.step (client cr) s call).2 := by
  cases hnode : s.node with
  | none =>
    have hstep : ChaserAccess.step (client cr) s call = ([], s) := by
      simp only [ChaserAccess.step, hnode]
    rw [Run.event, hstep]
    refine ⟨H.consumed, H.bundle, H.trust, List.forall_mem_cons.mpr ⟨?_, H.current⟩, H.presented⟩
    intro _ mem
    cases mem
  | some node =>
    have hhandle : Ensures (ChaserAccess.handle (client cr call.link) call.message)
        { node, verifier := s.verifier }
        (fun _ t => Presents cr { node, verifier := s.verifier } t)
        fun _ t => Presents cr { node, verifier := s.verifier } t :=
      handle_presents H.consumed call.message
    cases hresult : ChaserAccess.handle (client cr call.link) call.message
        { node, verifier := s.verifier } with
    | ok u t =>
      have hstep : ChaserAccess.step (client cr) s call =
          (t.messages, { node := some t.node, verifier := t.verifier }) := by
        simp only [ChaserAccess.step, hnode, hresult]
      rw [Run.event, hstep]
      exact H.cons hnode call (hhandle.of_ok hresult) (some t.node)
    | error e t =>
      have hstep : ChaserAccess.step (client cr) s call =
          (t.messages, { node := none, verifier := t.verifier }) := by
        simp only [ChaserAccess.step, hnode, hresult]
      rw [Run.event, hstep]
      exact H.cons hnode call (hhandle.of_error hresult) none

omit [ReplayStateBackend B] in
theorem start_accounts (cr : Crates) (bundle : ClientTrustBundle) (trust : TrustStore)
    (replay : ReplayCache B) : Accounts cr bundle trust [] (startChaser bundle trust replay) := by
  refine ⟨⟨List.nodup_nil, ?_, ?_⟩, rfl, rfl, ?_, List.Sublist.refl _⟩
  · intro _ _ _ mem
    cases mem
  · intro _ mem
    cases mem
  · intro _ mem
    cases mem

theorem accounts (cr : Crates) (bundle : ClientTrustBundle) (trust : TrustStore)
    (replay : ReplayCache B) (calls : List (ChaserAccess.ChaserCall VerifierLink)) :
    Accounts cr bundle trust
      (Run.history (ChaserAccess.step (client cr)) (startChaser bundle trust replay) calls)
      (Run.state (ChaserAccess.step (client cr)) (startChaser bundle trust replay) calls) :=
  Run.invariant _ _ (start_accounts cr bundle trust replay) (fun _ _ call H => H.step call) calls

omit [ReplayStateBackend B] in
/-- What is presented was accepted. -/
theorem Accounts.exists_accepts (H : Accounts cr bundle trust es s) {x : Entitlement}
    (mem : x ∈ presentations es) :
    ∃ entry ∈ s.verifier.handled, Accepts cr bundle trust entry x := by
  obtain ⟨entry, hentry, hx⟩ := List.mem_filterMap.mp (H.presented.subset mem)
  have haccepts := H.consumed.accepts entry hentry x hx
  rw [H.bundle, H.trust] at haccepts
  exact ⟨entry, hentry, haccepts⟩

omit [ReplayStateBackend B] in
/-- What is accepted has a nonce, and each its own. -/
theorem Consumed.nodup_accepted {p : Process B} (H : Consumed cr p) :
    ((p.handled.filterMap accepted?).map (·.nonce cr)).Nodup := by
  have hnodup := H.nodup.map (Option.some_injective Bytes)
  have hfilter : p.handled.filterMap (acceptedNonce cr) =
      (p.handled.filterMap accepted?).filterMap (·.nonce cr) := by
    rw [List.filterMap_filterMap]
    rfl
  rw [hfilter, List.map_filterMap_some_eq_filter_map_isSome, List.filter_eq_self.mpr] at hnodup
  · exact hnodup
  · intro nonce mem
    obtain ⟨x, hx, rfl⟩ := List.mem_map.mp mem
    obtain ⟨entry, hentry, hx⟩ := List.mem_filterMap.mp hx
    obtain ⟨_, _, _, _, -, -, -, -, -, hnonce, -⟩ := (H.accepts entry hentry x hx).exists_checked
    rw [hnonce]
    rfl

end

/-- In every run of the chaser and its verifier: each message that presents an entitlement presents it
for the session that the chaser has, and it is one that the verifier has accepted, with all that it
checks; and no nonce is presented twice. -/
theorem presented_once [ReplayStateBackend B] (cr : Crates) (bundle : ClientTrustBundle)
    (trust : TrustStore) (replay : ReplayCache B)
    (calls : List (ChaserAccess.ChaserCall VerifierLink)) :
    let start := startChaser bundle trust replay
    let es := Run.history (ChaserAccess.step (client cr)) start calls
    (∀ e ∈ es, ∀ message ∈ e.reply, IsPresentation message → ∃ node x entry,
      e.before.node = some node ∧ node.sessionId = .str x.sessionId ∧
      presented? message = some x ∧
      entry ∈ (Run.state (ChaserAccess.step (client cr)) start calls).verifier.handled ∧
      Accepts cr bundle trust entry x) ∧
    ((presentations es).map (·.nonce cr)).Nodup := by
  intro start es
  have haccounts : Accounts cr bundle trust es
      (Run.state (ChaserAccess.step (client cr)) start calls) := accounts cr bundle trust replay calls
  constructor
  · intro e he message mem presentation
    obtain ⟨node, x, hnode, hsession, hpresented⟩ := haccounts.current e he message mem presentation
    have hmem : x ∈ presentations es :=
      List.mem_flatMap.mpr ⟨e, he, List.mem_filterMap.mpr ⟨message, mem, hpresented⟩⟩
    obtain ⟨entry, hentry, haccepts⟩ := haccounts.exists_accepts hmem
    exact ⟨node, x, entry, hnode, hsession, hpresented, hentry, haccepts⟩
  · exact haccounts.consumed.nodup_accepted.sublist (haccounts.presented.map _)

/-! ## A grant of the simulation -/

open Simulation

def fromStation (fields : List (String × Json)) : ChaserAccess.ChaserCall VerifierLink where
  message := .stationProtocol (.ok (.obj fields))
  link := ⟨.answered, nowS⟩

/-- The grant of the station, for its session. -/
def grantCall : ChaserAccess.ChaserCall VerifierLink :=
  fromStation
    [("kind", .str "authorization_grant"), ("approved", .bool true), ("requested_state", .int 1),
      ("signed_grant_hex", .str (hexText (entitlement station))),
      ("authority_id", .str station.keyId)]

/-- The session is authorized, and the grant comes twice. -/
def grantedCalls : List (ChaserAccess.ChaserCall VerifierLink) :=
  [grantCall, grantCall,
    fromStation [("kind", .str "session_authorized"), ("session_id", .str "session-1")]]

abbrev grantedHistory : List (ChaserEvent FileReplayStateBackend) :=
  Run.history (ChaserAccess.step (client reference))
    (startChaser (clientBundle [stationAuthority])
      (Finmap.singleton station.keyId station.verifyingKey) { backend := some loadedJournal })
    grantedCalls

def isPresentation (message : Json) : Bool :=
  match message.field? "kind" with
  | some (.str "entitlement_presentation") => true
  | _ => false

/-- The grant is presented once. -/
theorem grantedHistory_presents :
    ((grantedHistory.flatMap (·.reply)).filter isPresentation).length = 1 := by
  decide +kernel

theorem presented_once_station : ∃ entry x, Accepts reference (clientBundle [stationAuthority])
    (Finmap.singleton station.keyId station.verifyingKey) entry x := by
  obtain ⟨message, hmessage⟩ := List.length_eq_one_iff.mp grantedHistory_presents
  obtain ⟨mem, hkind⟩ := List.mem_filter.mp (hmessage ▸ List.mem_singleton_self message :
    message ∈ (grantedHistory.flatMap (·.reply)).filter isPresentation)
  obtain ⟨e, he, hreply⟩ := List.mem_flatMap.mp mem
  have hpresentation : IsPresentation message := by
    unfold isPresentation at hkind
    split at hkind
    · rename_i h
      exact h
    · cases hkind
  obtain ⟨-, x, entry, -, -, -, -, haccepts⟩ := (presented_once reference
    (clientBundle [stationAuthority]) (Finmap.singleton station.keyId station.verifyingKey)
    { backend := some loadedJournal } grantedCalls).1 e he message hreply hpresentation
  exact ⟨entry, x, haccepts⟩

end Access.VerifierClient
