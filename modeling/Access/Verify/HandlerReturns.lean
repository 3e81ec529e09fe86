import Access.ChaserAccess
import Access.Verify.StationReturns

/-! # When the handlers of the access nodes return

The chaser's handler reads a message of the station as the station's reads one of the chaser:
`_on_station_protocol` returns if and only if `MessageHandled` says so, and in every run of the
station `_on_chaser_protocol` does. A list for a message is neither ignored nor denied. -/

namespace Access.ChaserAccess

open EStateM Python

variable {V : Type} {s : ChaserHost V} {client : Json → EStateM Error V Json} {payload : Json}

/-- What the `try` block for a grant catches. -/
def grantCaught : List ErrorKind := [.key, .os, .runtime, .value]

def verifyCommand (entitlementHex authority sessionId : Json) (stage : String) : Json :=
  .obj
    [("command", .str "verify_entitlement"), ("entitlement_hex", entitlementHex),
      ("expected_authority", authority), ("expected_session_id", sessionId),
      ("expected_stage", .str stage)]

/-- What is read of an entitlement that the verifier has returned. -/
structure VerifiedFits (verified : Json) : Prop where
  grantId : hash (fieldOr verified "grant_id") = .ok ()
  fields : ∀ name ∈ ["grant_id", "authority_id", "trust_bundle_id", "trust_bundle_version"],
    (verified.field? name).isSome

/-- What is read of a grant for the verifier. -/
def readGrant (payload : Json) : Except Error (Int × String × Json × Json) := do
  let requestedState ← toInt (← item payload "requested_state")
  let stage ← Except.okOr (stageName.lookup requestedState) { kind := .key }
  let entitlementHex ← item payload "signed_grant_hex"
  let authority ← item payload "authority_id"
  pure (requestedState, stage, entitlementHex, authority)

/-- A grant that is rejected by the verifier or in a way that is caught, or presented. -/
def GrantHandled (client : Json → EStateM Error V Json) (node : ChaserNode) (verifier : V)
    (payload : Json) : Prop :=
  match readGrant payload with
  | .error e => e.isInstance grantCaught = true
  | .ok (_, stage, entitlementHex, authority) =>
    match client (verifyCommand entitlementHex authority node.sessionId stage) verifier with
    | .ok verified _ => VerifiedFits verified
    | .error e _ => e.isInstance grantCaught = true

theorem verifyEntitlement_eq :
    verifyEntitlement client payload s =
      (eval (readGrant payload) >>= fun (requestedState, stage, entitlementHex, authority) => do
        let verified ← verifierPart.run id <| client <|
          verifyCommand entitlementHex authority s.node.sessionId stage
        pure (requestedState, verified)) s := by
  simp only [verifyEntitlement, readGrant]
  cases item payload "requested_state" with
  | error e => rfl
  | ok value =>
    show (eval (toInt value) >>= _) s = (eval (toInt value >>= _) >>= _) s
    cases toInt value with
    | error e => rfl
    | ok requestedState =>
      show (eval (Except.okOr (stageName.lookup requestedState) _) >>= _) s =
        (eval (Except.okOr (stageName.lookup requestedState) _ >>= _) >>= _) s
      cases stageName.lookup requestedState with
      | none => rfl
      | some stage =>
        show (eval (item payload "signed_grant_hex") >>= _) s =
          (eval (item payload "signed_grant_hex" >>= _) >>= _) s
        cases item payload "signed_grant_hex" with
        | error e => rfl
        | ok entitlementHex =>
          show (eval (item payload "authority_id") >>= _) s =
            (eval (item payload "authority_id" >>= _) >>= _) s
          cases item payload "authority_id" with
          | error e => rfl
          | ok authority => rfl

/-- The presentation of an entitlement that was verified. -/
theorem presents_iff {verified entitlementHex : Json} {requestedState : Int}
    (has : payload.field? "signed_grant_hex" = some entitlementHex) :
    Ensures (do
        let grantId ← eval (item verified "grant_id")
        eval (hash grantId)
        assign fun node => { node with presentedGrants := grantId :: node.presentedGrants }
        let _ ← eval (item verified "authority_id")
        let _ ← eval (item verified "trust_bundle_id")
        let _ ← eval (item verified "trust_bundle_version")
        let signedGrantHex ← eval (item payload "signed_grant_hex")
        publishProtocol
          (entitlementPresentation (← get).node requestedState grantId signedGrantHex))
        s (fun _ _ => True) (fun _ _ => False) ↔
      VerifiedFits verified := by
  simp only [ensures_bind, eval, ensures_ofExcept_never, assign, ensures_modify, ensures_get,
    publishProtocol, item_eq_ok, has, Option.some.injEq, and_true,
    Unique.exists_iff, PUnit.default_eq_unit]
  constructor
  · rintro ⟨grantId, found, hashed, _, authority, _, bundle, _, version⟩
    refine ⟨?_, ?_⟩
    · rw [fieldOr_of_field? found]
      exact hashed
    · simp [found, authority, bundle, version]
  · rintro ⟨hashed, fields⟩
    have known (name : String)
        (mem : name ∈ ["grant_id", "authority_id", "trust_bundle_id", "trust_bundle_version"]) :
        ∃ value, verified.field? name = some value := Option.isSome_iff_exists.mp (fields name mem)
    obtain ⟨grantId, found⟩ := known "grant_id" (by simp)
    obtain ⟨authority, hasAuthority⟩ := known "authority_id" (by simp)
    obtain ⟨bundle, hasBundle⟩ := known "trust_bundle_id" (by simp)
    obtain ⟨version, hasVersion⟩ := known "trust_bundle_version" (by simp)
    rw [fieldOr_of_field? found] at hashed
    exact ⟨grantId, found, hashed, authority, hasAuthority, bundle, hasBundle, version, hasVersion,
      _, rfl⟩

/-- The entitlement of a grant that could be read is in it. -/
theorem field?_of_readGrant {requestedState : Int} {stage : String}
    {entitlementHex authority : Json}
    (h : readGrant payload = .ok (requestedState, stage, entitlementHex, authority)) :
    payload.field? "signed_grant_hex" = some entitlementHex := by
  simp only [readGrant, Except.bind_eq_ok, Except.pure_eq_ok, item_eq_ok, Prod.mk.injEq] at h
  obtain ⟨_, -, _, -, _, -, _, found, _, -, -, -, rfl, -⟩ := h
  exact found

theorem onAuthorizationGrant_iff (dict : IsDict payload) :
    Ensures (onAuthorizationGrant client payload) s (fun _ _ => True) (fun _ _ => False) ↔
      (truthy (fieldOr payload "approved") = true →
        GrantHandled client s.node s.verifier payload) := by
  have attempted : verifyEntitlement client payload s = _ := verifyEntitlement_eq
  have rejected (e : Error) (t : ChaserHost V) :
      (e.isInstance grantCaught = true ∧ Ensures (pure () : ChaserM V Unit) t (fun _ _ => True)
        fun _ _ => False) ↔ e.isInstance grantCaught = true :=
    and_iff_left trivial
  rw [onAuthorizationGrant, ensures_bind, eval, get_of_isDict dict]
  show Ensures (if _ then _ else _) s _ _ ↔ _
  by_cases approved : truthy (fieldOr payload "approved") = true
  · rw [if_pos approved, imp_iff_right approved, ensures_bind, ensures_attempt_never]
    unfold GrantHandled
    cases read : readGrant payload with
    | error e =>
      rw [read] at attempted
      rw [ensures_of_error attempted]
      exact rejected e s
    | ok values =>
      obtain ⟨requestedState, stage, entitlementHex, authority⟩ := values
      rw [read] at attempted
      simp only
      cases answer : client (verifyCommand entitlementHex authority s.node.sessionId stage)
          s.verifier with
      | ok verified verifier =>
        have ran : (verifierPart.run id <| client <|
            verifyCommand entitlementHex authority s.node.sessionId stage : ChaserM V Json) s =
              .ok verified { s with verifier } :=
          Part.run_eq_ok.mpr ⟨verifier, answer, rfl⟩
        have returned : verifyEntitlement client payload s =
            .ok (requestedState, verified) { s with verifier } :=
          attempted.trans
            (bind_eq_ok.mpr ⟨_, _, rfl, bind_eq_ok.mpr ⟨verified, _, ran, rfl⟩⟩)
        rw [ensures_of_ok returned]
        exact presents_iff (field?_of_readGrant read)
      | error e verifier =>
        have ran : (verifierPart.run id <| client <|
            verifyCommand entitlementHex authority s.node.sessionId stage : ChaserM V Json) s =
              .error e { s with verifier } :=
          Part.run_eq_error.mpr ⟨e, verifier, answer, rfl, rfl⟩
        have raised : verifyEntitlement client payload s = .error e { s with verifier } :=
          attempted.trans (bind_eq_error.mpr (.inr ⟨_, _, rfl, bind_eq_error.mpr (.inl ran)⟩))
        rw [ensures_of_error raised]
        exact rejected e { s with verifier }
  · rw [if_neg approved]
    exact iff_of_true trivial fun h => absurd h approved

theorem onTransitionDecision_iff (dict : IsDict payload) :
    Ensures (onTransitionDecision payload) s (fun _ _ => True) (fun _ _ => False) ↔
      hash (fieldOr payload "grant_id") = .ok () := by
  simp only [onTransitionDecision, ensures_bind, eval, get_of_isDict dict, ensures_ofExcept_never,
    Except.ok.injEq, exists_eq_left', Unique.exists_iff, PUnit.default_eq_unit, ensures_get]
  apply and_iff_left
  split
  · trivial
  · trivial

/-- A payload that is a dictionary, and handled as its kind asks for. -/
structure PayloadHandled (client : Json → EStateM Error V Json) (node : ChaserNode) (verifier : V)
    (payload : Json) : Prop where
  dict : IsDict payload
  authorizationGrant : payload.field? "kind" = some (.str "authorization_grant") →
    truthy (fieldOr payload "approved") = true → GrantHandled client node verifier payload
  transitionDecision : payload.field? "kind" = some (.str "transition_decision") →
    hash (fieldOr payload "grant_id") = .ok ()

/-- A message that is not JSON is ignored. -/
def MessageHandled (client : Json → EStateM Error V Json) (node : ChaserNode) (verifier : V) :
    Except Error Json → Prop
  | .error e => e.isInstance [.jsonDecode, .type] = true
  | .ok payload => PayloadHandled client node verifier payload

theorem onStationProtocol_ok_iff :
    Ensures (onStationProtocol client (.ok payload)) s (fun _ _ => True) (fun _ _ => False) ↔
      PayloadHandled client s.node s.verifier payload := by
  rw [onStationProtocol, ensures_bind, ensures_attempt]
  show Ensures (eval (Python.get payload "kind") >>= _) s _ _ ↔ _
  rw [ensures_bind, eval, ensures_ofExcept_never]
  by_cases dict : IsDict payload
  · simp only [get_of_isDict dict, Except.ok.injEq, exists_eq_left']
    split
    · rename_i kind
      have found := field?_of_fieldOr kind Json.noConfusion
      exact iff_of_true trivial ⟨dict, by simp [found], by simp [found]⟩
    · rename_i kind
      have found := field?_of_fieldOr kind Json.noConfusion
      exact iff_of_true trivial ⟨dict, by simp [found], by simp [found]⟩
    · rename_i kind
      have found := field?_of_fieldOr kind Json.noConfusion
      rw [onAuthorizationGrant_iff dict]
      constructor
      · intro handled
        exact ⟨dict, fun _ => handled, by simp [found]⟩
      · intro handled
        exact handled.authorizationGrant found
    · rename_i kind
      have found := field?_of_fieldOr kind Json.noConfusion
      rw [onTransitionDecision_iff dict]
      constructor
      · intro handled
        exact ⟨dict, by simp [found], fun _ => handled⟩
      · intro handled
        exact handled.transitionDecision found
    · rename_i grant decision
      refine iff_of_true trivial ⟨dict, ?_, ?_⟩
      · intro found
        exact (grant (fieldOr_of_field? found)).elim
      · intro found
        exact (decision (fieldOr_of_field? found)).elim
  · rw [get_of_not_isDict dict]
    refine iff_of_false ?_ fun handled => dict handled.dict
    rintro ⟨kind, found, -⟩
    cases found

/-- The chaser's handler returns if and only if the message is handled. -/
theorem onStationProtocol_iff {data : Except Error Json} :
    Ensures (onStationProtocol client data) s (fun _ _ => True) (fun _ _ => False) ↔
      MessageHandled client s.node s.verifier data := by
  cases data with
  | ok payload => exact onStationProtocol_ok_iff
  | error e =>
    rw [onStationProtocol, ensures_bind, ensures_attempt_never]
    exact and_iff_left trivial

end Access.ChaserAccess

namespace Access

open EStateM Python
open StationAccess (Station StationCall)

/-- In every state of the station that it reaches in a run, and in every state of the chaser,
whatever the authority and the verifier answer: the handler of a message of the other node returns
if and only if the message is one that is handled. -/
theorem handlers_return_iff (A ρ V : Type) :
    (∀ (client : ρ → Json → EStateM Error A Json) (link : ρ) (authority : A)
      (calls : List (StationCall ρ)),
      let station := Run.state (StationAccess.step client) (.start (client link) authority) calls
      ∀ node, station.node = some node → ∀ (answer : ρ) (data : Except Error Json),
        Returns (StationAccess.onChaserProtocol (client answer) data)
            { node, authority := station.authority } ↔
          StationAccess.MessageHandled (client answer) node station.authority data) ∧
    ∀ (client : Json → EStateM Error V Json) (host : ChaserAccess.ChaserHost V)
      (data : Except Error Json),
      Returns (ChaserAccess.onStationProtocol client data) host ↔
        ChaserAccess.MessageHandled client host.node host.verifier data := by
  constructor
  · intro client link authority calls station node runs answer data
    rw [returns_iff_ensures]
    apply StationAccess.onChaserProtocol_iff
    · exact StationAccess.run_fits client link authority calls node runs
    · intro _ _ _
      trivial
  · intro client host data
    rw [returns_iff_ensures]
    exact ChaserAccess.onStationProtocol_iff

/-- An authority that does not answer. -/
def unanswered (_ : Unit) (_ : Json) : EStateM Error Unit Json := throw { kind := .os }

/-- A request without a session is denied, also with a state that is the text of a number. -/
theorem handlers_return_iff_denied :
    Returns (StationAccess.onChaserProtocol (unanswered ())
      (.ok (.obj [("kind", .str "transition_request"), ("requested_state", .str " 1 ")])))
      { node := {}, authority := () } := by
  refine ((handlers_return_iff Unit Unit Unit).1 unanswered () () [] {} rfl () _).mpr ?_
  refine ⟨trivial, ?_, ?_, ?_⟩
  · intro kind
    simp at kind
  · intro _
    refine ⟨1, by decide, ?_⟩
    intro readiness ready
    cases ready
  · intro kind
    simp at kind

/-- A list for a message. -/
theorem list_not_handled :
    ¬∀ (A ρ V : Type),
      (∀ (client : ρ → Json → EStateM Error A Json) (link : ρ) (authority : A)
        (calls : List (StationCall ρ)),
        let station := Run.state (StationAccess.step client) (.start (client link) authority) calls
        ∀ node, station.node = some node → ∀ (answer : ρ) (data : Except Error Json),
          Returns (StationAccess.onChaserProtocol (client answer) data)
            { node, authority := station.authority }) ∧
      ∀ (client : Json → EStateM Error V Json) (host : ChaserAccess.ChaserHost V)
        (data : Except Error Json), Returns (ChaserAccess.onStationProtocol client data) host := by
  intro H
  obtain ⟨_, _, returned⟩ := (H Unit Unit Unit).1 unanswered () () [] {} rfl () (.ok (.arr []))
  cases returned

end Access
