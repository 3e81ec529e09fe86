import Access.Verify.Runs

/-! # The consumption of grants

A redemption consumes its grant if and only if it moves the docking state. -/

namespace Access

open EStateM

variable [ReplayStateBackend B] {cr : Crates} {s s' : Host B}

/-- What a refused redemption leaves unchanged. -/
structure Unchanged (s s' : Host B) : Prop where
  state : s'.engine.state = s.engine.state
  sessionId : s'.engine.sessionId = s.engine.sessionId
  verifiedCredentials : s'.engine.verifiedCredentials = s.engine.verifiedCredentials
  authorization : s'.engine.authorization = s.engine.authorization
  consumedGrants : s'.engine.consumedGrants.consumed = s.engine.consumedGrants.consumed

omit [ReplayStateBackend B] in
theorem Refuses.unchanged (H : Refuses s s') : Unchanged s s' where
  state := (congrArg AccessEngine.state H.engine :)
  sessionId := (congrArg AccessEngine.sessionId H.engine :)
  verifiedCredentials := (congrArg AccessEngine.verifiedCredentials H.engine :)
  authorization := (congrArg AccessEngine.authorization H.engine :)
  consumedGrants := H.consumed

omit [ReplayStateBackend B] in
/-- A redemption moves the docking state by one. -/
theorem Redeems.stateNumber_eq {signedGrantHex : String} {requestedState : UInt8} {nowS : Int64}
    {readiness : ReadinessEvidence} {a : AcceptedGrant} {out : TransitionOutcome}
    (H : Redeems cr s signedGrantHex requestedState nowS readiness a out s') :
    (stateNumber s'.engine.state).toNat = (stateNumber s.engine.state).toNat + 1 := by
  rw [stateNumber_of_reduce H.accepts.transition H.reduced]
  exact (stage_of_transitionFor H.accepts.transition).1

/-- In every state a run can reach: an identifier enters the consumed grants during a redemption if
and only if the redemption succeeds for the grant with that identifier and moves the docking state
by one; a redemption that fails leaves the session and the consumed grants as they were; and the
state machine does not refuse a grant that passed the checks before its consumption. -/
theorem redeemTransition_consumes_iff (cr : Crates) (setup : EngineSetup) (calls : List (Call B))
    (signedGrantHex : String) (requestedState : UInt8) (nowS : Int64)
    (readiness : ReadinessEvidence) :
    let s := Host.after cr setup calls
    let result := redeemTransition cr signedGrantHex requestedState nowS readiness s
    (∀ id, id ∉ s.engine.consumedGrants.consumed ∧
        id ∈ result.state.engine.consumedGrants.consumed ↔
      ∃ out s' grantId, result = .ok out s' ∧ out.grantId = some grantId ∧
        id = grantId.asBytes ∧
        (stateNumber s'.engine.state).toNat = (stateNumber s.engine.state).toNat + 1) ∧
    (∀ e s', result = .error e s' → Unchanged s s') ∧
    (∀ a s₁, acceptGrant cr signedGrantHex requestedState nowS readiness s = .ok a s₁ →
      ∃ state, reduce s.engine.state a.eventKind (s.engine.authorization.forStage a.stage) =
        .ok state) := by
  intro s result
  have hsound := (reached cr setup calls).sound
  refine ⟨fun id => ?_, fun e s' h => (redeemTransition_error hsound h).unchanged,
    fun a s₁ h => ?_⟩
  · cases hresult : result with
    | ok out s' =>
      obtain ⟨a, H⟩ := redeemTransition_ok hresult
      simp only [Result.state_ok, H.consumed, Finset.mem_insert]
      constructor
      · rintro ⟨hfresh, rfl | hmem⟩
        · exact ⟨out, s', a.grantId, rfl, by rw [H.outcome]; rfl, rfl, H.stateNumber_eq⟩
        · exact absurd hmem hfresh
      · rintro ⟨_, _, grantId, hok, hgrant, rfl, -⟩
        cases hok
        rw [H.outcome] at hgrant
        cases hgrant
        exact ⟨H.fresh, .inl rfl⟩
    | error e s' =>
      rw [Result.state_error, (redeemTransition_error hsound hresult).consumed]
      constructor
      · exact fun h => absurd h.2 h.1
      · rintro ⟨_, _, _, hok, -⟩
        cases hok
  · obtain ⟨haccepts, -⟩ := acceptGrant_ok h
    obtain ⟨hidentity, hsession, -⟩ := hsound _ haccepts.session
    obtain ⟨state, hreduce, -⟩ := reduce_of_transitionFor haccepts.transition hidentity hsession
    exact ⟨state, hreduce⟩

end Access
