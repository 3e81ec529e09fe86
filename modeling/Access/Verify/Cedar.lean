import Access.Cedar

/-! # What the policy is asked

A decision of the policy engine is the answer `Allow`, with no error, to one question; and the facts
of a question are a function of what the credentials and the evidence say (`SameFacts`). -/

namespace Access

variable {cr : Crates} {engine : CedarPolicyEngine} {gate vehicleId action stationId : String}
  {facts : CedarContext} {decision : AccessDecision}

/-- The policy answers `Allow`, with no evaluation error, to a principal, an action and a resource
in a context. -/
structure CedarAllows (cr : Crates) (engine : CedarPolicyEngine)
    (vehicleId action stationId : String) (facts : CedarContext) : Prop where
  exists_request : ∃ principal actionUid resource context request,
    cr.parseEntityUid "Vehicle" vehicleId = .ok principal ∧
    cr.parseEntityUid "Action" action = .ok actionUid ∧
    cr.parseEntityUid "Station" stationId = .ok resource ∧
    cr.contextFromJsonValue facts = .ok context ∧
    cr.requestNew principal actionUid resource context = .ok request ∧
    (cr.isAuthorized request engine.policies).errors = [] ∧
    (cr.isAuthorized request engine.policies).decision = .allow

theorem CedarPolicyEngine.request_eq_ok {request : CedarRequest} :
    CedarPolicyEngine.request cr vehicleId action stationId facts = .ok request ↔
      ∃ principal actionUid resource context,
        cr.parseEntityUid "Vehicle" vehicleId = .ok principal ∧
        cr.parseEntityUid "Action" action = .ok actionUid ∧
        cr.parseEntityUid "Station" stationId = .ok resource ∧
        cr.contextFromJsonValue facts = .ok context ∧
        cr.requestNew principal actionUid resource context = .ok request := by
  simp only [CedarPolicyEngine.request, Except.bind_eq_ok, Except.mapError_eq_ok]
  constructor
  · rintro ⟨principal, h₁, actionUid, h₂, resource, h₃, context, h₄, h₅⟩
    exact ⟨principal, actionUid, resource, context, h₁, h₂, h₃, h₄, h₅⟩
  · rintro ⟨principal, actionUid, resource, context, h₁, h₂, h₃, h₄, h₅⟩
    exact ⟨principal, h₁, actionUid, h₂, resource, h₃, context, h₄, h₅⟩

theorem CedarPolicyEngine.authorize_eq_ok :
    engine.authorize cr gate vehicleId action stationId facts = .ok decision ↔
      ∃ request, CedarPolicyEngine.request cr vehicleId action stationId facts = .ok request ∧
        (cr.isAuthorized request engine.policies).errors = [] ∧
        (cr.isAuthorized request engine.policies).decision = .allow ∧
        decision = { gate, decision := "allow", policy := engine.metadata,
                     diagnostics := (cr.isAuthorized request engine.policies).diagnostics } := by
  simp only [CedarPolicyEngine.authorize, Except.bind_eq_ok, Except.failIf_eq_ok,
    Except.pure_eq_ok, not_not, ne_eq]
  constructor
  · rintro ⟨request, hrequest, _, herrors, _, hallow, rfl⟩
    exact ⟨request, hrequest, herrors, hallow, rfl⟩
  · rintro ⟨request, hrequest, herrors, hallow, rfl⟩
    exact ⟨request, hrequest, (), herrors, (), hallow, rfl⟩

/-- A question is decided if and only if the policy allows it. -/
theorem CedarPolicyEngine.exists_authorize_iff :
    (∃ decision, engine.authorize cr gate vehicleId action stationId facts = .ok decision) ↔
      CedarAllows cr engine vehicleId action stationId facts := by
  simp only [authorize_eq_ok, request_eq_ok]
  constructor
  · rintro ⟨_, request, ⟨principal, actionUid, resource, context, h₁, h₂, h₃, h₄, h₅⟩, herrors,
      hallow, -⟩
    exact ⟨principal, actionUid, resource, context, request, h₁, h₂, h₃, h₄, h₅, herrors, hallow⟩
  · rintro ⟨principal, actionUid, resource, context, request, h₁, h₂, h₃, h₄, h₅, herrors, hallow⟩
    exact ⟨_, request, ⟨principal, actionUid, resource, context, h₁, h₂, h₃, h₄, h₅⟩, herrors,
      hallow, rfl⟩

theorem CedarPolicyEngine.allows_of_authorize
    (h : engine.authorize cr gate vehicleId action stationId facts = .ok decision) :
    CedarAllows cr engine vehicleId action stationId facts :=
  exists_authorize_iff.mp ⟨decision, h⟩

/-- The names of the checks that a context has. -/
def contextChecks : List String :=
  ["initial_hold_confirmed", "retreat_available", "relative_navigation_valid",
   "approach_corridor_clear", "closing_rate_within_limit", "alignment_within_limit",
   "capture_system_ready", "soft_capture_confirmed", "latches_ready", "relative_motion_stable"]

/-- Two records of evidence say the same to the policy: the same checks hold, and the readings are
the same in thousandths. -/
structure SameFacts (e e' : ReadinessEvidence) : Prop where
  checks : ∀ name ∈ contextChecks,
    (e.checks.lookup name).getD false = (e'.checks.lookup name).getD false
  range : e.rangeM.ceilMilli = e'.rangeM.ceilMilli
  closingRate : e.closingRateMps.ceilMilli = e'.closingRateMps.ceilMilli

theorem SameFacts.context_eq {e e' : ReadinessEvidence} (H : SameFacts e e')
    (credentials : List VerifiedCredentialEvidence)
    (holderProofValid sessionAuthorized readinessFresh : Bool) :
    context credentials holderProofValid sessionAuthorized (some e) readinessFresh =
      context credentials holderProofValid sessionAuthorized (some e') readinessFresh := by
  have hchecks := H.checks
  simp only [contextChecks, List.forall_mem_cons] at hchecks
  obtain ⟨h₁, h₂, h₃, h₄, h₅, h₆, h₇, h₈, h₉, h₁₀, -⟩ := hchecks
  simp only [context, Option.bind_some, Option.map_some, Option.getD_some, h₁, h₂, h₃, h₄, h₅, h₆,
    h₇, h₈, h₉, h₁₀, H.range, H.closingRate]

end Access
