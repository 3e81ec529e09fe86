import Access.CommercialDocking
import Access.Verify.Readings
import Access.Reference

/-! # What commercial docking requires

The policies of the waystation are well typed over the facts of a request, so that a request is
allowed or denied and its evaluation never fails. They are made of facts and of upper limits, so that
a vehicle with more to show is not denied what it would be allowed with less. And what they require
for each action is `requirement`. -/

namespace Access

open Policies CommercialDocking

/-! ## The facts of a request -/

/-- The types of the facts of `context`. -/
def contextTypes (name : String) : Option Ty :=
  if name ∈ ["registered_vehicle", "docking_certified", "holder_proof_valid", "session_authorized",
      "readiness_fresh"] ++ contextChecks then some .bool
  else if name ∈ ["range_mm", "closing_rate_mmps"] then some .number
  else none

theorem nodup_context (credentials : List VerifiedCredentialEvidence)
    (holderProofValid sessionAuthorized : Bool) (readiness : Option ReadinessEvidence)
    (readinessFresh : Bool) :
    ((context credentials holderProofValid sessionAuthorized readiness readinessFresh).map
      Prod.fst).Nodup := by
  simp only [context, List.map_cons, List.map_nil]
  decide

theorem provides_context (credentials : List VerifiedCredentialEvidence)
    (holderProofValid sessionAuthorized : Bool) (readiness : Option ReadinessEvidence)
    (readinessFresh : Bool) :
    Provides (context credentials holderProofValid sessionAuthorized readiness readinessFresh).facts
      contextTypes := by
  intro name τ typed
  simp only [contextTypes] at typed
  split at typed
  · rename_i mem
    cases typed
    simp only [contextChecks, List.cons_append, List.nil_append, List.mem_cons, List.not_mem_nil,
      or_false] at mem
    rcases mem with rfl | rfl | rfl | rfl | rfl | rfl | rfl | rfl | rfl | rfl | rfl | rfl | rfl |
      rfl | rfl
    all_goals exact ⟨.bool _, rfl, rfl⟩
  · split at typed
    · rename_i mem
      cases typed
      simp only [List.mem_cons, List.not_mem_nil, or_false] at mem
      rcases mem with rfl | rfl
      all_goals exact ⟨.number _, rfl, rfl⟩
    · cases typed

/-! ## The evaluator -/

/-- The documented behaviour of the policy evaluator on the source of some policies, for a request
with the facts of `context`. -/
structure Crates.Evaluates (cr : Crates) (policySet : PolicySet) (policies : List Rule) :
    Prop where
  parseEntityUid : ∀ {typeName : String}, typeName ∈ ["Vehicle", "Action", "Station"] →
    ∀ id, cr.parseEntityUid typeName id = .ok ⟨typeName, id⟩
  contextFromJsonValue : ∀ {facts : CedarContext}, (facts.map Prod.fst).Nodup →
    cr.contextFromJsonValue facts = .ok facts
  requestNew : ∀ principal action resource context,
    cr.requestNew principal action resource context = .ok ⟨principal, action, resource, context⟩
  decision : ∀ request : CedarRequest, Provides request.context.facts contextTypes →
    ((cr.isAuthorized request policySet).decision = .allow ↔
      allows policies request.context.facts request = true)
  errors : ∀ request : CedarRequest, Provides request.context.facts contextTypes →
    ((cr.isAuthorized request policySet).errors = [] ↔
      Policies.errors policies request.context.facts request = [])

/-- Policies that permit on facts and upper limits, which are expected of a request. -/
structure WellFormed (policies : List Rule) : Prop where
  permits : ∀ policy ∈ policies, policy.effect = .permit
  positive : ∀ policy ∈ policies, Positive policy.condition
  typed : ∀ policy ∈ policies, infer contextTypes policy.condition = some .bool
  scopes : ∀ policy ∈ policies, ∀ request context,
    policy.scope { request with context } = policy.scope request

/-- The question `authorize` asks. -/
def question (vehicleId action stationId : String) (facts : CedarContext) : CedarRequest where
  principal := ⟨"Vehicle", vehicleId⟩
  action := ⟨"Action", action⟩
  resource := ⟨"Station", stationId⟩
  context := facts

section

variable {cr : Crates} {engine : CedarPolicyEngine} {policies : List Rule}
  (gate vehicleId action stationId : String) {facts : CedarContext}

theorem Crates.Evaluates.request_eq (H : cr.Evaluates engine.policies policies)
    (nodup : (facts.map Prod.fst).Nodup) :
    CedarPolicyEngine.request cr vehicleId action stationId facts =
      .ok (question vehicleId action stationId facts) := by
  apply CedarPolicyEngine.request_eq_ok.mpr
  exact ⟨_, _, _, _, H.parseEntityUid (by decide) _, H.parseEntityUid (by decide) _,
    H.parseEntityUid (by decide) _, H.contextFromJsonValue nodup, H.requestNew ..⟩

/-- A request is denied that the policies do not allow, and its evaluation does not fail. -/
theorem Crates.Evaluates.authorize_iff (H : cr.Evaluates engine.policies policies)
    (wellFormed : WellFormed policies) (nodup : (facts.map Prod.fst).Nodup)
    (provides : Provides facts.facts contextTypes) :
    ((∃ decision, engine.authorize cr gate vehicleId action stationId facts = .ok decision) ↔
      allows policies facts.facts (question vehicleId action stationId facts) = true) ∧
    ∀ error, engine.authorize cr gate vehicleId action stationId facts = .error error →
      error = .denied gate := by
  have asked := H.request_eq vehicleId action stationId nodup
  have evaluated := (H.errors (question vehicleId action stationId facts) provides).mpr
    (errors_eq_nil provides wellFormed.typed)
  have decided := H.decision (question vehicleId action stationId facts) provides
  constructor
  · simp only [CedarPolicyEngine.authorize_eq_ok, asked, Except.ok.injEq]
    constructor
    · rintro ⟨_, _, rfl, -, allow, -⟩
      exact decided.mp allow
    · intro allow
      exact ⟨_, _, rfl, evaluated, decided.mpr allow, rfl⟩
  · intro error failed
    simp only [CedarPolicyEngine.authorize, asked, Except.bind_eq_error, Except.failIf_eq_error,
      Except.failIf_eq_ok, Except.pure_eq_error, Except.ok.injEq, reduceCtorEq, false_or] at failed
    obtain ⟨_, rfl, failed | ⟨-, -, failed | ⟨-, -, failed⟩⟩⟩ := failed
    · exact absurd evaluated failed.1
    · exact failed.2.symm
    · exact failed.elim

end

/-! ## Requirements -/

/-- A number with at most `limit` thousandths, or none: the policy finds that it is within the
limit, as far as the product with a thousand is not rounded. -/
def Reading.NotAbove (limit : Int) : Reading → Prop
  | .nan | .negInf => True
  | .posInf => False
  | .finite q => 1000 * q ≤ limit

theorem Reading.ceilMilli_le_iff {x : Reading} {limit : Int} (nonneg : 0 ≤ limit)
    (small : limit < Int64.maxValue.toInt) : x.ceilMilli.toInt ≤ limit ↔ x.NotAbove limit := by
  cases x with
  | nan => exact iff_of_true nonneg trivial
  | negInf => exact iff_of_true (le_trans (by decide) nonneg) trivial
  | posInf => exact iff_of_false (Int.not_le.mpr small) not_false
  | finite q =>
    constructor
    · intro within
      exact ceilMilli_finite_le small within
    · intro within
      have above : (q * 1000).ceil ≤ limit := by
        apply Rat.ceil_le_iff.mpr
        rw [Rat.mul_comm]
        exact within
      rw [ceilMilli, Int64.toInt_ofIntClamp_eq]
      rw [Int64.toInt_maxValue_eq] at small
      omega

/-- What a vehicle that proved to be the holder of its credentials has to show for an action. -/
structure Requirement where
  profiles : List String
  sessionAuthorized : Bool := false
  readinessFresh : Bool := false
  checks : List String := []
  maximumRangeMm : Option Int := none
  maximumClosingRateMmps : Option Int := none

def requirement : String → Option Requirement
  | "authorize_session" => some { profiles := ["registered-vehicle-v1", "idss-compatible-v1"] }
  | "enter_approach" => some
    { profiles := ["registered-vehicle-v1"]
      readinessFresh := true
      checks := ["initial_hold_confirmed", "retreat_available"]
      maximumClosingRateMmps := some 600 }
  | "enter_final_approach" => some
    { profiles := ["registered-vehicle-v1", "idss-compatible-v1"]
      sessionAuthorized := true
      readinessFresh := true
      checks := ["relative_navigation_valid", "approach_corridor_clear", "closing_rate_within_limit"]
      maximumRangeMm := some 1120
      maximumClosingRateMmps := some 200 }
  | "engage_soft_capture" => some
    { profiles := ["idss-compatible-v1"]
      sessionAuthorized := true
      readinessFresh := true
      checks := ["alignment_within_limit", "capture_system_ready"]
      maximumRangeMm := some 320
      maximumClosingRateMmps := some 100 }
  | "engage_hard_dock" => some
    { profiles := ["idss-compatible-v1"]
      sessionAuthorized := true
      readinessFresh := true
      checks := ["soft_capture_confirmed", "latches_ready", "relative_motion_stable"]
      maximumRangeMm := some 40
      maximumClosingRateMmps := some 50 }
  | _ => none

/-- What an action requires is there. Readings are exact numbers. -/
@[mk_iff]
structure Requirement.Met (required : Requirement)
    (credentials : List VerifiedCredentialEvidence) (holderProofValid sessionAuthorized : Bool)
    (readiness : ReadinessEvidence) (readinessFresh : Bool) : Prop where
  profiles : ∀ profile ∈ required.profiles,
    ∃ credential ∈ credentials, credential.profileId = profile
  holderProof : holderProofValid = true
  session : required.sessionAuthorized = true → sessionAuthorized = true
  fresh : required.readinessFresh = true → readinessFresh = true
  checks : ∀ check ∈ required.checks, readiness.checks.lookup check = some true
  range : ∀ limit ∈ required.maximumRangeMm, readiness.rangeM.NotAbove limit
  closingRate : ∀ limit ∈ required.maximumClosingRateMmps, readiness.closingRateMps.NotAbove limit

theorem CommercialDocking.wellFormed : WellFormed CommercialDocking.policies where
  permits policy mem := by
    simp only [CommercialDocking.policies, List.mem_cons, List.not_mem_nil, or_false] at mem
    rcases mem with rfl | rfl | rfl | rfl | rfl
    all_goals rfl
  positive policy mem := by
    simp only [CommercialDocking.policies, List.mem_cons, List.not_mem_nil, or_false] at mem
    rcases mem with rfl | rfl | rfl | rfl | rfl
    all_goals
      apply Positive.all
      simp only [List.forall_mem_cons, List.not_mem_nil, false_imp_iff, implies_true, fact,
        atMost, Positive.fact, Positive.le, and_self]
  typed policy mem := by
    simp only [CommercialDocking.policies, List.mem_cons, List.not_mem_nil, or_false] at mem
    rcases mem with rfl | rfl | rfl | rfl | rfl
    all_goals decide
  scopes policy mem request context := by
    simp only [CommercialDocking.policies, List.mem_cons, List.not_mem_nil, or_false] at mem
    rcases mem with rfl | rfl | rfl | rfl | rfl
    all_goals rfl

section

variable {credentials : List VerifiedCredentialEvidence} {holderProofValid sessionAuthorized : Bool}
  {readiness : ReadinessEvidence} {readinessFresh : Bool}

theorem CedarContext.holds_bool {facts : CedarContext} {name : String} {b : Bool}
    (known : facts.lookup name = some (.bool b)) :
    Holds facts.facts (CommercialDocking.fact name) ↔ b = true := by
  simp [CommercialDocking.fact, CedarContext.facts, known, CedarValue.value]

theorem CedarContext.holds_atMost {facts : CedarContext} {name : String} {i : Int64} {limit : Int}
    (known : facts.lookup name = some (.long i)) :
    Holds facts.facts (CommercialDocking.atMost name limit) ↔ i.toInt ≤ limit := by
  simp [CommercialDocking.atMost, CedarContext.facts, known, CedarValue.value]

theorem any_profileId_iff {profile : String} :
    credentials.any (·.profileId = profile) = true ↔
      ∃ credential ∈ credentials, credential.profileId = profile := by
  simp only [List.any_eq_true, decide_eq_true_eq]

theorem getD_lookup_iff {name : String} :
    (((some readiness).bind fun value => value.checks.lookup name).getD false) = true ↔
      readiness.checks.lookup name = some true := by
  rw [Option.bind_some, Option.getD_eq_iff]
  simp

end

section

variable (credentials : List VerifiedCredentialEvidence) (holderProofValid sessionAuthorized : Bool)
  (evidence : Option ReadinessEvidence) (readiness : ReadinessEvidence) (readinessFresh : Bool)

theorem holds_registered : Holds (context credentials holderProofValid sessionAuthorized evidence
    readinessFresh).facts (fact "registered_vehicle") ↔
      ∃ credential ∈ credentials, credential.profileId = "registered-vehicle-v1" :=
  (CedarContext.holds_bool rfl).trans any_profileId_iff

theorem holds_certified : Holds (context credentials holderProofValid sessionAuthorized evidence
    readinessFresh).facts (fact "docking_certified") ↔
      ∃ credential ∈ credentials, credential.profileId = "idss-compatible-v1" :=
  (CedarContext.holds_bool rfl).trans any_profileId_iff

theorem holds_holderProof : Holds (context credentials holderProofValid sessionAuthorized evidence
    readinessFresh).facts (fact "holder_proof_valid") ↔ holderProofValid = true :=
  CedarContext.holds_bool rfl

theorem holds_session : Holds (context credentials holderProofValid sessionAuthorized
    (some readiness) readinessFresh).facts (fact "session_authorized") ↔ sessionAuthorized = true :=
  CedarContext.holds_bool rfl

theorem holds_fresh : Holds (context credentials holderProofValid sessionAuthorized
    (some readiness) readinessFresh).facts (fact "readiness_fresh") ↔ readinessFresh = true :=
  CedarContext.holds_bool rfl

theorem holds_check {name : String} (mem : name ∈ contextChecks) :
    Holds (context credentials holderProofValid sessionAuthorized (some readiness)
      readinessFresh).facts (fact name) ↔ readiness.checks.lookup name = some true := by
  refine Iff.trans (CedarContext.holds_bool ?_) getD_lookup_iff
  simp only [contextChecks, List.mem_cons, List.not_mem_nil, or_false] at mem
  rcases mem with rfl | rfl | rfl | rfl | rfl | rfl | rfl | rfl | rfl | rfl
  all_goals rfl

theorem holds_range {limit : Int} (nonneg : 0 ≤ limit) (small : limit < Int64.maxValue.toInt) :
    Holds (context credentials holderProofValid sessionAuthorized (some readiness)
      readinessFresh).facts (atMost "range_mm" limit) ↔ readiness.rangeM.NotAbove limit :=
  (CedarContext.holds_atMost rfl).trans (Reading.ceilMilli_le_iff nonneg small)

theorem holds_closingRate {limit : Int} (nonneg : 0 ≤ limit)
    (small : limit < Int64.maxValue.toInt) :
    Holds (context credentials holderProofValid sessionAuthorized (some readiness)
      readinessFresh).facts (atMost "closing_rate_mmps" limit) ↔
        readiness.closingRateMps.NotAbove limit :=
  (CedarContext.holds_atMost rfl).trans (Reading.ceilMilli_le_iff nonneg small)

end

/-- A policy asks for the requirement for its action. -/
structure Requires (policy : Rule) (action : String) (required : Requirement) : Prop where
  requirement_eq : requirement action = some required
  scope_iff : ∀ vehicleId action' stationId facts,
    policy.scope (question vehicleId action' stationId facts) = true ↔
      action' = action ∧ stationId = "waystation-1"
  condition_iff : ∀ credentials holderProofValid sessionAuthorized readiness readinessFresh,
    Holds (context credentials holderProofValid sessionAuthorized (some readiness)
      readinessFresh).facts policy.condition ↔
    required.Met credentials holderProofValid sessionAuthorized readiness readinessFresh

theorem scope_permit {action : String} {condition : Condition} (vehicleId action' stationId : String)
    (facts : CedarContext) :
    (permit action condition).scope (question vehicleId action' stationId facts) = true ↔
      action' = action ∧ stationId = "waystation-1" := by
  simp [permit, question]

theorem exists_requires {policy : Rule} (mem : policy ∈ CommercialDocking.policies) :
    ∃ action required, Requires policy action required := by
  simp only [CommercialDocking.policies, List.mem_cons, List.not_mem_nil, or_false] at mem
  rcases mem with rfl | rfl | rfl | rfl | rfl
  all_goals
    refine ⟨_, _, rfl, scope_permit, ?_⟩
    intro credentials holderProofValid sessionAuthorized readiness readinessFresh
    simp (disch := decide) only [authorizeCommercialSession, enterApproach, enterFinalApproach,
      engageSoftCapture, engageHardDock, permit, holds_all, List.forall_mem_cons, List.not_mem_nil,
      false_imp_iff, implies_true, and_true, Requirement.met_iff, holds_registered,
      holds_certified, holds_holderProof, holds_session, holds_fresh, holds_check, holds_range,
      holds_closingRate, Option.mem_def, Option.some.injEq, forall_eq', forall_const,
      reduceCtorEq, Bool.false_eq_true, true_and]
    tauto

/-! ## The verdict -/

/-- There is no other policy for an action that has a requirement. -/
theorem exists_policy {action : String} {required : Requirement}
    (h : requirement action = some required) :
    ∃ policy ∈ CommercialDocking.policies, Requires policy action required := by
  have found (policy : Rule) (mem : policy ∈ CommercialDocking.policies)
      (scope : policy.scope (question "" action "waystation-1" []) = true) :
      ∃ policy ∈ CommercialDocking.policies, Requires policy action required := by
    obtain ⟨action', required', H⟩ := exists_requires mem
    obtain ⟨rfl, -⟩ := (H.scope_iff _ _ _ _).mp scope
    cases H.requirement_eq.symm.trans h
    exact ⟨policy, mem, H⟩
  unfold requirement at h
  split at h
  · exact found authorizeCommercialSession (by simp [CommercialDocking.policies]) (by decide)
  · exact found enterApproach (by simp [CommercialDocking.policies]) (by decide)
  · exact found enterFinalApproach (by simp [CommercialDocking.policies]) (by decide)
  · exact found engageSoftCapture (by simp [CommercialDocking.policies]) (by decide)
  · exact found engageHardDock (by simp [CommercialDocking.policies]) (by decide)
  · cases h

theorem allows_iff_met (vehicleId action stationId : String)
    (credentials : List VerifiedCredentialEvidence) (holderProofValid sessionAuthorized : Bool)
    (readiness : ReadinessEvidence) (readinessFresh : Bool) :
    let facts := context credentials holderProofValid sessionAuthorized (some readiness)
      readinessFresh
    allows CommercialDocking.policies facts.facts (question vehicleId action stationId facts) =
        true ↔
      stationId = "waystation-1" ∧ ∃ required, requirement action = some required ∧
        required.Met credentials holderProofValid sessionAuthorized readiness readinessFresh := by
  intro facts
  rw [allows_iff CommercialDocking.wellFormed.permits]
  constructor
  · rintro ⟨policy, mem, scope, holds⟩
    obtain ⟨action', required, H⟩ := exists_requires mem
    obtain ⟨rfl, rfl⟩ := (H.scope_iff _ _ _ _).mp scope
    exact ⟨rfl, required, H.requirement_eq, (H.condition_iff _ _ _ _ _).mp holds⟩
  · rintro ⟨rfl, required, found, met⟩
    obtain ⟨policy, mem, H⟩ := exists_policy found
    exact ⟨policy, mem, (H.scope_iff _ _ _ _).mpr ⟨rfl, rfl⟩, (H.condition_iff _ _ _ _ _).mpr met⟩

theorem allows_session_iff (vehicleId stationId : String)
    (credentials : List VerifiedCredentialEvidence) (holderProofValid : Bool) :
    let facts := context credentials holderProofValid false none false
    allows CommercialDocking.policies facts.facts
        (question vehicleId "authorize_session" stationId facts) = true ↔
      stationId = "waystation-1" ∧ holderProofValid = true ∧
        ∀ profile ∈ ["registered-vehicle-v1", "idss-compatible-v1"],
          ∃ credential ∈ credentials, credential.profileId = profile := by
  intro facts
  have holds : Holds facts.facts authorizeCommercialSession.condition ↔ holderProofValid = true ∧
      ∀ profile ∈ ["registered-vehicle-v1", "idss-compatible-v1"],
        ∃ credential ∈ credentials, credential.profileId = profile := by
    simp only [facts, authorizeCommercialSession, permit, holds_all, List.forall_mem_cons,
      List.not_mem_nil, false_imp_iff, implies_true, and_true, holds_registered, holds_certified,
      holds_holderProof]
    tauto
  rw [allows_iff CommercialDocking.wellFormed.permits, ← holds]
  constructor
  · rintro ⟨policy, mem, scope, satisfied⟩
    obtain ⟨action', required, H⟩ := exists_requires mem
    obtain ⟨rfl, rfl⟩ := (H.scope_iff _ _ _ _).mp scope
    simp only [CommercialDocking.policies, List.mem_cons, List.not_mem_nil, or_false] at mem
    rcases mem with rfl | rfl | rfl | rfl | rfl
    · exact ⟨rfl, satisfied⟩
    all_goals exact absurd (scope_permit _ _ _ _ |>.mp scope).1 (by decide)
  · rintro ⟨rfl, satisfied⟩
    exact ⟨authorizeCommercialSession, by simp [CommercialDocking.policies],
      (scope_permit ..).mpr ⟨rfl, rfl⟩, satisfied⟩

/-- For every question the engine asks: the policies of the waystation allow a transition if and only
if it is at the waystation and the requirement for its action is met, and a session if and only if it
is there with both credentials and a valid proof. What they do not allow is denied; the evaluation
never fails. Readings are exact numbers: a limit is one of the number itself, not of its product with
a thousand after rounding. -/
theorem commercialDocking_verdict (cr : Crates) (engine : CedarPolicyEngine)
    (H : cr.Evaluates engine.policies CommercialDocking.policies)
    (vehicleId stationId action : String) (credentials : List VerifiedCredentialEvidence)
    (holderProofValid sessionAuthorized : Bool) (readiness : ReadinessEvidence)
    (readinessFresh : Bool) :
    let transition := engine.authorizeTransition cr vehicleId stationId action credentials
      holderProofValid sessionAuthorized readiness readinessFresh
    let session := engine.authorizeSession cr vehicleId stationId credentials holderProofValid
    ((∃ decision, transition = .ok decision) ↔
      stationId = "waystation-1" ∧ ∃ required, requirement action = some required ∧
        required.Met credentials holderProofValid sessionAuthorized readiness readinessFresh) ∧
    ((∃ decision, session = .ok decision) ↔
      stationId = "waystation-1" ∧ holderProofValid = true ∧
        ∀ profile ∈ ["registered-vehicle-v1", "idss-compatible-v1"],
          ∃ credential ∈ credentials, credential.profileId = profile) ∧
    (∀ error, transition = .error error → error = .denied "stage_transition") ∧
    ∀ error, session = .error error → error = .denied "initial_claims" := by
  intro transition session
  obtain ⟨allowed, denied⟩ := H.authorize_iff "stage_transition" vehicleId action stationId
    CommercialDocking.wellFormed
    (nodup_context credentials holderProofValid sessionAuthorized (some readiness) readinessFresh)
    (provides_context _ _ _ _ _)
  obtain ⟨opened, refused⟩ := H.authorize_iff "initial_claims" vehicleId "authorize_session"
    stationId CommercialDocking.wellFormed
    (nodup_context credentials holderProofValid false none false) (provides_context _ _ _ _ _)
  exact ⟨allowed.trans (allows_iff_met ..), opened.trans (allows_session_iff ..), denied, refused⟩

/-! ## More to show -/

/-- A reading that is not larger, or no number when the other one is none either. -/
inductive Reading.Le : Reading → Reading → Prop where
  | nan : Le .nan .nan
  | negInf (x : Reading) : Le .negInf x
  | posInf (x : Reading) : Le x .posInf
  | finite {q q' : Rat} (h : q ≤ q') : Le (.finite q) (.finite q')

theorem Reading.Le.ceilMilli_le {x y : Reading} (h : x.Le y) :
    x.ceilMilli.toInt ≤ y.ceilMilli.toInt := by
  cases h with
  | nan => exact Int.le_refl _
  | negInf x => exact Int64.minValue_le_toInt _
  | posInf x => exact Int64.toInt_le _
  | @finite q q' h =>
    have ceil_le : (q * 1000).ceil ≤ (q' * 1000).ceil := by
      apply Rat.ceil_le_iff.mpr
      exact Rat.le_trans (Rat.mul_le_mul_of_nonneg_right h (by decide)) Rat.le_ceil
    simp only [ceilMilli, Int64.toInt_ofIntClamp_eq]
    omega

theorem better_of_forall₂ {facts facts' : CedarContext}
    (h : List.Forall₂ (fun entry entry' =>
      entry.1 = entry'.1 ∧ entry.2.value.Le entry'.2.value) facts facts') :
    Better facts.facts facts'.facts := by
  intro name v known
  induction h with
  | nil => cases known
  | @cons entry entry' rest rest' hentry _ ih =>
    obtain ⟨key, value⟩ := entry
    obtain ⟨key', value'⟩ := entry'
    obtain ⟨rfl, le⟩ := hentry
    simp only [CedarContext.facts, List.lookup_cons] at known ih ⊢
    split at known
    · rw [Option.map_some, Option.some.injEq] at known
      exact ⟨_, rfl, known ▸ le⟩
    · exact ih known

/-- Evidence that passes all the checks, with readings that are not larger. -/
structure Improves (readiness readiness' : ReadinessEvidence) : Prop where
  checks : ∀ check, readiness.checks.lookup check = some true →
    readiness'.checks.lookup check = some true
  range : readiness'.rangeM.Le readiness.rangeM
  closingRate : readiness'.closingRateMps.Le readiness.closingRateMps

theorem Improves.better {readiness readiness' : ReadinessEvidence}
    (H : Improves readiness readiness') {credentials credentials' : List VerifiedCredentialEvidence}
    (held : ∀ credential ∈ credentials, ∃ credential' ∈ credentials',
      credential'.profileId = credential.profileId)
    {holderProofValid sessionAuthorized readinessFresh holderProofValid' sessionAuthorized'
      readinessFresh' : Bool}
    (proof : holderProofValid = true → holderProofValid' = true)
    (session : sessionAuthorized = true → sessionAuthorized' = true)
    (fresh : readinessFresh = true → readinessFresh' = true) :
    Better (context credentials holderProofValid sessionAuthorized (some readiness)
        readinessFresh).facts
      (context credentials' holderProofValid' sessionAuthorized' (some readiness')
        readinessFresh').facts := by
  have profile (name : String) : Value.Le (κ := Int) (.bool (credentials.any (·.profileId = name)))
      (.bool (credentials'.any (·.profileId = name))) := by
    apply Value.Le.bool
    intro h
    obtain ⟨credential, mem, rfl⟩ := any_profileId_iff.mp h
    exact any_profileId_iff.mpr (held credential mem)
  have check (name : String) : Value.Le (κ := Int)
      (.bool (((some readiness).bind fun value => value.checks.lookup name).getD false))
      (.bool (((some readiness').bind fun value => value.checks.lookup name).getD false)) := by
    apply Value.Le.bool
    intro h
    exact getD_lookup_iff.mpr (H.checks name (getD_lookup_iff.mp h))
  have range : Value.Le (.number readiness.rangeM.ceilMilli.toInt)
    (.number readiness'.rangeM.ceilMilli.toInt) := .number H.range.ceilMilli_le
  have closingRate : Value.Le (.number readiness.closingRateMps.ceilMilli.toInt)
    (.number readiness'.closingRateMps.ceilMilli.toInt) := .number H.closingRate.ceilMilli_le
  apply better_of_forall₂
  refine .cons ⟨rfl, profile _⟩ (.cons ⟨rfl, profile _⟩ (.cons ⟨rfl, .bool proof⟩
    (.cons ⟨rfl, .bool session⟩ (.cons ⟨rfl, .bool fresh⟩ ?_))))
  refine .cons ⟨rfl, check _⟩ (.cons ⟨rfl, check _⟩ (.cons ⟨rfl, check _⟩ (.cons ⟨rfl, check _⟩
    (.cons ⟨rfl, check _⟩ ?_))))
  refine .cons ⟨rfl, check _⟩ (.cons ⟨rfl, check _⟩ (.cons ⟨rfl, check _⟩ (.cons ⟨rfl, check _⟩
    (.cons ⟨rfl, check _⟩ ?_))))
  exact .cons ⟨rfl, range⟩ (.cons ⟨rfl, closingRate⟩ .nil)

/-- For every set of policies that permit on facts and upper limits: a transition that is allowed
is also allowed with all the credentials and more, when everything that was shown is shown again, on
evidence that is not worse. -/
theorem authorizeTransition_mono (cr : Crates) (engine : CedarPolicyEngine) (policies : List Rule)
    (wellFormed : WellFormed policies) (H : cr.Evaluates engine.policies policies)
    (vehicleId stationId action : String)
    (credentials credentials' : List VerifiedCredentialEvidence)
    (held : ∀ credential ∈ credentials, ∃ credential' ∈ credentials',
      credential'.profileId = credential.profileId)
    (holderProofValid sessionAuthorized readinessFresh holderProofValid' sessionAuthorized'
      readinessFresh' : Bool)
    (proof : holderProofValid = true → holderProofValid' = true)
    (session : sessionAuthorized = true → sessionAuthorized' = true)
    (fresh : readinessFresh = true → readinessFresh' = true)
    (readiness readiness' : ReadinessEvidence) (improves : Improves readiness readiness')
    (decision : AccessDecision)
    (allowed : engine.authorizeTransition cr vehicleId stationId action credentials holderProofValid
      sessionAuthorized readiness readinessFresh = .ok decision) :
    ∃ decision', engine.authorizeTransition cr vehicleId stationId action credentials'
      holderProofValid' sessionAuthorized' readiness' readinessFresh' = .ok decision' := by
  obtain ⟨before, -⟩ := H.authorize_iff "stage_transition" vehicleId action stationId wellFormed
    (nodup_context credentials holderProofValid sessionAuthorized (some readiness) readinessFresh)
    (provides_context _ _ _ _ _)
  obtain ⟨after, -⟩ := H.authorize_iff "stage_transition" vehicleId action stationId wellFormed
    (nodup_context credentials' holderProofValid' sessionAuthorized' (some readiness')
      readinessFresh') (provides_context _ _ _ _ _)
  apply after.mpr
  have better := improves.better held proof session fresh
  have scopes (policy : Rule) (mem : policy ∈ policies) :=
    wellFormed.scopes policy mem (question vehicleId action stationId
      (context credentials holderProofValid sessionAuthorized (some readiness) readinessFresh))
      (context credentials' holderProofValid' sessionAuthorized' (some readiness') readinessFresh')
  exact allows_mono wellFormed.permits wellFormed.positive scopes better
    (before.mp ⟨decision, allowed⟩)

/-! ## The policies of the reference -/

theorem holds_fact_iff {context : CedarContext} {name : String} :
    Holds context.facts (fact name) ↔ Reference.holds context name = true := by
  simp only [fact, holds_fact, CedarContext.facts, Reference.holds, decide_eq_true_eq,
    Option.map_eq_some_iff]
  constructor
  · rintro ⟨value, known, isTrue⟩
    cases value with
    | bool b =>
      cases isTrue
      exact known
    | long i => cases isTrue
  · intro known
    exact ⟨_, known, rfl⟩

theorem holds_atMost_iff {context : CedarContext} {name : String} (limit : Int64) :
    Holds context.facts (atMost name limit.toInt) ↔
      Reference.atMost context name limit = true := by
  simp only [atMost, holds_le, CedarContext.facts, Reference.atMost, Option.map_eq_some_iff]
  constructor
  · rintro ⟨n, ⟨value, known, isNumber⟩, within⟩
    cases value with
    | bool b => cases isNumber
    | long i =>
      cases isNumber
      rw [known]
      exact decide_eq_true (Int64.le_iff_toInt_le.mpr within)
  · intro within
    split at within
    · rename_i i known
      exact ⟨i.toInt, ⟨_, known, rfl⟩, Int64.le_iff_toInt_le.mp (of_decide_eq_true within)⟩
    · cases within

theorem scope_iff {action : String} {condition : Condition} {request : CedarRequest} :
    (permit action condition).scope request = true ↔ request.principal.typeName = "Vehicle" ∧
      request.action = ⟨"Action", action⟩ ∧ request.resource = ⟨"Station", "waystation-1"⟩ := by
  simp [permit, and_assoc]

theorem reference_commercialDocking_iff (request : CedarRequest) :
    Reference.commercialDocking request = true ↔
      allows CommercialDocking.policies request.context.facts request = true := by
  obtain ⟨principal, ⟨typeName, id⟩, resource, context⟩ := request
  have limits (name : String) (limit : Int64) (limit' : Int) (h : limit.toInt = limit') :
      Holds context.facts (atMost name limit') ↔ Reference.atMost context name limit = true :=
    h ▸ holds_atMost_iff limit
  rw [allows_iff CommercialDocking.wellFormed.permits]
  simp only [CommercialDocking.policies, List.mem_cons, List.not_mem_nil, or_false,
    exists_eq_or_imp, exists_eq_left, authorizeCommercialSession, enterApproach, enterFinalApproach,
    engageSoftCapture, engageHardDock, scope_iff]
  simp only [permit, holds_all, List.forall_mem_cons, List.not_mem_nil, false_imp_iff, implies_true,
    and_true, holds_fact_iff, limits "closing_rate_mmps" 600 600 rfl,
    limits "closing_rate_mmps" 200 200 rfl, limits "closing_rate_mmps" 100 100 rfl,
    limits "closing_rate_mmps" 50 50 rfl, limits "range_mm" 1120 1120 rfl,
    limits "range_mm" 320 320 rfl, limits "range_mm" 40 40 rfl, EntityUid.mk.injEq]
  simp only [Reference.commercialDocking, Bool.and_eq_true, decide_eq_true_eq]
  split
  case h_6 h₁ h₂ h₃ h₄ h₅ =>
    simp only [eq_false h₁, eq_false h₂, eq_false h₃, eq_false h₄, eq_false h₅, Bool.false_eq_true,
      and_false, false_and, or_self]
  all_goals
    simp only [List.all_cons, List.all_nil, Bool.and_eq_true, and_true, String.reduceEq, and_false,
      false_and, or_false, false_or]
    tauto

theorem reference_evaluates (policySet : PolicySet) :
    reference.Evaluates policySet CommercialDocking.policies where
  parseEntityUid _ _ := rfl
  contextFromJsonValue _ := rfl
  requestNew _ _ _ _ := rfl
  decision request _ := by
    rw [← reference_commercialDocking_iff]
    constructor
    · exact reference_allow
    · intro allowed
      simp only [reference, allowed, if_true]
  errors request provides := by
    simp only [errors_eq_nil provides CommercialDocking.wellFormed.typed, iff_true]
    rfl

/-! ## The simulation -/

namespace Simulation

/-- The policy engine of the simulation. -/
def policyEngine : CedarPolicyEngine := (setup protocolProfile).config.authorizationPolicyEngine

/-- What an approach requires, on the evidence of the simulation. -/
theorem met_steady : ∃ required, requirement "enter_approach" = some required ∧
    required.Met credentials true true steady true := by
  refine ⟨_, rfl, ?_⟩
  constructor
  · decide
  · rfl
  · intro _
    rfl
  · intro _
    rfl
  · decide
  · intro limit hlimit
    cases hlimit
  · intro limit hlimit
    cases hlimit
    show 1000 * (1 / 100 : Rat) ≤ (600 : Int)
    decide +kernel

theorem allowed_steady : ∃ decision, policyEngine.authorizeTransition reference "odyssey-7"
    "waystation-1" "enter_approach" credentials true true steady true = .ok decision := by
  apply ((reference_evaluates policyEngine.policies).authorize_iff _ _ _ _
    CommercialDocking.wellFormed (nodup_context _ _ _ _ _) (provides_context _ _ _ _ _)).1.mpr
  exact (allows_iff_met ..).mpr ⟨rfl, met_steady⟩

/-- Evidence from nearer to the station, of a vehicle that does not move. -/
def halted : ReadinessEvidence :=
  readiness ["initial_hold_confirmed", "retreat_available", "latches_ready"] 1 0

end Simulation

/-- An approach of the simulation is allowed, and one that is too fast is denied. -/
theorem commercialDocking_verdict_approach :
    (∃ decision, Simulation.policyEngine.authorizeTransition reference "odyssey-7" "waystation-1"
      "enter_approach" Simulation.credentials true true Simulation.steady true = .ok decision) ∧
    ¬∃ decision, Simulation.policyEngine.authorizeTransition reference "odyssey-7" "waystation-1"
      "enter_approach" Simulation.credentials true true Simulation.closing true =
        .ok decision := by
  have verdict (readiness : ReadinessEvidence) := (commercialDocking_verdict reference
    Simulation.policyEngine (reference_evaluates _) "odyssey-7" "waystation-1" "enter_approach"
    Simulation.credentials true true readiness true).1
  constructor
  · exact (verdict Simulation.steady).mpr ⟨rfl, Simulation.met_steady⟩
  · intro allowed
    obtain ⟨-, _, found, met⟩ := (verdict Simulation.closing).mp allowed
    cases found
    have slow : 1000 * (10 : Rat) ≤ (600 : Int) := met.closingRate 600 rfl
    exact absurd slow (by decide +kernel)

/-- An approach that is allowed is allowed from nearer. -/
theorem authorizeTransition_mono_approach : ∃ decision,
    Simulation.policyEngine.authorizeTransition reference "odyssey-7" "waystation-1"
      "enter_approach" Simulation.credentials true true Simulation.halted true = .ok decision := by
  obtain ⟨decision, allowed⟩ := Simulation.allowed_steady
  have improves : Improves Simulation.steady Simulation.halted := by
    constructor
    · intro check passed
      have known : check ∈ Simulation.steady.checks := Finmap.mem_of_lookup_eq_some passed
      have among : check = "initial_hold_confirmed" ∨ check = "retreat_available" := by
        obtain ⟨value, mem⟩ := (Finmap.mem_list_toFinmap _ _).mp known
        have entry : check = "initial_hold_confirmed" ∧ value = true ∨
          check = "retreat_available" ∧ value = true := by simpa using mem
        exact entry.imp And.left And.left
      rcases among with rfl | rfl
      all_goals rfl
    · exact .finite (by decide +kernel)
    · exact .finite (by decide +kernel)
  exact authorizeTransition_mono reference Simulation.policyEngine CommercialDocking.policies
    CommercialDocking.wellFormed (reference_evaluates _) "odyssey-7" "waystation-1"
    "enter_approach" Simulation.credentials Simulation.credentials
    (fun credential mem => ⟨credential, mem, rfl⟩) true true true true true true id id id
    Simulation.steady Simulation.halted improves decision allowed

end Access
