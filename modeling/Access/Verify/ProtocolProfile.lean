import Access.Reference

/-! # What a profile checks

What a transition that `evaluate` allows went through, and how the ages that it compares are
bounded: from above, by their configured maximum, and not from below. -/

namespace Access

variable {cr : Crates} {profile : ProtocolProfile} {nowS : Int64}

/-! ## The checks -/

/-- What `validate_foundation` checks. -/
structure FoundationValid (cr : Crates) (profile : ProtocolProfile) (nowS : Int64)
    (bundleId : String) (bundleVersion : UInt64) (bundleIssuedAtS : Int64) : Prop where
  window : ∃ validFrom validUntil, cr.parseFromRfc3339 profile.validFrom = some validFrom ∧
    cr.parseFromRfc3339 profile.validUntil = some validUntil ∧ validFrom ≤ nowS ∧ nowS ≤ validUntil
  bundleId_eq : profile.trustBundle.bundleId = bundleId
  minimumVersion : profile.trustBundle.minimumVersion ≤ bundleVersion
  maximumAge : nowS.saturatingSub bundleIssuedAtS ≤ profile.trustBundle.maximumAgeS

theorem validateFoundation_eq_ok {bundleId : String} {bundleVersion : UInt64}
    {bundleIssuedAtS : Int64} {u : Unit} :
    profile.validateFoundation cr nowS bundleId bundleVersion bundleIssuedAtS = .ok u ↔
      FoundationValid cr profile nowS bundleId bundleVersion bundleIssuedAtS := by
  simp only [ProtocolProfile.validateFoundation, parseTimestamp, Except.bind_eq_ok,
    Except.okOr_eq_ok, Except.failIf_eq_ok, not_or, not_not, gt_iff_lt, Int64.not_lt,
    UInt64.not_lt]
  constructor
  · rintro ⟨validFrom, hfrom, validUntil, huntil, _, ⟨h₁, h₂⟩, hid, hversion, hage⟩
    exact ⟨⟨validFrom, validUntil, hfrom, huntil, h₁, h₂⟩, hid, hversion, hage⟩
  · rintro ⟨⟨validFrom, validUntil, hfrom, huntil, h₁, h₂⟩, hid, hversion, hage⟩
    exact ⟨validFrom, hfrom, validUntil, huntil, (), ⟨h₁, h₂⟩, hid, hversion, hage⟩

/-- The profile that `validate_credentials` checks a credential with: the first one with its
identifier. -/
def ProtocolProfile.credentialProfile (profile : ProtocolProfile)
    (credential : VerifiedCredentialEvidence) : Option CredentialProfile :=
  profile.credentialProfiles.find? (·.profileId = credential.profileId)

/-- A credential satisfies its configured profile. -/
structure CredentialValid (profile : ProtocolProfile) (nowS : Int64)
    (credential : VerifiedCredentialEvidence) : Prop where
  exists_profile : ∃ expected, profile.credentialProfile credential = some expected ∧
    credential.credentialType = expected.credentialType ∧ credential.schemaId = expected.schemaId ∧
    credential.issuerGroup ∈ expected.issuerGroups ∧ ∀ maximumAge,
      expected.maximumStatusAgeS = some maximumAge →
        nowS.saturatingSub credential.statusCheckedAtS ≤ maximumAge

theorem validateCredential_eq_ok {credential : VerifiedCredentialEvidence} {u : Unit} :
    profile.validateCredential nowS credential = .ok u ↔
      CredentialValid profile nowS credential := by
  have hstatus (o : Option Int64) (f : Int64 → Int64) :
      ¬(o.any fun maximumAge => decide (f maximumAge > maximumAge)) = true ↔
        ∀ maximumAge, o = some maximumAge → f maximumAge ≤ maximumAge := by
    cases o <;> simp [Int64.not_lt]
  simp only [ProtocolProfile.validateCredential, Except.bind_eq_ok, Except.okOr_eq_ok,
    Except.failIf_eq_ok, not_or, not_not, hstatus]
  exact ⟨fun ⟨expected, h⟩ => ⟨expected, h⟩, fun ⟨expected, h⟩ => ⟨expected, h⟩⟩

theorem validateCredentials_eq_ok {credentials : List VerifiedCredentialEvidence} {u : Unit} :
    profile.validateCredentials credentials nowS = .ok u ↔
      ∀ credential ∈ credentials, CredentialValid profile nowS credential := by
  simp only [ProtocolProfile.validateCredentials, Except.forM_eq_ok, validateCredential_eq_ok]

/-- What `evaluate` checks for a rule. -/
structure RuleSatisfied (rule : StageRuleProfile) (nowS : Int64) (holderProofAtS : Option Int64)
    (sessionAuthorized : Bool) (readiness : ReadinessEvidence) : Prop where
  proof : rule.holderProofRequired → ∃ proofAt, holderProofAtS = some proofAt ∧
    nowS.saturatingSub proofAt ≤ rule.maximumProofAgeS.getD 0
  session : rule.requiredSessionStatus = "authorized" → sessionAuthorized = true
  maximumAge : readiness.ageMs nowS ≤ rule.readiness.maximumAgeMs

/-- The decision for a rule. -/
def ProtocolProfile.decision (profile : ProtocolProfile) (rule : StageRuleProfile) :
    ProtocolRuleDecision where
  profileId := profile.profileId
  profileVersion := profile.profileVersion
  ruleId := rule.ruleId
  entitlementTtlS := rule.entitlementTtlS

theorem evaluate_eq_ok {fromStage toStage bundleId : String} {bundleVersion : UInt64}
    {bundleIssuedAtS : Int64} {credentials : List VerifiedCredentialEvidence}
    {holderProofAtS : Option Int64} {sessionAuthorized : Bool} {readiness : ReadinessEvidence}
    {d : ProtocolRuleDecision} :
    profile.evaluate cr fromStage toStage nowS bundleId bundleVersion bundleIssuedAtS credentials
        holderProofAtS sessionAuthorized readiness = .ok d ↔
      FoundationValid cr profile nowS bundleId bundleVersion bundleIssuedAtS ∧
        (∀ credential ∈ credentials, CredentialValid profile nowS credential) ∧
        ∃ rule, profile.findRule fromStage toStage = some rule ∧
          RuleSatisfied rule nowS holderProofAtS sessionAuthorized readiness ∧
          d = profile.decision rule := by
  have hproof (rule : StageRuleProfile) : ¬(rule.holderProofRequired = true ∧
      (holderProofAtS.all fun proofAt =>
        decide (nowS.saturatingSub proofAt > rule.maximumProofAgeS.getD 0)) = true) ↔
      (rule.holderProofRequired → ∃ proofAt, holderProofAtS = some proofAt ∧
        nowS.saturatingSub proofAt ≤ rule.maximumProofAgeS.getD 0) := by
    cases holderProofAtS <;> simp [Int64.not_lt]
  have hsession (rule : StageRuleProfile) :
      ¬(rule.requiredSessionStatus = "authorized" ∧ sessionAuthorized = false) ↔
      (rule.requiredSessionStatus = "authorized" → sessionAuthorized = true) := by
    cases sessionAuthorized <;> simp
  simp only [ProtocolProfile.evaluate, Except.bind_eq_ok, Except.okOr_eq_ok, Except.failIf_eq_ok,
    Except.pure_eq_ok, validateFoundation_eq_ok, validateCredentials_eq_ok, hproof, hsession,
    gt_iff_lt, Int64.not_lt]
  constructor
  · rintro ⟨_, hfoundation, _, hcredentials, rule, hrule, _, h₁, _, h₂, _, h₃, rfl⟩
    exact ⟨hfoundation, hcredentials, rule, hrule, ⟨h₁, h₂, h₃⟩, rfl⟩
  · rintro ⟨hfoundation, hcredentials, rule, hrule, ⟨h₁, h₂, h₃⟩, rfl⟩
    exact ⟨(), hfoundation, (), hcredentials, rule, hrule, (), h₁, (), h₂, (), h₃, rfl⟩

/-! ## Ages -/

/-- The window of a profile lies in the years that dates can have. -/
theorem FoundationValid.nowS_range {bundleId : String} {bundleVersion : UInt64}
    {bundleIssuedAtS : Int64} (hcr : cr.TimestampsInRange)
    (H : FoundationValid cr profile nowS bundleId bundleVersion bundleIssuedAtS) :
    -62167305600 ≤ nowS.toInt ∧ nowS.toInt ≤ 253402387199 := by
  obtain ⟨validFrom, validUntil, hfrom, huntil, h₁, h₂⟩ := H.window
  exact ⟨(hcr hfrom).1.trans (Int64.le_iff_toInt_le.mp h₁),
    (Int64.le_iff_toInt_le.mp h₂).trans (hcr huntil).2⟩

/-- `P` holds of each age that `evaluate` bounds for a rule: of the present in units of which
`unit` are a second, the time it is compared with, and the largest age. -/
structure EachAge (P : (unit present : Int) → (time limit : Int64) → Prop)
    (profile : ProtocolProfile) (rule : StageRuleProfile) (nowS bundleIssuedAtS : Int64)
    (credentials : List VerifiedCredentialEvidence) (holderProofAtS : Option Int64)
    (readiness : ReadinessEvidence) : Prop where
  readiness : P 1000 (nowS.toInt * 1000) readiness.observedAtMs rule.readiness.maximumAgeMs
  proof : rule.holderProofRequired → ∃ proofAt, holderProofAtS = some proofAt ∧
    P 1 nowS.toInt proofAt (rule.maximumProofAgeS.getD 0)
  statuses : ∀ credential ∈ credentials, ∃ expected,
    profile.credentialProfile credential = some expected ∧ ∀ maximumAge,
      expected.maximumStatusAgeS = some maximumAge →
        P 1 nowS.toInt credential.statusCheckedAtS maximumAge
  bundle : P 1 nowS.toInt bundleIssuedAtS profile.trustBundle.maximumAgeS

/-- What the comparison of a saturated age says. -/
def Compared (_unit present : Int) (time limit : Int64) : Prop :=
  present - time.toInt ≤ limit.toInt ∨ limit = Int64.maxValue

/-- A time is at most `limit` old. -/
def AtMost (_unit present : Int) (time limit : Int64) : Prop := present - time.toInt ≤ limit.toInt

/-- A time is not so long ago that its age is beyond 64 bits, where the limit is the largest value
of 64 bits. -/
def Measurable (_unit present : Int) (time limit : Int64) : Prop :=
  limit = Int64.maxValue → present - time.toInt ≤ Int64.maxValue.toInt

/-- A time is at most the clock skew ahead. -/
def NotAhead (unit present : Int) (time _limit : Int64) : Prop :=
  time.toInt ≤ present + maxClockSkewS.toInt * unit

/-- A time is at most `limit` old, and at most the clock skew ahead. -/
def Bounded (unit present : Int) (time limit : Int64) : Prop :=
  AtMost unit present time limit ∧ NotAhead unit present time limit

/-- The condition of `Bounded` that no comparison checks. -/
def Timely (unit present : Int) (time limit : Int64) : Prop :=
  Measurable unit present time limit ∧ NotAhead unit present time limit

instance (unit present : Int) (time limit : Int64) : Decidable (NotAhead unit present time limit) :=
  inferInstanceAs (Decidable (_ ≤ _))

instance (unit present : Int) (time limit : Int64) : Decidable (Timely unit present time limit) :=
  inferInstanceAs (Decidable ((_ = _ → _ ≤ _) ∧ _ ≤ _))

theorem Compared.atMost_iff {unit present : Int} {time limit : Int64}
    (H : Compared unit present time limit) :
    AtMost unit present time limit ↔ Measurable unit present time limit := by
  constructor
  · exact fun hage hmax => hmax ▸ hage
  · intro hmax
    rcases H with hage | rfl
    · exact hage
    · exact hmax rfl

theorem Compared.bounded_iff {unit present : Int} {time limit : Int64}
    (H : Compared unit present time limit) :
    Bounded unit present time limit ↔ Timely unit present time limit :=
  and_congr_left fun _ => H.atMost_iff

section

variable {rule : StageRuleProfile} {bundleIssuedAtS : Int64}
  {credentials : List VerifiedCredentialEvidence} {holderProofAtS : Option Int64}
  {readiness : ReadinessEvidence} {P Q : Int → Int → Int64 → Int64 → Prop}

theorem EachAge.and_imp {R : Int → Int → Int64 → Int64 → Prop}
    (HP : EachAge P profile rule nowS bundleIssuedAtS credentials holderProofAtS readiness)
    (HQ : EachAge Q profile rule nowS bundleIssuedAtS credentials holderProofAtS readiness)
    (h : ∀ unit present time limit, P unit present time limit → Q unit present time limit →
      R unit present time limit) :
    EachAge R profile rule nowS bundleIssuedAtS credentials holderProofAtS readiness where
  readiness := h _ _ _ _ HP.readiness HQ.readiness
  proof hrequired := by
    obtain ⟨proofAt, hproof, hp⟩ := HP.proof hrequired
    obtain ⟨_, hproof', hq⟩ := HQ.proof hrequired
    cases hproof.symm.trans hproof'
    exact ⟨proofAt, hproof, h _ _ _ _ hp hq⟩
  statuses credential hmem := by
    obtain ⟨expected, hexpected, hp⟩ := HP.statuses credential hmem
    obtain ⟨_, hexpected', hq⟩ := HQ.statuses credential hmem
    cases hexpected.symm.trans hexpected'
    exact ⟨expected, hexpected, fun maximumAge hmax =>
      h _ _ _ _ (hp maximumAge hmax) (hq maximumAge hmax)⟩
  bundle := h _ _ _ _ HP.bundle HQ.bundle

theorem EachAge.iff
    (H : EachAge Compared profile rule nowS bundleIssuedAtS credentials holderProofAtS readiness)
    (h : ∀ unit present time limit, Compared unit present time limit →
      (P unit present time limit ↔ Q unit present time limit)) :
    EachAge P profile rule nowS bundleIssuedAtS credentials holderProofAtS readiness ↔
      EachAge Q profile rule nowS bundleIssuedAtS credentials holderProofAtS readiness :=
  ⟨fun HP => H.and_imp HP fun _ _ _ _ hc => (h _ _ _ _ hc).mp,
    fun HQ => H.and_imp HQ fun _ _ _ _ hc => (h _ _ _ _ hc).mpr⟩

/-- What `evaluate` compares, over the exact ages. -/
theorem evaluate_compared (hcr : cr.TimestampsInRange) {bundleId : String}
    {bundleVersion : UInt64} {sessionAuthorized : Bool}
    (hfoundation : FoundationValid cr profile nowS bundleId bundleVersion bundleIssuedAtS)
    (hcredentials : ∀ credential ∈ credentials, CredentialValid profile nowS credential)
    (hrule : RuleSatisfied rule nowS holderProofAtS sessionAuthorized readiness) :
    EachAge Compared profile rule nowS bundleIssuedAtS credentials holderProofAtS readiness where
  readiness := by
    obtain ⟨h₁, h₂⟩ := hfoundation.nowS_range hcr
    have hms : (nowS.saturatingMul 1000).toInt = nowS.toInt * 1000 :=
      Int64.toInt_ofIntClamp_of_range (n := nowS.toInt * 1000) (by omega) (by omega)
    have := Int64.saturatingSub_le.mp hrule.maximumAge
    rwa [hms] at this
  proof hrequired := by
    obtain ⟨proofAt, hproof, hage⟩ := hrule.proof hrequired
    exact ⟨proofAt, hproof, Int64.saturatingSub_le.mp hage⟩
  statuses credential hmem := by
    obtain ⟨expected, hexpected, -, -, -, hage⟩ := (hcredentials credential hmem).exists_profile
    exact ⟨expected, hexpected, fun maximumAge hmax =>
      Int64.saturatingSub_le.mp (hage maximumAge hmax)⟩
  bundle := Int64.saturatingSub_le.mp hfoundation.maximumAge

end

/-- When `evaluate` allows a transition, the ages that it compares are bounded on both sides if and
only if none of the times is further ahead than the clock skew, and none of the ages exceeds a
maximum that is the largest value of 64 bits. -/
theorem evaluate_bounded_iff (cr : Crates) (hcr : cr.TimestampsInRange) (profile : ProtocolProfile)
    (fromStage toStage : String) (nowS : Int64) (bundleId : String) (bundleVersion : UInt64)
    (bundleIssuedAtS : Int64) (credentials : List VerifiedCredentialEvidence)
    (holderProofAtS : Option Int64) (sessionAuthorized : Bool) (readiness : ReadinessEvidence)
    (d : ProtocolRuleDecision)
    (h : profile.evaluate cr fromStage toStage nowS bundleId bundleVersion bundleIssuedAtS
      credentials holderProofAtS sessionAuthorized readiness = .ok d) :
    ∃ rule, profile.findRule fromStage toStage = some rule ∧
      (EachAge Bounded profile rule nowS bundleIssuedAtS credentials holderProofAtS readiness ↔
        EachAge Timely profile rule nowS bundleIssuedAtS credentials holderProofAtS readiness) := by
  obtain ⟨hfoundation, hcredentials, rule, hrule, hsatisfied, -⟩ := evaluate_eq_ok.mp h
  have hcompared := evaluate_compared hcr hfoundation hcredentials hsatisfied
  exact ⟨rule, hrule, hcompared.iff fun _ _ _ _ => Compared.bounded_iff⟩

/-- The ages behind the simulation's approach. -/
theorem evaluate_bounded_iff_approach :
    EachAge Bounded Simulation.protocolProfile Simulation.approachRule Simulation.nowS
      (Simulation.nowS - 60) Simulation.credentials (some Simulation.nowS) Simulation.steady := by
  obtain ⟨rule, hrule, hiff⟩ := evaluate_bounded_iff reference reference_timestampsInRange
    Simulation.protocolProfile "hold" "approach" Simulation.nowS "waystation-1-trust" 42
    (Simulation.nowS - 60) Simulation.credentials (some Simulation.nowS) true Simulation.steady
    (Simulation.protocolProfile.decision Simulation.approachRule) (by rfl)
  cases (show some Simulation.approachRule = some rule from hrule)
  refine hiff.mpr ⟨by decide, fun _ => ⟨_, rfl, by decide⟩, fun credential hmem => ?_, by decide⟩
  rcases List.mem_cons.mp hmem with rfl | hmem
  · exact ⟨_, rfl, by rintro _ ⟨⟩; decide⟩
  · cases List.mem_singleton.mp hmem
    exact ⟨_, rfl, by rintro _ ⟨⟩; decide⟩

/-- Evidence from the end of time is taken for fresh. -/
theorem evaluate_unbounded :
    ¬∀ (cr : Crates) (_ : cr.TimestampsInRange) (profile : ProtocolProfile)
      (fromStage toStage : String) (nowS : Int64) (bundleId : String) (bundleVersion : UInt64)
      (bundleIssuedAtS : Int64) (credentials : List VerifiedCredentialEvidence)
      (holderProofAtS : Option Int64) (sessionAuthorized : Bool) (readiness : ReadinessEvidence)
      (d : ProtocolRuleDecision),
      profile.evaluate cr fromStage toStage nowS bundleId bundleVersion bundleIssuedAtS
        credentials holderProofAtS sessionAuthorized readiness = .ok d →
      ∃ rule, profile.findRule fromStage toStage = some rule ∧
        EachAge Bounded profile rule nowS bundleIssuedAtS credentials holderProofAtS readiness := by
  intro h
  obtain ⟨rule, -, hages⟩ := h reference reference_timestampsInRange Simulation.protocolProfile
    "hold" "approach" Simulation.nowS "waystation-1-trust" 42 (Simulation.nowS - 60)
    Simulation.credentials (some Simulation.nowS) true
    { Simulation.steady with observedAtMs := Int64.maxValue }
    (Simulation.protocolProfile.decision Simulation.approachRule) (by rfl)
  have hahead : ¬Int64.maxValue.toInt ≤
      Simulation.nowS.toInt * 1000 + maxClockSkewS.toInt * 1000 := by decide
  exact hahead hages.readiness.2

/-! ## Exact arithmetic

`evaluate` as it would be with numbers of any size. It comes to the same: a saturated difference is
compared exactly with a maximum below the largest value, and the present, once it is in the window of
the profile, is small enough to be multiplied. -/

namespace ProtocolProfile

def validateFoundationExact (cr : Crates) (profile : ProtocolProfile) (nowS : Int64)
    (trustBundleId : String) (trustBundleVersion : UInt64) (trustBundleIssuedAtS : Int64) :
    Except ProtocolProfileError Unit := do
  let validFrom ← parseTimestamp cr profile.validFrom
  let validUntil ← parseTimestamp cr profile.validUntil
  Except.failIf (nowS < validFrom ∨ nowS > validUntil) .profileExpired
  Except.failIf (profile.trustBundle.bundleId ≠ trustBundleId ∨
    trustBundleVersion < profile.trustBundle.minimumVersion ∨
    nowS.toInt - trustBundleIssuedAtS.toInt > profile.trustBundle.maximumAgeS.toInt)
    .trustBundleMismatch

def validateCredentialExact (profile : ProtocolProfile) (nowS : Int64)
    (credential : VerifiedCredentialEvidence) : Except ProtocolProfileError Unit := do
  let expected ← Except.okOr
    (profile.credentialProfiles.find? (·.profileId = credential.profileId)) .credentialRequired
  Except.failIf (credential.credentialType ≠ expected.credentialType ∨
    credential.schemaId ≠ expected.schemaId ∨
    credential.issuerGroup ∉ expected.issuerGroups ∨
    expected.maximumStatusAgeS.any
      (fun maximumAge => nowS.toInt - credential.statusCheckedAtS.toInt > maximumAge.toInt))
    .credentialRequired

def evaluateExact (cr : Crates) (profile : ProtocolProfile) (fromStage toStage : String)
    (nowS : Int64) (trustBundleId : String) (trustBundleVersion : UInt64)
    (trustBundleIssuedAtS : Int64) (credentials : List VerifiedCredentialEvidence)
    (holderProofAtS : Option Int64) (sessionAuthorized : Bool) (readiness : ReadinessEvidence) :
    Except ProtocolProfileError ProtocolRuleDecision := do
  profile.validateFoundationExact cr nowS trustBundleId trustBundleVersion trustBundleIssuedAtS
  credentials.forM (profile.validateCredentialExact nowS)
  let rule ← Except.okOr (profile.findRule fromStage toStage) .noMatchingRule
  Except.failIf (rule.holderProofRequired ∧ holderProofAtS.all
    (fun proofAt => nowS.toInt - proofAt.toInt > (rule.maximumProofAgeS.getD 0).toInt))
    .holderProofRequired
  Except.failIf (rule.requiredSessionStatus = "authorized" ∧ sessionAuthorized = false)
    .sessionRequired
  Except.failIf
    (nowS.toInt * 1000 - readiness.observedAtMs.toInt > rule.readiness.maximumAgeMs.toInt)
    .readinessStale
  pure { profileId := profile.profileId, profileVersion := profile.profileVersion,
         ruleId := rule.ruleId, entitlementTtlS := rule.entitlementTtlS }

/-- Every maximum age that the profile configures is below the largest value. -/
structure AgesBelowMax (profile : ProtocolProfile) : Prop where
  bundle : profile.trustBundle.maximumAgeS < Int64.maxValue
  statuses : ∀ expected ∈ profile.credentialProfiles, ∀ maximumAge,
    expected.maximumStatusAgeS = some maximumAge → maximumAge < Int64.maxValue
  proofs : ∀ rule ∈ profile.stageRules, ∀ maximumAge,
    rule.maximumProofAgeS = some maximumAge → maximumAge < Int64.maxValue
  readiness : ∀ rule ∈ profile.stageRules, rule.readiness.maximumAgeMs < Int64.maxValue

end ProtocolProfile

open ProtocolProfile

/-- A saturated difference exceeds a limit below the largest value when the exact one does. -/
theorem saturatingSub_gt {a b limit : Int64} (h : limit < Int64.maxValue) :
    a.saturatingSub b > limit ↔ a.toInt - b.toInt > limit.toInt := by
  have below : limit ≠ Int64.maxValue := by
    rintro rfl
    exact Int64.lt_irrefl h
  rw [gt_iff_lt, ← Int64.not_le, Int64.saturatingSub_le, gt_iff_lt, ← Int.not_le]
  simp only [below, or_false]

theorem validateFoundation_eq_exact (h : profile.AgesBelowMax) (nowS : Int64) (bundleId : String)
    (bundleVersion : UInt64) (bundleIssuedAtS : Int64) :
    profile.validateFoundation cr nowS bundleId bundleVersion bundleIssuedAtS =
      profile.validateFoundationExact cr nowS bundleId bundleVersion bundleIssuedAtS := by
  simp only [validateFoundation, validateFoundationExact, saturatingSub_gt h.bundle]

theorem validateCredential_eq_exact (h : profile.AgesBelowMax) (nowS : Int64) :
    profile.validateCredential nowS = profile.validateCredentialExact nowS := by
  funext credential
  unfold validateCredential validateCredentialExact
  cases hexpected : profile.credentialProfiles.find? (·.profileId = credential.profileId) with
  | none => rfl
  | some expected =>
    have hstatuses := h.statuses expected (List.mem_of_find?_eq_some hexpected)
    cases hmax : expected.maximumStatusAgeS with
    | none => simp only [Except.okOr, bind, Except.bind, hmax, Option.any_none]
    | some maximumAge =>
      simp only [Except.okOr, bind, Except.bind, hmax, Option.any_some,
        saturatingSub_gt (hstatuses _ hmax)]

theorem ageMs_gt {readiness : ReadinessEvidence} {limit : Int64} (hlimit : limit < Int64.maxValue)
    (hnow : -62167305600 ≤ nowS.toInt ∧ nowS.toInt ≤ 253402387199) :
    readiness.ageMs nowS > limit ↔
      nowS.toInt * 1000 - readiness.observedAtMs.toInt > limit.toInt := by
  have hms : (nowS.saturatingMul 1000).toInt = nowS.toInt * 1000 :=
    Int64.toInt_ofIntClamp_of_range (n := nowS.toInt * 1000) (by omega) (by omega)
  rw [ReadinessEvidence.ageMs, saturatingSub_gt hlimit, hms]

/-- With maximum ages below the largest value, the saturating arithmetic of `evaluate` decides as
exact arithmetic does. -/
theorem evaluate_eq_evaluateExact (cr : Crates) (hcr : cr.TimestampsInRange)
    (profile : ProtocolProfile) (h : profile.AgesBelowMax) (fromStage toStage : String)
    (nowS : Int64) (bundleId : String) (bundleVersion : UInt64) (bundleIssuedAtS : Int64)
    (credentials : List VerifiedCredentialEvidence) (holderProofAtS : Option Int64)
    (sessionAuthorized : Bool) (readiness : ReadinessEvidence) :
    profile.evaluate cr fromStage toStage nowS bundleId bundleVersion bundleIssuedAtS credentials
        holderProofAtS sessionAuthorized readiness =
      profile.evaluateExact cr fromStage toStage nowS bundleId bundleVersion bundleIssuedAtS
        credentials holderProofAtS sessionAuthorized readiness := by
  unfold evaluate evaluateExact validateCredentials
  rw [← validateFoundation_eq_exact h, validateCredential_eq_exact h]
  cases hfoundation :
      profile.validateFoundation cr nowS bundleId bundleVersion bundleIssuedAtS with
  | error e => rfl
  | ok u =>
    have hnow := (validateFoundation_eq_ok.mp hfoundation).nowS_range hcr
    cases hrule : profile.findRule fromStage toStage with
    | none => rfl
    | some rule =>
      have hmem : rule ∈ profile.stageRules := List.mem_of_find?_eq_some hrule
      have hproof : rule.maximumProofAgeS.getD 0 < Int64.maxValue := by
        cases hmax : rule.maximumProofAgeS with
        | none => decide
        | some maximumAge => exact h.proofs rule hmem _ hmax
      simp only [Except.okOr, bind, Except.bind, saturatingSub_gt hproof,
        ageMs_gt (h.readiness rule hmem) hnow]

/-- Evidence that is older than 64 bits can tell is stale. -/
theorem evaluate_eq_evaluateExact_approach :
    Simulation.protocolProfile.evaluate reference "hold" "approach" Simulation.nowS
        "waystation-1-trust" 42 (Simulation.nowS - 60) Simulation.credentials
        (some Simulation.nowS) true { Simulation.steady with observedAtMs := Int64.minValue } =
      Simulation.protocolProfile.evaluateExact reference "hold" "approach" Simulation.nowS
        "waystation-1-trust" 42 (Simulation.nowS - 60) Simulation.credentials
        (some Simulation.nowS) true { Simulation.steady with observedAtMs := Int64.minValue } := by
  have below : Simulation.protocolProfile.AgesBelowMax := by
    refine ⟨by decide, ?_, ?_, by decide⟩
    · intro expected hexpected maximumAge hmax
      have hbounded : ∀ expected ∈ Simulation.protocolProfile.credentialProfiles,
          expected.maximumStatusAgeS.all (· < Int64.maxValue) = true := by decide
      have hexpected := hbounded expected hexpected
      rw [hmax] at hexpected
      exact of_decide_eq_true hexpected
    · intro rule hrule maximumAge hmax
      have hbounded : ∀ rule ∈ Simulation.protocolProfile.stageRules,
          rule.maximumProofAgeS.all (· < Int64.maxValue) = true := by decide
      have hrule := hbounded rule hrule
      rw [hmax] at hrule
      exact of_decide_eq_true hrule
  exact evaluate_eq_evaluateExact reference reference_timestampsInRange Simulation.protocolProfile
    below _ _ _ _ _ _ _ _ _ _

end Access
