import Access.Verify.ProtocolProfile

/-! # Credentials without a configured profile

`validate_credentials` looks up the profile of every credential that there is, and refuses one that
has none. So such a credential decides the verdict, unless another check refuses first or another
credential is refused as well. -/

namespace Access

variable {cr : Crates} {profile : ProtocolProfile} {nowS : Int64}

/-- No configured profile has the identifier of the credential. -/
def ProtocolProfile.Unconfigured (profile : ProtocolProfile)
    (credential : VerifiedCredentialEvidence) : Prop :=
  ∀ configured ∈ profile.credentialProfiles, configured.profileId ≠ credential.profileId

theorem not_credentialValid {credential : VerifiedCredentialEvidence}
    (h : profile.Unconfigured credential) : ¬CredentialValid profile nowS credential := by
  intro H
  obtain ⟨expected, hexpected, -⟩ := H.exists_profile
  have hid := List.find?_some hexpected
  exact h expected (List.mem_of_find?_eq_some hexpected) (of_decide_eq_true hid)

/-! ## The one error for a credential -/

theorem validateCredential_eq_error {credential : VerifiedCredentialEvidence}
    {e : ProtocolProfileError} (h : profile.validateCredential nowS credential = .error e) :
    e = .credentialRequired := by
  simp only [ProtocolProfile.validateCredential, Except.bind_eq_error, Except.okOr_eq_error,
    Except.failIf_eq_error] at h
  rcases h with ⟨-, he⟩ | ⟨_, -, -, he⟩
  · exact he.symm
  · exact he.symm

theorem validateCredentials_eq_error {credentials : List VerifiedCredentialEvidence}
    {e : ProtocolProfileError} (h : profile.validateCredentials credentials nowS = .error e) :
    e = .credentialRequired := by
  induction credentials with
  | nil => cases h
  | cons credential credentials ih =>
    have hcons : profile.validateCredentials (credential :: credentials) nowS =
        (profile.validateCredential nowS credential >>= fun _ =>
          profile.validateCredentials credentials nowS) := rfl
    rw [hcons, Except.bind_eq_error] at h
    rcases h with hfirst | ⟨_, -, hrest⟩
    · exact validateCredential_eq_error hfirst
    · exact ih hrest

/-- A list with a credential that is not valid. -/
theorem validateCredentials_of_not_valid {credentials : List VerifiedCredentialEvidence}
    (h : ∃ credential ∈ credentials, ¬CredentialValid profile nowS credential) :
    profile.validateCredentials credentials nowS = .error .credentialRequired := by
  obtain ⟨credential, hmem, hnot⟩ := h
  cases hresult : profile.validateCredentials credentials nowS with
  | error e => rw [validateCredentials_eq_error hresult]
  | ok u => exact absurd (validateCredentials_eq_ok.mp hresult credential hmem) hnot

theorem validateCredentials_of_valid {credentials : List VerifiedCredentialEvidence}
    (h : ∀ credential ∈ credentials, CredentialValid profile nowS credential) :
    profile.validateCredentials credentials nowS = .ok () :=
  validateCredentials_eq_ok.mpr h

/-! ## The verdict -/

section

variable {fromStage toStage bundleId : String} {bundleVersion : UInt64} {bundleIssuedAtS : Int64}
  {credentials : List VerifiedCredentialEvidence} {holderProofAtS : Option Int64}
  {sessionAuthorized : Bool} {readiness : ReadinessEvidence}

theorem evaluate_of_not_foundation {e : ProtocolProfileError}
    (h : profile.validateFoundation cr nowS bundleId bundleVersion bundleIssuedAtS = .error e) :
    profile.evaluate cr fromStage toStage nowS bundleId bundleVersion bundleIssuedAtS credentials
      holderProofAtS sessionAuthorized readiness = .error e := by
  rw [ProtocolProfile.evaluate, h]
  rfl

theorem evaluate_of_not_valid
    (hfoundation : FoundationValid cr profile nowS bundleId bundleVersion bundleIssuedAtS)
    (h : ∃ credential ∈ credentials, ¬CredentialValid profile nowS credential) :
    profile.evaluate cr fromStage toStage nowS bundleId bundleVersion bundleIssuedAtS credentials
      holderProofAtS sessionAuthorized readiness = .error .credentialRequired := by
  have hok := validateFoundation_eq_ok (u := ()).mpr hfoundation
  rw [ProtocolProfile.evaluate, hok, validateCredentials_of_not_valid h]
  rfl

/-- The checks of the rule have errors of their own. -/
theorem evaluate_ne_credentialRequired
    (h : ∀ credential ∈ credentials, CredentialValid profile nowS credential)
    (hfoundation : FoundationValid cr profile nowS bundleId bundleVersion bundleIssuedAtS) :
    profile.evaluate cr fromStage toStage nowS bundleId bundleVersion bundleIssuedAtS credentials
      holderProofAtS sessionAuthorized readiness ≠ .error .credentialRequired := by
  have hok := validateFoundation_eq_ok (u := ()).mpr hfoundation
  have hvalid := validateCredentials_of_valid h
  simp [-bind_pure_comp, ProtocolProfile.evaluate, Except.bind_eq_error, Except.okOr_eq_error,
    Except.failIf_eq_error, Except.pure_eq_error, hok, hvalid]

end

/-- For every profile, time and list of credentials, and one more credential without a configured
profile at any place in the list: the verdict on the credentials is the same with and without it if
and only if another credential of the list is not valid; and the verdict on a transition is, if and
only if that is so or the foundation is not valid. -/
theorem same_verdict_iff (cr : Crates) (profile : ProtocolProfile) (nowS : Int64)
    (before after : List VerifiedCredentialEvidence) (credential : VerifiedCredentialEvidence)
    (hunconfigured : profile.Unconfigured credential) :
    (profile.validateCredentials (before ++ credential :: after) nowS =
        profile.validateCredentials (before ++ after) nowS ↔
      ∃ other ∈ before ++ after, ¬CredentialValid profile nowS other) ∧
    ∀ (fromStage toStage bundleId : String) (bundleVersion : UInt64) (bundleIssuedAtS : Int64)
      (holderProofAtS : Option Int64) (sessionAuthorized : Bool) (readiness : ReadinessEvidence),
      profile.evaluate cr fromStage toStage nowS bundleId bundleVersion bundleIssuedAtS
          (before ++ credential :: after) holderProofAtS sessionAuthorized readiness =
        profile.evaluate cr fromStage toStage nowS bundleId bundleVersion bundleIssuedAtS
          (before ++ after) holderProofAtS sessionAuthorized readiness ↔
      ¬FoundationValid cr profile nowS bundleId bundleVersion bundleIssuedAtS ∨
        ∃ other ∈ before ++ after, ¬CredentialValid profile nowS other := by
  have hrefused : ∃ other ∈ before ++ credential :: after, ¬CredentialValid profile nowS other :=
    ⟨credential, List.mem_append_right _ (.head _), not_credentialValid hunconfigured⟩
  constructor
  · rw [validateCredentials_of_not_valid hrefused]
    constructor
    · intro hsame
      by_contra hvalid
      push Not at hvalid
      rw [validateCredentials_of_valid hvalid] at hsame
      cases hsame
    · intro hother
      rw [validateCredentials_of_not_valid hother]
  · intro fromStage toStage bundleId bundleVersion bundleIssuedAtS holderProofAtS
      sessionAuthorized readiness
    by_cases hfoundation : FoundationValid cr profile nowS bundleId bundleVersion bundleIssuedAtS
    · rw [evaluate_of_not_valid hfoundation hrefused]
      constructor
      · intro hsame
        right
        by_contra hvalid
        push Not at hvalid
        exact evaluate_ne_credentialRequired hvalid hfoundation hsame.symm
      · rintro (hnot | hother)
        · exact absurd hfoundation hnot
        · rw [evaluate_of_not_valid hfoundation hother]
    · refine iff_of_true ?_ (.inl hfoundation)
      cases hresult : profile.validateFoundation cr nowS bundleId bundleVersion bundleIssuedAtS with
      | error e =>
        rw [evaluate_of_not_foundation hresult, evaluate_of_not_foundation hresult]
      | ok u => exact absurd (validateFoundation_eq_ok.mp hresult) hfoundation

/-- A credential of a profile that nobody configured. -/
def unknownCredential : VerifiedCredentialEvidence where
  profileId := "crew-manifest-v1"
  credentialType := "CrewManifestCredential"
  schemaId := "urn:schema:crew-manifest"
  issuerGroup := "registry"
  statusCheckedAtS := Simulation.nowS

theorem unconfigured_unknownCredential :
    Simulation.protocolProfile.Unconfigured unknownCredential := by
  unfold ProtocolProfile.Unconfigured
  decide

/-- Two credentials that nobody configured give the verdict of one. -/
theorem same_verdict_iff_unknown :
    Simulation.protocolProfile.validateCredentials [unknownCredential, unknownCredential]
        Simulation.nowS =
      Simulation.protocolProfile.validateCredentials [unknownCredential] Simulation.nowS :=
  (same_verdict_iff reference Simulation.protocolProfile Simulation.nowS []
    [unknownCredential] unknownCredential unconfigured_unknownCredential).1.mpr
    ⟨unknownCredential, .head _, not_credentialValid unconfigured_unknownCredential⟩

/-- A credential that nobody configured is refused. -/
theorem unknown_changes_verdict :
    ¬∀ (cr : Crates) (profile : ProtocolProfile) (nowS : Int64)
      (before after : List VerifiedCredentialEvidence) (credential : VerifiedCredentialEvidence),
      profile.Unconfigured credential →
      profile.validateCredentials (before ++ credential :: after) nowS =
          profile.validateCredentials (before ++ after) nowS ∧
      ∀ (fromStage toStage bundleId : String) (bundleVersion : UInt64) (bundleIssuedAtS : Int64)
        (holderProofAtS : Option Int64) (sessionAuthorized : Bool) (readiness : ReadinessEvidence),
        profile.evaluate cr fromStage toStage nowS bundleId bundleVersion bundleIssuedAtS
            (before ++ credential :: after) holderProofAtS sessionAuthorized readiness =
          profile.evaluate cr fromStage toStage nowS bundleId bundleVersion bundleIssuedAtS
            (before ++ after) holderProofAtS sessionAuthorized readiness := by
  intro H
  have hsame := (H reference Simulation.protocolProfile Simulation.nowS [] []
    unknownCredential unconfigured_unknownCredential).1
  have hrefused : Simulation.protocolProfile.validateCredentials ([] ++ [unknownCredential])
      Simulation.nowS = .error .credentialRequired :=
    validateCredentials_of_not_valid
      ⟨unknownCredential, .head _, not_credentialValid unconfigured_unknownCredential⟩
  rw [hrefused] at hsame
  cases hsame

end Access
