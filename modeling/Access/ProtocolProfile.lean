import Access.Crates
import Access.Std.Control
import Access.Std.Saturating
import Mathlib.Data.Finmap

/-! # The protocol profile

`protocol_profile.rs`: which transitions a configured profile allows, and how old the facts behind
them may be. -/

namespace Access

structure TrustBundleRequirements where
  bundleId : String
  minimumVersion : UInt64
  maximumAgeS : Int64
  deriving DecidableEq

structure CredentialProfile where
  profileId : String
  credentialType : String
  schemaId : String
  issuerGroups : List String
  maximumStatusAgeS : Option Int64
  deriving DecidableEq

structure ReadinessRule where
  maximumAgeMs : Int64
  deriving DecidableEq

structure StageRuleProfile where
  ruleId : String
  action : String
  fromStage : String
  toStage : String
  holderProofRequired : Bool
  requiredSessionStatus : String
  maximumProofAgeS : Option Int64
  readiness : ReadinessRule
  entitlementTtlS : UInt64
  deriving DecidableEq

/-- A profile. Every value is one that `from_json` reads from some document. -/
structure ProtocolProfile where
  schemaVersion : String
  profileId : String
  profileVersion : UInt64
  validFrom : String
  validUntil : String
  trustBundle : TrustBundleRequirements
  credentialProfiles : List CredentialProfile
  stageRules : List StageRuleProfile
  deriving DecidableEq

/-- A physical reading, an `f64`. The rounding of products is not modelled. -/
inductive Reading where
  | nan
  | negInf
  | posInf
  | finite (q : Rat)
  deriving DecidableEq

/-- `(reading * 1000.0).ceil() as i64`, with the product not rounded. -/
def Reading.ceilMilli : Reading → Int64
  | .nan => 0
  | .negInf => Int64.minValue
  | .posInf => Int64.maxValue
  | .finite q => Int64.ofIntClamp (q * 1000).ceil

structure ReadinessEvidence where
  observedAtMs : Int64
  rangeM : Reading
  closingRateMps : Reading
  checks : Finmap fun _ : String => Bool

structure VerifiedCredentialEvidence where
  profileId : String
  credentialType : String
  schemaId : String
  issuerGroup : String
  statusCheckedAtS : Int64
  deriving DecidableEq

structure ProtocolRuleDecision where
  profileId : String
  profileVersion : UInt64
  ruleId : String
  entitlementTtlS : UInt64
  deriving DecidableEq

inductive ProtocolProfileError where
  | profileExpired
  | trustBundleMismatch
  | noMatchingRule
  | credentialRequired
  | holderProofRequired
  | sessionRequired
  | readinessStale
  | invalidTimestamp
  deriving DecidableEq, Repr

def ProtocolProfileError.display : ProtocolProfileError → String
  | profileExpired => "protocol profile is outside its validity interval"
  | trustBundleMismatch => "configured trust bundle does not satisfy protocol profile"
  | noMatchingRule => "no protocol rule matches this transition"
  | credentialRequired => "required credential profile is missing or invalid"
  | holderProofRequired => "fresh holder proof is required"
  | sessionRequired => "authorized session is required"
  | readinessStale => "readiness evidence is stale"
  | invalidTimestamp => "protocol profile timestamp is invalid"

section

variable (cr : Crates)

def parseTimestamp (value : String) : Except ProtocolProfileError Int64 :=
  Except.okOr (cr.parseFromRfc3339 value) .invalidTimestamp

/-- The age of readiness evidence in milliseconds. -/
def ReadinessEvidence.ageMs (readiness : ReadinessEvidence) (nowS : Int64) : Int64 :=
  (nowS.saturatingMul 1000).saturatingSub readiness.observedAtMs

namespace ProtocolProfile

def validateFoundation (profile : ProtocolProfile) (nowS : Int64) (trustBundleId : String)
    (trustBundleVersion : UInt64) (trustBundleIssuedAtS : Int64) :
    Except ProtocolProfileError Unit := do
  let validFrom ← parseTimestamp cr profile.validFrom
  let validUntil ← parseTimestamp cr profile.validUntil
  Except.failIf (nowS < validFrom ∨ nowS > validUntil) .profileExpired
  Except.failIf (profile.trustBundle.bundleId ≠ trustBundleId ∨
    trustBundleVersion < profile.trustBundle.minimumVersion ∨
    nowS.saturatingSub trustBundleIssuedAtS > profile.trustBundle.maximumAgeS)
    .trustBundleMismatch

/-- One round of the loop of `validate_credentials`. -/
def validateCredential (profile : ProtocolProfile) (nowS : Int64)
    (credential : VerifiedCredentialEvidence) : Except ProtocolProfileError Unit := do
  let expected ← Except.okOr
    (profile.credentialProfiles.find? (·.profileId = credential.profileId)) .credentialRequired
  Except.failIf (credential.credentialType ≠ expected.credentialType ∨
    credential.schemaId ≠ expected.schemaId ∨
    credential.issuerGroup ∉ expected.issuerGroups ∨
    expected.maximumStatusAgeS.any
      (fun maximumAge => nowS.saturatingSub credential.statusCheckedAtS > maximumAge))
    .credentialRequired

def validateCredentials (profile : ProtocolProfile)
    (credentials : List VerifiedCredentialEvidence) (nowS : Int64) :
    Except ProtocolProfileError Unit :=
  credentials.forM (profile.validateCredential nowS)

/-- The stage rule of a transition: the first one with these stages. -/
def findRule (profile : ProtocolProfile) (fromStage toStage : String) :
    Option StageRuleProfile :=
  profile.stageRules.find? fun rule => rule.fromStage = fromStage ∧ rule.toStage = toStage

def evaluate (profile : ProtocolProfile) (fromStage toStage : String) (nowS : Int64)
    (trustBundleId : String) (trustBundleVersion : UInt64) (trustBundleIssuedAtS : Int64)
    (credentials : List VerifiedCredentialEvidence) (holderProofAtS : Option Int64)
    (sessionAuthorized : Bool) (readiness : ReadinessEvidence) :
    Except ProtocolProfileError ProtocolRuleDecision := do
  profile.validateFoundation cr nowS trustBundleId trustBundleVersion trustBundleIssuedAtS
  profile.validateCredentials credentials nowS
  let rule ← Except.okOr (profile.findRule fromStage toStage) .noMatchingRule
  Except.failIf (rule.holderProofRequired ∧ holderProofAtS.all
    (fun proofAt => nowS.saturatingSub proofAt > rule.maximumProofAgeS.getD 0))
    .holderProofRequired
  Except.failIf (rule.requiredSessionStatus = "authorized" ∧ sessionAuthorized = false)
    .sessionRequired
  Except.failIf (readiness.ageMs nowS > rule.readiness.maximumAgeMs) .readinessStale
  pure { profileId := profile.profileId, profileVersion := profile.profileVersion,
         ruleId := rule.ruleId, entitlementTtlS := rule.entitlementTtlS }

end ProtocolProfile

end

end Access
