import Access.Authority
import Access.Std.Python

/-! # The client of the authority

`authority_client.py`, and the JSON that `access_authority.rs` reads and writes. -/

namespace Access

open Python

/-! ## Reading commands -/

namespace Serde

def readText : Json → Option String
  | .str s => some s
  | _ => none

def readBool : Json → Option Bool
  | .bool b => some b
  | _ => none

def readUInt8 : Json → Option UInt8
  | .int n => if 0 ≤ n ∧ n < 256 then some (UInt8.ofNat n.toNat) else none
  | _ => none

def readInt64 : Json → Option Int64
  | .int n =>
    if -9223372036854775808 ≤ n ∧ n < 9223372036854775808 then some (Int64.ofInt n) else none
  | _ => none

def readReading : Json → Option Reading
  | .int n => some (.finite n)
  | .float (.finite q) => some (.finite q)
  | _ => none

/-- An `Option` field. -/
def readOption (read : Json → Option α) : Option Json → Option (Option α)
  | none | some .null => some none
  | some value => (read value).map some

def readChecks : Json → Option (Finmap fun _ : String => Bool)
  | .obj fields =>
    (fields.mapM fun field => (readBool field.2).map (Sigma.mk field.1)).map List.toFinmap
  | _ => none

def readReadiness (value : Json) : Option ReadinessEvidence := do
  let observedAtMs ← (value.field? "observed_at_ms").bind readInt64
  let rangeM ← (value.field? "range_m").bind readReading
  let closingRateMps ← (value.field? "closing_rate_mps").bind readReading
  let checks ← (value.field? "checks").bind readChecks
  pure { observedAtMs, rangeM, closingRateMps, checks }

def ofUInt8 (n : UInt8) : Json := .int n.toNat

def ofUInt64 (n : UInt64) : Json := .int n.toNat

def ofInt64 (n : Int64) : Json := .int n.toInt

end Serde

open Serde

/-- `serde_json::from_str` of a command, as the derived code reads it. -/
def Authority.Command.ofJson (line : Json) : Option Authority.Command := do
  Option.guard (fun _ => line.strict) ()
  match ← (line.field? "command").bind readText with
  | "describe" => pure .describe
  | "establish" => do
    let scenario ← readText ((line.field? "scenario").getD (.str ""))
    let nowS ← readOption readInt64 (line.field? "now_s")
    pure (.establish scenario nowS)
  | "transition" => do
    let requestedState ← (line.field? "requested_state").bind readUInt8
    let nowS ← readOption readInt64 (line.field? "now_s")
    let readiness ← (line.field? "readiness").bind readReadiness
    pure (.transition requestedState nowS readiness)
  | "redeem_entitlement" => do
    let requestedState ← (line.field? "requested_state").bind readUInt8
    let entitlementHex ← (line.field? "entitlement_hex").bind readText
    let nowS ← readOption readInt64 (line.field? "now_s")
    let readiness ← (line.field? "readiness").bind readReadiness
    pure (.redeemEntitlement requestedState entitlementHex nowS readiness)
  | _ => none

/-! ## Writing responses -/

def AccessPolicyMetadata.toJson (metadata : AccessPolicyMetadata) : Json :=
  .obj
    [("bundle_id", .str metadata.bundleId),
     ("bundle_version", ofUInt64 metadata.bundleVersion),
     ("policy_sha256", .str metadata.policySha256)]

def AccessDecision.toJson (decision : AccessDecision) : Json :=
  .obj
    [("gate", .str decision.gate),
     ("decision", .str decision.decision),
     ("diagnostics", .str decision.diagnostics),
     ("policy", decision.policy.toJson)]

def AccessEvent.toJson (event : AccessEvent) : Json :=
  .obj
    [("code", .str event.code),
     ("detail", .str event.detail),
     ("from", .opt .str event.source),
     ("to", .opt .str event.target),
     ("message_type", .opt .str event.messageType)]

def TransitionOutcome.toJson (outcome : TransitionOutcome) : Json :=
  .obj
    [("approved", .bool outcome.approved),
     ("previous_state", ofUInt8 outcome.previousState),
     ("resulting_state", ofUInt8 outcome.resultingState),
     ("reason", .str outcome.reason),
     ("session_id", .opt .str outcome.sessionId),
     ("protocol_profile_id", .opt .str outcome.protocolProfileId),
     ("protocol_profile_version", .opt ofUInt64 outcome.protocolProfileVersion),
     ("rule_id", .opt .str outcome.ruleId),
     ("grant_id", .opt .str outcome.grantId),
     ("entitlement_ttl_s", .opt ofUInt64 outcome.entitlementTtlS),
     ("grant_expires_at_s", .opt ofInt64 outcome.grantExpiresAtS),
     ("signed_grant_hex", .opt .str outcome.signedGrantHex),
     ("authorization_decision", .opt AccessDecision.toJson outcome.authorizationDecision),
     ("events", .arr (outcome.events.map AccessEvent.toJson))]

def SessionOutcome.toJson (outcome : SessionOutcome) : Json :=
  .obj
    [("session_id", .str outcome.sessionId),
     ("protocol_profile_id", .str outcome.protocolProfileId),
     ("protocol_profile_version", ofUInt64 outcome.protocolProfileVersion),
     ("authorization_decision", outcome.authorizationDecision.toJson),
     ("events", .arr (outcome.events.map AccessEvent.toJson))]

def TrustBundleRequirements.toJson (bundle : TrustBundleRequirements) : Json :=
  .obj
    [("bundle_id", .str bundle.bundleId),
     ("minimum_version", ofUInt64 bundle.minimumVersion),
     ("maximum_age_s", ofInt64 bundle.maximumAgeS)]

def CredentialProfile.toJson (profile : CredentialProfile) : Json :=
  .obj
    [("profile_id", .str profile.profileId),
     ("credential_type", .str profile.credentialType),
     ("schema_id", .str profile.schemaId),
     ("issuer_groups", .arr (profile.issuerGroups.map .str)),
     ("maximum_status_age_s", .opt ofInt64 profile.maximumStatusAgeS)]

def StageRuleProfile.toJson (rule : StageRuleProfile) : Json :=
  .obj
    [("rule_id", .str rule.ruleId),
     ("action", .str rule.action),
     ("from_stage", .str rule.fromStage),
     ("to_stage", .str rule.toStage),
     ("holder_proof_required", .bool rule.holderProofRequired),
     ("required_session_status", .str rule.requiredSessionStatus),
     ("maximum_proof_age_s", .opt ofInt64 rule.maximumProofAgeS),
     ("readiness", .obj [("maximum_age_ms", ofInt64 rule.readiness.maximumAgeMs)]),
     ("entitlement_ttl_s", ofUInt64 rule.entitlementTtlS)]

namespace Authority

def Value.toJson : Value → Json
  | .description profile metadata =>
    .obj
      [("schema_version", .str profile.schemaVersion),
       ("profile_id", .str profile.profileId),
       ("profile_version", ofUInt64 profile.profileVersion),
       ("valid_from", .str profile.validFrom),
       ("valid_until", .str profile.validUntil),
       ("trust_bundle", profile.trustBundle.toJson),
       ("credential_profiles", .arr (profile.credentialProfiles.map CredentialProfile.toJson)),
       ("stage_rules", .arr (profile.stageRules.map StageRuleProfile.toJson)),
       ("authorization_policy", metadata.toJson)]
  | .session outcome => outcome.toJson
  | .transition outcome => outcome.toJson

/-- A field that is not there is skipped. -/
def Response.toJson (response : Response) : Json :=
  .obj (("ok", .bool response.ok) ::
    ((response.value.map fun value => ("value", value.toJson)).toList ++
      (response.error.map fun error => ("error", .str error)).toList))

end Authority

/-! ## Requests -/

namespace AuthorityClient

/-- How an exchange with the process can fail: it is seen to have exited, its input is closed, it
does not answer in time, its output ends, or ends in the middle of a line. -/
inductive Loss where
  | exited
  | brokenPipe
  | timedOut
  | closed
  | truncated
  deriving DecidableEq

def Loss.error : Loss → Error
  | exited => { kind := .runtime, text := "ACCESS authority process exited" }
  | brokenPipe => { kind := .os }
  | timedOut => { kind := .runtime, text := "ACCESS authority response timed out" }
  | closed => { kind := .runtime, text := "ACCESS authority closed its response stream" }
  | truncated => { kind := .jsonDecode }

/-- What becomes of a request. One that is lost may have been handled. -/
inductive Fate where
  | answered
  | lost (loss : Loss) (handled : Bool)

/-- The authority as its client sees it: gone after a loss. `handled` has the lines it handled, with
its responses, the latest first. -/
structure Process (B : Type) where
  host : Option (Host B)
  handled : List (Authority.Line × Authority.Response) := []

/-- `json.dumps` of a request, as the authority reads it. -/
def line (payload : Json) (now : Authority.SystemTime) : Authority.Line where
  input := Except.okOr (Authority.Command.ofJson payload) "invalid command"
  now := now

/-- What `request` makes of a response. -/
def readResponse (response : Json) : Except Error Json := do
  let ok ← get response "ok"
  if truthy ok then item response "value"
  else
    match ← get response "error" (.str "ACCESS authority rejected request") with
    | .str text => .error { kind := .runtime, text }
    | _ => .error { kind := .runtime }

variable [ReplayStateBackend B] (cr : Crates)

/-- `AuthorityClient.request`. The process answers, if it does, at a time. -/
def request (fate : Fate) (now : Authority.SystemTime) (payload : Json) :
    EStateM Error (Process B) Json := fun p =>
  match p.host with
  | none =>
    match fate with
    | .answered => .error Loss.exited.error p
    | .lost loss _ => .error loss.error p
  | some host =>
    let line := line payload now
    let (response, host) := Authority.step cr host line
    match fate with
    | .answered => EStateM.ofExcept id (readResponse response.toJson)
        { host := some host, handled := (line, response) :: p.handled }
    | .lost loss true => .error loss.error { host := none, handled := (line, response) :: p.handled }
    | .lost loss false => .error loss.error { p with host := none }

/-- What becomes of a request, and the time at which it is handled. -/
structure Link where
  fate : Fate
  now : Authority.SystemTime

def client (link : Link) : Json → EStateM Error (Process B) Json := request cr link.fate link.now

end AuthorityClient

end Access
