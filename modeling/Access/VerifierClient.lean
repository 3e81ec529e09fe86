import Access.AuthorityClient
import Access.ChaserAccess
import Access.EntitlementVerifier

/-! # The verifier of the chaser

The JSON that `access_entitlement_verifier.rs` reads and writes, and its process at the end of the
chaser's `authority_client.py`. -/

namespace Access

open Python Serde

namespace EntitlementVerifier

/-- `serde_json::from_str` of a command that is an object. -/
def VerifyCommand.ofJson (line : Json) : Option VerifyCommand := do
  Option.guard (fun _ => line.strict) ()
  let command ← (line.field? "command").bind readText
  let entitlementHex ← readOption readText (line.field? "entitlement_hex")
  let expectedAuthority ← readOption readText (line.field? "expected_authority")
  let expectedSessionId ← readOption readText (line.field? "expected_session_id")
  let expectedStage ← readOption readText (line.field? "expected_stage")
  let nowS ← readOption readInt64 (line.field? "now_s")
  pure { command, entitlementHex, expectedAuthority, expectedSessionId, expectedStage, nowS }

def VerifiedEntitlement.toJson (out : VerifiedEntitlement) : Json :=
  .obj
    [("verified", .bool out.verified),
     ("trust_bundle_id", .str out.trustBundleId),
     ("trust_bundle_version", ofUInt64 out.trustBundleVersion),
     ("authority_id", .str out.authorityId),
     ("client_id", .str out.clientId),
     ("grant_id", .str out.grantId),
     ("session_id", .str out.sessionId),
     ("authorized_stage", .str out.authorizedStage),
     ("expires_at_s", ofInt64 out.expiresAtS),
     ("protocol_profile_id", .str out.protocolProfileId),
     ("protocol_profile_version", ofUInt64 out.protocolProfileVersion),
     ("rule_id", .str out.ruleId),
     ("authorization_policy_bundle_id", .str out.authorizationPolicyBundleId),
     ("authorization_policy_bundle_version", ofUInt64 out.authorizationPolicyBundleVersion),
     ("authorization_policy_sha256", .str out.authorizationPolicySha256)]

/-- The text of an error. -/
def DynError.display : DynError → String
  | text message | json message => message
  | hex error => error.display
  | protocol error => error.display
  -- Only a start has these, which nobody reads.
  | timestamp | signature => ""

/-- A field that is not there is skipped. -/
def response : Except DynError VerifiedEntitlement → Json
  | .ok value => .obj [("ok", .bool true), ("value", value.toJson)]
  | .error error => .obj [("ok", .bool false), ("error", .str error.display)]

end EntitlementVerifier

namespace VerifierClient

open AuthorityClient (Fate Loss readResponse)
open EntitlementVerifier

/-- A line that was handled, at a time. -/
structure Handled where
  payload : Json
  unixTime : Int64
  result : Except DynError VerifiedEntitlement

/-- The verifier as its client sees it, with the bundle and the keys that it was started with: gone
after a loss. `handled` has the latest line first. -/
structure Process (B : Type) where
  bundle : ClientTrustBundle
  trust : TrustStore
  replay : Option (ReplayCache B)
  handled : List Handled := []

variable [ReplayStateBackend B] (cr : Crates)

/-- `verify_command` of `json.dumps` of a request. -/
def verifyPayload (unixTime : Int64) (payload : Json) (bundle : ClientTrustBundle)
    (trust : TrustStore) : EStateM DynError (ReplayCache B) VerifiedEntitlement :=
  verifyCommand cr (fun _ => Except.okOr (VerifyCommand.ofJson payload) "invalid command") unixTime
    "" bundle trust

/-- What a run leaves, as a result. -/
def resultOf : EStateM.Result ε σ α → Except ε α × σ
  | .ok a s => (.ok a, s)
  | .error e s => (.error e, s)

/-- `AuthorityClient.request`. -/
def request (fate : Fate) (unixTime : Int64) (payload : Json) : EStateM Error (Process B) Json :=
  fun p =>
    match p.replay with
    | none =>
      match fate with
      | .answered => .error Loss.exited.error p
      | .lost loss _ => .error loss.error p
    | some replay =>
      let (result, replay) := resultOf (verifyPayload cr unixTime payload p.bundle p.trust replay)
      let handled := { payload, unixTime, result } :: p.handled
      match fate with
      | .answered => EStateM.ofExcept id (readResponse (response result))
          { p with replay := some replay, handled }
      | .lost loss true => .error loss.error { p with replay := none, handled }
      | .lost loss false => .error loss.error { p with replay := none }

/-- What becomes of a request, and the time at which it is handled. -/
structure VerifierLink where
  fate : Fate
  unixTime : Int64

def client (link : VerifierLink) : Json → EStateM Error (Process B) Json :=
  request cr link.fate link.unixTime

abbrev ChaserEvent (B : Type) :=
  Run.Event (ChaserAccess.Chaser (Process B)) (ChaserAccess.ChaserCall VerifierLink) (List Json)

/-- The node after its constructor, with a verifier that was started. -/
def startChaser (bundle : ClientTrustBundle) (trust : TrustStore) (replay : ReplayCache B) :
    ChaserAccess.Chaser (Process B) where
  node := some {}
  verifier := { bundle, trust, replay := some replay }

end VerifierClient

end Access
