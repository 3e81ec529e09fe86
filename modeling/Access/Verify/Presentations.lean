import Access.Verify.EntitlementVerifier
import Access.Verify.Envelopes

/-! # Commands that fail

`verify_command` consumes the nonce of an entitlement when it has verified the envelope, and checks
the grant after that. A command that fails leaves the journal as it was unless an entitlement was
presented. -/

namespace Access

namespace EntitlementVerifier

open EStateM

/-- The input is a command that presents an envelope which is right for the bundle at the time. -/
structure Presented (cr : Crates) (parse : String → Except String VerifyCommand)
    (unixTime : Int64) (input : String) (bundle : ClientTrustBundle) (trust : TrustStore)
    (command : VerifyCommand) (v : VerifiedEnvelope) : Prop where
  parsed : parse input = .ok command
  name : command.command = "verify_entitlement"
  verified : ∃ entitlementHex encoded, command.entitlementHex = some entitlementHex ∧
    Hex.decode entitlementHex.asBytes = .ok encoded ∧
    EnvelopeVerified cr encoded trust bundle.clientId (command.nowS.getD unixTime) maxClockSkewS v

section

variable {cr : Crates} {parse : String → Except String VerifyCommand} {unixTime : Int64}
  {input : String} {bundle : ClientTrustBundle} {trust : TrustStore} {command : VerifyCommand}
  {v : VerifiedEnvelope}

theorem Presented.unique (H : Presented cr parse unixTime input bundle trust command v)
    {command' : VerifyCommand} {v' : VerifiedEnvelope}
    (H' : Presented cr parse unixTime input bundle trust command' v') :
    command' = command ∧ v' = v := by
  cases H.parsed.symm.trans H'.parsed
  obtain ⟨_, _, hhex, hdecode, hv⟩ := H.verified
  obtain ⟨_, _, hhex', hdecode', hv'⟩ := H'.verified
  cases hhex.symm.trans hhex'
  cases hdecode.symm.trans hdecode'
  exact ⟨rfl, Except.ok.inj ((checkEnvelope_eq_ok.mpr hv').symm.trans (checkEnvelope_eq_ok.mpr hv))⟩

variable [ReplayStateBackend B] {cache cache' : ReplayCache B}

/-- A command that fails leaves what the consumption of a presented nonce leaves. -/
theorem verifyCommand_error {e : DynError}
    (h : verifyCommand cr parse unixTime input bundle trust cache = .error e cache') :
    (cache' = cache ∧ ∀ command v, ¬Presented cr parse unixTime input bundle trust command v) ∨
      ∃ command v, Presented cr parse unixTime input bundle trust command v ∧
        (ReplayCache.consume v.claims.nonce cache).state = cache' := by
  simp only [verifyCommand, bind_eq_error, ofExcept_eq_error, ofExcept_eq_ok, failIf_eq_error,
    failIf_eq_ok, okOr_eq_error, okOr_eq_ok, Part.run_eq_error, Part.run_eq_ok,
    verifyEnvelope_eq_ok, and_assoc, exists_and_left, exists_eq_left, exists_const, not_not] at h
  obtain ⟨_, hparse, -, rfl⟩ | ⟨command, hparse, ⟨hdescribe, -, rfl⟩ | ⟨-, ⟨hname, -, rfl⟩ |
    ⟨hname, ⟨hhex, -, rfl⟩ | ⟨entitlementHex, hhex, ⟨_, hdecode, -, rfl⟩ |
      ⟨encoded, hdecode, henvelope | hgrant⟩⟩⟩⟩⟩ := h
  · refine .inl ⟨rfl, ?_⟩
    intro command v H
    cases hparse.symm.trans H.parsed
  · refine .inl ⟨rfl, ?_⟩
    intro command' v H
    cases hparse.symm.trans H.parsed
    exact absurd (hdescribe.symm.trans H.name) (by decide)
  · refine .inl ⟨rfl, ?_⟩
    intro command' v H
    cases hparse.symm.trans H.parsed
    exact hname H.name
  · refine .inl ⟨rfl, ?_⟩
    intro command' v H
    cases hparse.symm.trans H.parsed
    obtain ⟨_, _, hhex', -⟩ := H.verified
    cases hhex.symm.trans hhex'
  · refine .inl ⟨rfl, ?_⟩
    intro command' v H
    cases hparse.symm.trans H.parsed
    obtain ⟨_, _, hhex', hdecode', -⟩ := H.verified
    cases hhex.symm.trans hhex'
    cases hdecode.symm.trans hdecode'
  · obtain ⟨_, _, henvelope, -, rfl⟩ := henvelope
    rcases verifyEnvelope_error_cases henvelope with ⟨rfl, hnot⟩ | ⟨v, hv, hconsume⟩
    · refine .inl ⟨rfl, ?_⟩
      intro command' v H
      cases hparse.symm.trans H.parsed
      obtain ⟨_, _, hhex', hdecode', hv⟩ := H.verified
      cases hhex.symm.trans hhex'
      cases hdecode.symm.trans hdecode'
      exact hnot v hv
    · exact .inr ⟨command, v, ⟨hparse, hname, entitlementHex, encoded, hhex, hdecode, hv⟩,
        congrArg Result.state hconsume⟩
  · obtain ⟨v, hv, _, ⟨_, hconsume, rfl⟩, _, -, -, rfl⟩ := hgrant
    exact .inr ⟨command, v, ⟨hparse, hname, entitlementHex, encoded, hhex, hdecode, hv⟩,
      congrArg Result.state hconsume⟩

/-- The rest of `verify_command` accepts what was presented. -/
def Passes (command : VerifyCommand) (bundle : ClientTrustBundle) (unixTime : Int64)
    (v : VerifiedEnvelope) (cache : ReplayCache B) : Prop :=
  cache.Commits v.claims.nonce ∧
    ∃ out, checkGrant command bundle (command.nowS.getD unixTime) v = .ok out

/-- What is presented for the first time and passes the other checks is accepted. -/
theorem Presented.accepted (H : Presented cr parse unixTime input bundle trust command v)
    (hunused : v.claims.nonce ∉ cache.consumed) (hpasses : Passes command bundle unixTime v cache) :
    ∃ out cache', verifyCommand cr parse unixTime input bundle trust cache = .ok out cache' := by
  obtain ⟨hcommits, out, hchecked⟩ := hpasses
  obtain ⟨cache', hconsume⟩ := ReplayCache.exists_consume.mpr ⟨hunused, hcommits⟩
  obtain ⟨entitlementHex, encoded, hhex, hdecode, hv⟩ := H.verified
  exact ⟨out, cache', verifyCommand_eq_ok.mpr ⟨command, entitlementHex, encoded, v, H.parsed, H.name,
    hhex, hdecode, hv, hchecked, hconsume⟩⟩

/-- What is accepted was presented and passes. -/
theorem Presented.passes_of_accepted (H : Presented cr parse unixTime input bundle trust command v)
    {out : VerifiedEntitlement}
    (h : verifyCommand cr parse unixTime input bundle trust cache = .ok out cache') :
    Passes command bundle unixTime v cache := by
  obtain ⟨command', entitlementHex, encoded, v', hparse, hname, hhex, hdecode, hv, hchecked,
    hconsume⟩ := verifyCommand_eq_ok.mp h
  obtain ⟨rfl, rfl⟩ := H.unique ⟨hparse, hname, entitlementHex, encoded, hhex, hdecode, hv⟩
  exact ⟨(ReplayCache.exists_consume.mp ⟨_, hconsume⟩).2, out, hchecked⟩

end

/-- A command leaves the replay cache as it was whenever it fails, if and only if what it presents
passes the checks after the envelope and can be committed, or consuming its nonce changes nothing. -/
theorem failed_command_unchanged_iff [ReplayStateBackend B] (cr : Crates)
    (parse : String → Except String VerifyCommand) (unixTime : Int64) (input : String)
    (bundle : ClientTrustBundle) (trust : TrustStore) (cache : ReplayCache B) :
    (∀ e cache', verifyCommand cr parse unixTime input bundle trust cache = .error e cache' →
      cache' = cache) ↔
    ∀ command v, Presented cr parse unixTime input bundle trust command v →
      Passes command bundle unixTime v cache ∨ cache.Inert v.claims.nonce := by
  constructor
  · intro hunchanged command v hpresented
    cases hresult : verifyCommand cr parse unixTime input bundle trust cache with
    | ok out cache' => exact .inl (hpresented.passes_of_accepted hresult)
    | error e cache' =>
      rcases verifyCommand_error hresult with ⟨-, hnot⟩ | ⟨command', v', hpresented', hstate⟩
      · exact absurd hpresented (hnot command v)
      · obtain ⟨rfl, rfl⟩ := hpresented.unique hpresented'
        rw [hunchanged e cache' hresult] at hstate
        exact .inr (ReplayCache.state_consume_eq_iff.mp hstate)
  · intro hcondition e cache' hresult
    rcases verifyCommand_error hresult with ⟨hsame, -⟩ | ⟨command, v, hpresented, hstate⟩
    · exact hsame
    rcases hcondition command v hpresented with hpasses | hinert
    · by_cases hused : v.claims.nonce ∈ cache.consumed
      · rw [ReplayCache.consume_of_mem hused] at hstate
        exact hstate.symm
      · obtain ⟨out, cache'', haccepted⟩ := hpresented.accepted hused hpasses
        cases hresult.symm.trans haccepted
    · exact hstate.symm.trans (ReplayCache.state_consume_eq_iff.mpr hinert)

end EntitlementVerifier

/-! ## A grant that overtakes its session -/

namespace Simulation

open EntitlementVerifier EStateM

/-- The command of a client that has not heard of its session yet. -/
def verifyEarly (entitlement : Bytes) : VerifyCommand :=
  { verifyApproach entitlement with expectedSessionId := none }

/-- The nonce of an entitlement is consumed by a command that is refused. -/
theorem exists_refused : ∃ e cache',
    verifyCommand reference (fun _ => .ok (verifyEarly (entitlement station))) nowS ""
        (clientBundle [stationAuthority])
        (Finmap.singleton station.keyId station.verifyingKey)
        ({} : ReplayCache FileReplayStateBackend) = .error e cache' ∧
      cache' ≠ {} := by
  obtain ⟨out, cache₁, haccepted⟩ := exists_of_checks
    (ReplayCache.exists_consume_empty (B := FileReplayStateBackend)) entitlement_checks.1
  obtain ⟨command, entitlementHex, encoded, v, hparse, hname, hhex, hdecode, hv, -, hconsume⟩ :=
    verifyCommand_eq_ok.mp haccepted
  cases hparse
  have hpresented : Presented reference (fun _ => .ok (verifyEarly (entitlement station))) nowS ""
      (clientBundle [stationAuthority]) (Finmap.singleton station.keyId station.verifyingKey)
      (verifyEarly (entitlement station)) v :=
    ⟨rfl, rfl, entitlementHex, encoded, hhex, hdecode, hv⟩
  cases hresult : verifyCommand reference (fun _ => .ok (verifyEarly (entitlement station))) nowS ""
      (clientBundle [stationAuthority]) (Finmap.singleton station.keyId station.verifyingKey)
      ({} : ReplayCache FileReplayStateBackend) with
  | ok out' cache' =>
    obtain ⟨-, _, hchecked⟩ := hpresented.passes_of_accepted hresult
    cases (checkGrant_eq_ok.mp hchecked).expectedSessionId
  | error e cache' =>
    refine ⟨e, cache', rfl, ?_⟩
    rcases verifyCommand_error hresult with ⟨-, hnot⟩ | ⟨_, _, hpresented', hstate⟩
    · exact absurd hpresented (hnot _ _)
    · obtain ⟨rfl, rfl⟩ := hpresented.unique hpresented'
      rw [hconsume] at hstate
      exact hstate ▸ ReplayCache.state_consume_ne hconsume

end Simulation

namespace EntitlementVerifier

open Simulation

/-- A command that was refused has consumed the nonce of what it presented. -/
theorem refused_nonce_consumed :
    ¬∀ (cr : Crates) (parse : String → Except String VerifyCommand) (unixTime : Int64)
      (input : String) (bundle : ClientTrustBundle) (trust : TrustStore)
      (cache cache' : ReplayCache FileReplayStateBackend) (e : DynError),
      verifyCommand cr parse unixTime input bundle trust cache = .error e cache' →
        cache' = cache := by
  intro H
  obtain ⟨e, cache', hrefused, hchanged⟩ := exists_refused
  exact hchanged (H _ _ _ _ _ _ _ _ _ hrefused)

end EntitlementVerifier

end Access
