import Access.Verify.Issuing
import Access.Verify.Presentations
import Access.Verify.ReplayCache

/-! # Runs of the verifier

A verifier accepts an entitlement once, over all its restarts: what it does to its journal is what a
replay cache does, so the guarantee of the cache is its guarantee (`Journaled`). -/

namespace Access.EntitlementVerifier

open EStateM

abbrev VerifierEvent (B : Type) := Run.Event (Verifier B) VerifierCall VerifierReply

/-- A line of input submits an envelope for verification at a time. -/
structure Submits (parse : String → Except String VerifyCommand) (e : VerifierEvent B)
    (command : VerifyCommand) (encoded : Bytes) (nowS : Int64) : Prop where
  exists_input : ∃ input unixTime entitlementHex, e.call = .verify input unixTime ∧
    parse input = .ok command ∧ command.entitlementHex = some entitlementHex ∧
    Hex.decode entitlementHex.asBytes = .ok encoded ∧ nowS = command.nowS.getD unixTime

/-- The journal of a verifier, with the cache it keeps while it runs. -/
def Verifier.journal : Verifier B → Process B
  | running _ _ replay => .running replay
  | down storage => .down storage

/-- The journal of a verifier went through a run of a replay cache, in which the nonces of what the
verifier accepted were accepted. -/
structure Journaled [ReplayStateBackend B] (cr : Crates)
    (parse : String → Except String VerifyCommand) (first : B) (es : List (VerifierEvent B))
    (v : Verifier B) : Prop where
  exists_run : ∃ ces, Guarded first ces v.journal ∧ ∀ e ∈ es, ∀ out,
    e.reply = .verified (.ok out) → ∀ command encoded nowS claims,
    Submits parse e command encoded nowS → ReadAs cr encoded claims →
      claims.nonce ∈ ces.filterMap acceptedId

variable [ReplayStateBackend B] {cr : Crates} {parse : String → Except String VerifyCommand}

/-! ## Steps -/

theorem step_consume (cache : ReplayCache B) (nonce : Bytes) :
    (Process.step (.running cache) (.consume nonce)).2 =
      .running (ReplayCache.consume nonce cache).state := by
  simp only [Process.step]
  cases ReplayCache.consume nonce cache <;> rfl

/-- A start leaves the journal as it was, or starts a cache over it. -/
theorem boot_journal (file : Except String ClientTrustBundle) (nowS : Int64)
    (directory : Except String Unit) (storage : B) :
    (boot cr file nowS directory storage).2.journal = .down storage ∨
      (boot cr file nowS directory storage).2.journal = (Process.start storage).2 := by
  unfold boot
  split
  · exact .inl rfl
  · split
    · exact .inl rfl
    · refine .inr ?_
      rw [Process.start, show ReplayCache.persistent (.ok storage) = ReplayCache.withBackend storage
        from rfl]
      cases ReplayCache.withBackend storage <;> rfl

theorem step_restart {v : Verifier B} {storage : B} (h : v.journal.storage? = some storage)
    {file : Except String ClientTrustBundle} {nowS : Int64} {directory : Except String Unit} :
    Verifier.step cr parse v (.restart file nowS directory) =
      (.started (boot cr file nowS directory storage).1, (boot cr file nowS directory storage).2) := by
  cases v with
  | down storage' =>
    cases h
    rfl
  | running bundle trust replay =>
    obtain ⟨consumed, backend⟩ := replay
    cases (h : backend = some storage)
    rfl

theorem step_verify_ok {bundle : ClientTrustBundle} {trust : TrustStore}
    {replay replay' : ReplayCache B} {input : String} {unixTime : Int64} {out : VerifiedEntitlement}
    (h : verifyCommand cr parse unixTime input bundle trust replay = .ok out replay') :
    Verifier.step cr parse (.running bundle trust replay) (.verify input unixTime) =
      (.verified (.ok out), .running bundle trust replay') := by
  simp only [Verifier.step, h]

/-- What a step accepts. -/
theorem step_verified {v v' : Verifier B} {input : String} {unixTime : Int64}
    {out : VerifiedEntitlement}
    (h : Verifier.step cr parse v (.verify input unixTime) = (.verified (.ok out), v')) :
    ∃ bundle trust replay replay', v = .running bundle trust replay ∧
      verifyCommand cr parse unixTime input bundle trust replay = .ok out replay' ∧
      v' = .running bundle trust replay' := by
  cases v with
  | down storage => cases h
  | running bundle trust replay =>
    simp only [Verifier.step] at h
    split at h <;> cases h
    exact ⟨bundle, trust, replay, _, rfl, ‹_›, rfl⟩

namespace Journaled

variable {first : B} {es : List (VerifierEvent B)} {v : Verifier B}

/-- A step that accepts nothing, over a cache that forgets nothing. -/
theorem quiet (H : Journaled cr parse first es v) {e : VerifierEvent B}
    (he : ∀ out, e.reply ≠ .verified (.ok out)) {v' : Verifier B}
    (h : ∀ ces, Guarded first ces v.journal → ∃ ces', Guarded first ces' v'.journal ∧
      ces.filterMap acceptedId ⊆ ces'.filterMap acceptedId) :
    Journaled cr parse first (e :: es) v' := by
  obtain ⟨ces, hguarded, haccepted⟩ := H.exists_run
  obtain ⟨ces', hguarded', hsub⟩ := h ces hguarded
  refine ⟨ces', hguarded', fun e' he' out hout command encoded nowS claims hsubmits hread => ?_⟩
  rcases List.mem_cons.mp he' with rfl | he'
  · exact absurd hout (he out)
  · exact hsub (haccepted e' he' out hout command encoded nowS claims hsubmits hread)

omit [ReplayStateBackend B] in
theorem subset_cons (e : CacheEvent B) (ces : List (CacheEvent B)) :
    ces.filterMap acceptedId ⊆ (e :: ces).filterMap acceptedId :=
  ((List.sublist_cons_self e ces).filterMap acceptedId).subset

/-- A verification that accepts consumes the nonce of its envelope. -/
theorem accept (H : Journaled cr parse first es v)
    (hfirst : Storage.Honours (storageOps B) first) {input : String} {unixTime : Int64}
    {out : VerifiedEntitlement} {v' : Verifier B}
    (h : Verifier.step cr parse v (.verify input unixTime) = (.verified (.ok out), v')) :
    Journaled cr parse first (⟨v, .verify input unixTime, .verified (.ok out), v'⟩ :: es) v' := by
  obtain ⟨bundle, trust, replay, replay', rfl, hok, rfl⟩ := step_verified h
  obtain ⟨command, hex, encoded, verified, hparse, -, hhex, hdecode, henvelope, -, hconsume⟩ :=
    verifyCommand_eq_ok.mp hok
  obtain ⟨ces, hguarded, haccepted⟩ := H.exists_run
  have hstep : Process.step (.running replay) (.consume verified.claims.nonce) =
      (some (.ok ()), .running replay') := by
    simp only [Process.step, hconsume]
  have hguarded' := hguarded.step hfirst (.consume verified.claims.nonce)
  simp only [Run.event, Verifier.journal, hstep] at hguarded'
  refine ⟨_, hguarded', fun e he out' hout command' encoded' nowS claims hsubmits hread => ?_⟩
  rcases List.mem_cons.mp he with rfl | he
  · obtain ⟨_, _, hex', hcall, hparse', hhex', hdecode', -⟩ := hsubmits.exists_input
    cases hcall
    cases hparse.symm.trans hparse'
    cases hhex.symm.trans hhex'
    cases hdecode.symm.trans hdecode'
    cases hread.eq henvelope.readAs
    exact .head _
  · exact subset_cons _ _ (haccepted e he out' hout command' encoded' nowS claims hsubmits hread)

theorem step (H : Journaled cr parse first es v) (hfirst : Storage.Honours (storageOps B) first)
    (c : VerifierCall) :
    Journaled cr parse first (Run.event (Verifier.step cr parse) v c :: es)
      (Verifier.step cr parse v c).2 := by
  cases c with
  | verify input unixTime =>
    cases v with
    | down storage =>
      exact H.quiet (fun _ h => by cases h) fun ces hces => ⟨ces, hces, List.Subset.refl _⟩
    | running bundle trust replay =>
      cases h : verifyCommand cr parse unixTime input bundle trust replay with
      | ok out replay' =>
        rw [Run.event, step_verify_ok h]
        exact H.accept hfirst (step_verify_ok h)
      | error e replay' =>
        have hstep : Verifier.step cr parse (.running bundle trust replay) (.verify input unixTime) =
            (.verified (.error e), .running bundle trust replay') := by
          simp only [Verifier.step, h]
        rw [Run.event, hstep]
        refine H.quiet (fun _ h => by cases h) fun ces hces => ?_
        rcases verifyCommand_error h with ⟨rfl, -⟩ | ⟨_, v, -, rfl⟩
        · exact ⟨ces, hces, List.Subset.refl _⟩
        · have hnext := hces.step hfirst (.consume v.claims.nonce)
          simp only [Verifier.journal, step_consume] at hnext
          exact ⟨_, hnext, subset_cons _ _⟩
  | restart file nowS directory =>
    obtain ⟨_, hguarded, -⟩ := H.exists_run
    obtain ⟨storage, hstorage, -⟩ := hguarded.storage
    rw [Run.event, step_restart hstorage]
    refine H.quiet (fun _ h => by cases h) fun ces hces => ?_
    rcases boot_journal file nowS directory storage with hdown | hstart
    · rw [hdown]
      exact ⟨ces, hces.stop hstorage, List.Subset.refl _⟩
    · rw [hstart]
      exact ⟨_, hces.start (e := Run.event Process.step v.journal .restart) rfl hstorage,
        subset_cons _ _⟩

theorem nil (first : B) : Journaled cr parse first [] (.down first) :=
  ⟨[], Guarded.nil first, fun _ h => absurd h List.not_mem_nil⟩

end Journaled

/-- In every run of a verifier over a journal that honours its contract. -/
theorem journaled (cr : Crates) (parse : String → Except String VerifyCommand) {first : B}
    (hfirst : Storage.Honours (storageOps B) first) (calls : List VerifierCall) :
    Journaled cr parse first (Run.history (Verifier.step cr parse) (.down first) calls)
      (Run.state (Verifier.step cr parse) (.down first) calls) :=
  Run.invariant _ _ (.nil first) (fun _ _ c H => H.step hfirst c) calls

/-! ## What is accepted -/

/-- What was checked of an entitlement that is accepted. -/
structure Entitled (cr : Crates) (bundle : ClientTrustBundle) (trust : TrustStore)
    (command : VerifyCommand) (encoded : Bytes) (nowS : Int64) (v : VerifiedEnvelope)
    (out : VerifiedEntitlement) : Prop where
  envelope : EnvelopeVerified cr encoded trust bundle.clientId nowS maxClockSkewS v
  grant : GrantChecked command bundle nowS v out
  recipient : v.claims.recipient = bundle.clientId
  fresh : (nowS.toInt - v.claims.issuedAtS.toInt).natAbs ≤ 30

/-- In every run of a verifier over a journal that honours its contract: what it accepts has passed
every check, and no envelope with its nonce was accepted before, in any of the verifier's lives. -/
theorem entitlement_accepted_once (cr : Crates) (parse : String → Except String VerifyCommand)
    (first : B) (hfirst : Storage.Honours (storageOps B) first) (calls : List VerifierCall)
    (later earlier : List (VerifierEvent B)) (e : VerifierEvent B)
    (h : Run.history (Verifier.step cr parse) (.down first) calls = later ++ e :: earlier)
    (out : VerifiedEntitlement) (hout : e.reply = .verified (.ok out)) :
    ∃ bundle trust replay command encoded nowS v, e.before = .running bundle trust replay ∧
      Submits parse e command encoded nowS ∧ Entitled cr bundle trust command encoded nowS v out ∧
      ∀ e' ∈ earlier, ∀ out' command' encoded' nowS' claims', e'.reply = .verified (.ok out') →
        Submits parse e' command' encoded' nowS' → ReadAs cr encoded' claims' →
          claims'.nonce ≠ v.claims.nonce := by
  obtain ⟨previous, c, rfl, rfl⟩ := Run.history_split h
  obtain ⟨ces, hguarded, haccepted⟩ := (journaled cr parse hfirst previous).exists_run
  revert hguarded hout
  generalize Run.state (Verifier.step cr parse) (.down first) previous = s
  intro hout hguarded
  cases c with
  | restart file nowS directory =>
    cases s with
    | down storage => cases hout
    | running bundle trust replay =>
      obtain ⟨consumed, _ | storage⟩ := replay <;> cases hout
  | verify input unixTime =>
    obtain ⟨bundle, trust, replay, replay', rfl, hok, -⟩ := step_verified (Prod.ext hout rfl)
    obtain ⟨command, hex, encoded, v, hparse, -, hhex, hdecode, henvelope, hcheck, hconsume⟩ :=
      verifyCommand_eq_ok.mp hok
    have hfresh := UInt64.le_iff_toNat_le.mp henvelope.fresh
    rw [Int64.toNat_absDiff, Int64.toNat_unsignedAbs] at hfresh
    refine ⟨bundle, trust, replay, command, encoded, _, v, rfl,
      ⟨input, unixTime, hex, rfl, hparse, hhex, hdecode, rfl⟩,
      ⟨henvelope, checkGrant_eq_ok.mp hcheck, henvelope.recipient_eq, hfresh⟩, ?_⟩
    intro e' he' out' command' encoded' nowS' claims' hout' hsubmits hread heq
    have hmem := haccepted e' he' out' hout' command' encoded' nowS' claims' hsubmits hread
    rw [heq] at hmem
    exact (ReplayCache.consume_eq_ok.mp hconsume).1 (hguarded.memory replay rfl _ hmem)

end Access.EntitlementVerifier

/-! ## A run of the simulation -/

namespace Access.Simulation

open EntitlementVerifier

/-- An empty journal on a file system without faults. -/
def emptyJournal : FileReplayStateBackend := ⟨none, fun _ => .none, 0⟩

/-- The same after it has been loaded. -/
def loadedJournal : FileReplayStateBackend := { emptyJournal with calls := 1 }

/-- The verifier of the simulation over a journal. -/
def verifier (storage : FileReplayStateBackend) : Verifier FileReplayStateBackend :=
  .running (clientBundle [stationAuthority])
    (Finmap.singleton station.keyId station.verifyingKey) { backend := some storage }

/-- The start of the verifier of the simulation. -/
def restartAt (nowS : Int64) : VerifierCall :=
  .restart (.ok (clientBundle [stationAuthority])) nowS (.ok ())

/-- The command to verify an entitlement of the station, whatever the input. -/
def parseApproach (_ : String) : Except String VerifyCommand :=
  .ok (verifyApproach (entitlement station))

theorem state_restarted (parse : String → Except String VerifyCommand) :
    Run.state (Verifier.step reference parse) (.down emptyJournal) [restartAt nowS] =
      verifier loadedJournal := by
  simp only [Run.state, restartAt, Verifier.step, boot, Except.mapError]
  rfl

theorem exists_consume_file (nonce : Bytes) : ∃ cache', ReplayCache.consume nonce
    ({ backend := some loadedJournal } : ReplayCache FileReplayStateBackend) =
      .ok () cache' :=
  ⟨_, ReplayCache.consume_eq_ok.mpr ⟨Finset.notMem_empty _, _, rfl, rfl⟩⟩

end Access.Simulation

namespace Access.EntitlementVerifier

open Simulation

/-- An entitlement of the station, accepted by a verifier that was started before. -/
theorem entitlement_accepted_once_station :
    ∃ out command encoded nowS v, Entitled reference (clientBundle [stationAuthority])
      (Finmap.singleton station.keyId station.verifyingKey) command encoded nowS v out := by
  obtain ⟨out, cache', h⟩ : ∃ out cache', verifyCommand reference parseApproach nowS ""
      (clientBundle [stationAuthority]) (Finmap.singleton station.keyId station.verifyingKey)
      { backend := some loadedJournal } = .ok out cache' :=
    exists_of_checks exists_consume_file entitlement_checks.1
  have hreply : (Verifier.step reference parseApproach (verifier loadedJournal)
      (.verify "" nowS)).1 = .verified (.ok out) := by
    rw [verifier, step_verify_ok h]
  have hhistory : Run.history (Verifier.step reference parseApproach) (.down emptyJournal)
      [.verify "" nowS, restartAt nowS] = [] ++ Run.event (Verifier.step reference parseApproach)
        (verifier loadedJournal) (.verify "" nowS) ::
        Run.history (Verifier.step reference parseApproach) (.down emptyJournal)
          [restartAt nowS] := by
    rw [Run.history, state_restarted]
    rfl
  obtain ⟨bundle, trust, replay, command, encoded, nowS, v, hbefore, -, hentitled, -⟩ :=
    entitlement_accepted_once reference parseApproach emptyJournal
      (FileReplayStateBackend.Whole.honours ⟨rfl, by simp [emptyJournal]⟩) _ _ _ _ hhistory out
      (by simp only [Run.event, hreply])
  simp only [Run.event, verifier, Verifier.running.injEq] at hbefore
  obtain ⟨rfl, rfl, -⟩ := hbefore
  exact ⟨out, command, encoded, nowS, v, hentitled⟩

end Access.EntitlementVerifier
