import Access.Reference
import Access.Theory.StageLedger
import Access.Verify.Runs

/-! # The order of the stages

An engine refines the ledger of approvals and redemptions: every run of it is a legal run of the
ledger (`refines`). What the ledger says about its runs is then true of the engine. -/

namespace Access

open StageLedger (Label Ledger Legal ledger)

/-! ## Events -/

def establishes (e : Event B) : Bool :=
  match e.call with
  | .establishSession .. => true
  | _ => false

/-- The outcome of an approved request. -/
def approval (e : Event B) : Option TransitionOutcome :=
  match e.reply with
  | .issued (.ok out) => if out.approved then some out else none
  | _ => none

/-- The outcome of a redemption. -/
def redemption (e : Event B) : Option TransitionOutcome :=
  match e.reply with
  | .redeemed (.ok out) => some out
  | _ => none

theorem redemption_of_reply {e : Event B} {out : TransitionOutcome}
    (h : e.reply = .redeemed (.ok out)) : redemption e = some out := by
  simp only [redemption, h]

/-- The stage that a call asks for. -/
def requestedStage (e : Event B) : Nat :=
  match e.call with
  | .requestTransition requestedState .. | .redeemTransition _ requestedState .. =>
    requestedState.toNat
  | _ => 0

def isPending (g : String) (s : Host B) : Bool := (s.engine.pendingEntitlements.lookup g).isSome

/-- The events since the latest call of `establish_session`. -/
def sinceEstablish (es : List (Event B)) : List (Event B) := es.takeWhile (!establishes ·)

/-- The position, from the start of the run, of the request that made the entitlement pending which
is pending for a grant. -/
def createdBy (g : String) : List (Event B) → Option Nat
  | [] => none
  | e :: es =>
    if isPending g e.after then
      if (approval e).bind (·.grantId) = some g then some es.length else createdBy g es
    else none

/-- The position of the request whose entitlement a redemption uses up. -/
def usedRequest (earlier : List (Event B)) (out : TransitionOutcome) : Option Nat :=
  out.grantId.bind (createdBy · earlier)

/-- What an event is to the ledger. -/
def label (e : Event B) : Label String :=
  if establishes e then .start else
  match (approval e).bind (·.grantId), (redemption e).bind (·.grantId) with
  | some g, _ => .approve g (requestedStage e)
  | none, some g => .redeem g (requestedStage e)
  | none, none => .other (isPending · e.after)

theorem label_cases (e : Event B) :
    establishes e = true ∧ label e = .start ∨
    establishes e = false ∧ (
      (∃ g, (approval e).bind (·.grantId) = some g ∧ label e = .approve g (requestedStage e)) ∨
      (approval e).bind (·.grantId) = none ∧
        ((∃ g, (redemption e).bind (·.grantId) = some g ∧
            label e = .redeem g (requestedStage e)) ∨
          (redemption e).bind (·.grantId) = none ∧ label e = .other (isPending · e.after))) := by
  unfold label
  split
  · exact .inl ⟨‹_›, rfl⟩
  · refine .inr ⟨Bool.eq_false_iff.mpr ‹_›, ?_⟩
    split <;> simp_all

/-! ## Refinement -/

/-- The engine agrees with the ledger on the stage, and on what is pending for which stage. -/
structure Agrees (s : Host B) (l : Ledger String) : Prop where
  stage : (stateNumber s.engine.state).toNat = l.stage
  entries : ∀ g, (s.engine.pendingEntitlements.lookup g).map (·.requestedState.toNat) =
    (l.entries g).map (·.stage)

variable {cr : Crates} {setup : EngineSetup} {s s' : Host B} {l : Ledger String}

theorem Agrees.other (H : Agrees s l) (n : Nat)
    (hstate : s'.engine.state = s.engine.state)
    (hpending : ∀ g p, s'.engine.pendingEntitlements.lookup g = some p →
      s.engine.pendingEntitlements.lookup g = some p) :
    Agrees s' (l.apply n (.other (isPending · s'))) := by
  refine ⟨hstate ▸ H.stage, fun g => ?_⟩
  show _ = Option.map _ (if isPending g s' then l.entries g else none)
  by_cases hg : isPending g s' = true
  · obtain ⟨p, hp⟩ := Option.isSome_iff_exists.mp hg
    rw [if_pos hg, ← H.entries g, hpending g p hp, hp]
  · rw [if_neg hg, Option.not_isSome_iff_eq_none.mp hg]
    rfl

theorem Agrees.start (n : Nat) (hstate : s'.engine.state = .hold)
    (hpending : s'.engine.pendingEntitlements = ∅) : Agrees s' (l.apply n .start) := by
  refine ⟨by rw [hstate]; rfl, fun g => ?_⟩
  rw [hpending, Finmap.lookup_empty]
  rfl

theorem Agrees.approve (H : Agrees s l) (n : Nat) {g : String} {p : PendingEntitlement}
    (hstate : s'.engine.state = s.engine.state)
    (hpending : s'.engine.pendingEntitlements = s.engine.pendingEntitlements.insert g p) :
    Agrees s' (l.apply n (.approve g p.requestedState.toNat)) := by
  refine ⟨hstate ▸ H.stage, fun g' => ?_⟩
  simp only [Ledger.apply, hpending]
  by_cases hg : g' = g
  · subst hg
    rw [Finmap.lookup_insert, Function.update_self]
    rfl
  · rw [Finmap.lookup_insert_of_ne _ hg, Function.update_of_ne hg, H.entries g']

theorem Agrees.redeem (H : Agrees s l) (n : Nat) {g : String} {stage : Nat}
    (hstate : (stateNumber s'.engine.state).toNat = stage)
    (hpending : s'.engine.pendingEntitlements = s.engine.pendingEntitlements.erase g) :
    Agrees s' (l.apply n (.redeem g stage)) := by
  refine ⟨hstate, fun g' => ?_⟩
  simp only [Ledger.apply, hpending]
  by_cases hg : g' = g
  · subst hg
    rw [Finmap.lookup_erase, Function.update_self]
    rfl
  · rw [Finmap.lookup_erase_ne hg, Function.update_of_ne hg, H.entries g']

/-- One step: the ledger allows what the engine does, and they agree again. -/
theorem Happens.agrees {c : Call B} {r : Reply} (H : Happens cr s c r s') (hl : Agrees s l)
    (n : Nat) : l.Allows (label ⟨s, c, r, s'⟩) ∧ Agrees s' (l.apply n (label ⟨s, c, r, s'⟩)) := by
  cases H with
  | established _ _ kept =>
    exact ⟨trivial, .start n (congrArg AccessEngine.state kept.1 :)
      (congrArg AccessEngine.pendingEntitlements kept.1 :)⟩
  | notEstablished _ _ kept =>
    exact ⟨trivial, .start n (congrArg AccessEngine.state kept.1 :)
      (congrArg AccessEngine.pendingEntitlements kept.1 :)⟩
  | issued requestedState _ _ issues =>
    obtain ⟨event, htransition⟩ := issues.transition
    have hstage := (stage_of_transitionFor htransition).1
    rw [show label _ = .approve _ requestedState.toNat by rw [issues.outcome]; rfl]
    have hstage' : requestedState.toNat = l.stage + 1 := hl.stage ▸ hstage
    refine ⟨hstage', ?_⟩
    exact hl.approve n (congrArg AccessEngine.state issues.engine :)
      (congrArg AccessEngine.pendingEntitlements issues.engine :)
  | withheld _ _ _ denied refreshes =>
    rw [show label _ = .other (isPending · s') by
      simp [label, establishes, approval, redemption, denied]]
    refine ⟨trivial, hl.other n (congrArg AccessEngine.state refreshes.kept.1 :) ?_⟩
    exact fun g p h => (congrArg AccessEngine.pendingEntitlements refreshes.kept.1 :) ▸ h
  | notIssued _ _ _ refreshes =>
    refine ⟨trivial, hl.other n (congrArg AccessEngine.state refreshes.kept.1 :) ?_⟩
    exact fun g p h => (congrArg AccessEngine.pendingEntitlements refreshes.kept.1 :) ▸ h
  | @redeemed signedGrantHex requestedState _ _ a _ _ redeems =>
    have hrequested : a.pending.requestedState = requestedState := by
      by_contra hne
      exact redeems.accepts.usable (.inl hne)
    have hstage : requestedState.toNat = l.stage + 1 :=
      hl.stage ▸ (stage_of_transitionFor redeems.accepts.transition).1
    have hentry := hl.entries a.grantId
    rw [redeems.accepts.pending, Option.map_some, hrequested] at hentry
    obtain ⟨⟨request, _⟩, hentry, rfl⟩ := Option.map_eq_some_iff.mp hentry.symm
    have hnumber := stateNumber_of_reduce redeems.accepts.transition redeems.reduced
    rw [show label _ = .redeem a.grantId requestedState.toNat by rw [redeems.outcome]; rfl]
    exact ⟨⟨hstage, request, hentry⟩, hl.redeem n (by rw [hnumber]) redeems.pending⟩
  | refused _ _ _ _ refuses =>
    exact ⟨trivial, hl.other n (congrArg AccessEngine.state refuses.engine :) refuses.pending⟩
  | enabled _ _ kept | replaced _ _ _ _ _ kept =>
    refine ⟨trivial, hl.other n (congrArg AccessEngine.state kept :) ?_⟩
    exact fun g p h => (congrArg AccessEngine.pendingEntitlements kept :) ▸ h

/-! ## Back to the engine -/

theorem isPending_eq (H : Agrees s l) (g : String) : isPending g s = (l.entries g).isSome := by
  have := congrArg Option.isSome (H.entries g)
  rwa [Option.isSome_map, Option.isSome_map] at this

/-- The ledger records which request made an entitlement pending. -/
theorem createdBy_cons {e : Event B} {es : List (Event B)}
    (H : Agrees e.after (ledger (label e :: es.map label))) (g : String)
    (ih : createdBy g es = ((ledger (es.map label)).entries g).map (·.request)) :
    createdBy g (e :: es) = ((ledger (label e :: es.map label)).entries g).map (·.request) := by
  have hpending := isPending_eq H g
  rw [createdBy]
  split
  case isFalse hp =>
    rw [Bool.eq_false_iff.mpr hp] at hpending
    rw [Option.isSome_eq_false_iff.mp hpending.symm |> Option.isNone_iff_eq_none.mp]
    rfl
  case isTrue hp =>
    rw [hp] at hpending
    obtain ⟨-, hlabel⟩ | ⟨-, ⟨g', hg', hlabel⟩ | ⟨hg', ⟨g'', -, hlabel⟩ | ⟨-, hlabel⟩⟩⟩ :=
      label_cases e <;> rw [hlabel] at hpending ⊢
    · simp at hpending
    · simp only [hg', Option.some.injEq, StageLedger.entries_approve, List.length_map, eq_comm]
      split
      · rfl
      · exact ih
    · rw [hg', if_neg nofun, StageLedger.entries_redeem, if_neg]
      · exact ih
      · rintro rfl
        simp [*] at hpending
    · rw [hg', if_neg nofun, StageLedger.entries_other, if_pos hp]
      exact ih

theorem isStart_label (e : Event B) : (label e).isStart = establishes e := by
  obtain ⟨h, hlabel⟩ | ⟨h, ⟨_, -, hlabel⟩ | ⟨-, ⟨_, -, hlabel⟩ | ⟨-, hlabel⟩⟩⟩ := label_cases e <;>
    rw [hlabel, h] <;> rfl

theorem Happens.isRedeem_label {c : Call B} {r : Reply} (H : Happens cr s c r s') :
    (label ⟨s, c, r, s'⟩).isRedeem = (redemption ⟨s, c, r, s'⟩).isSome := by
  cases H with
  | redeemed _ _ _ _ redeems => rw [redeems.outcome]; rfl
  | withheld _ _ _ denied =>
    simp [label, establishes, approval, redemption, denied, Label.isRedeem]
  | issued _ _ _ issues => rw [issues.outcome]; rfl
  | established | notEstablished | notIssued | refused | enabled | replaced => rfl

/-- What the ledger sees as an approval is an approved request. -/
theorem Happens.of_label_approve {c : Call B} {r : Reply} (H : Happens cr s c r s') {g : String}
    {n : Nat} (h : label ⟨s, c, r, s'⟩ = .approve g n) :
    ∃ requestedState nowS readiness out, c = .requestTransition requestedState nowS readiness ∧
      r = .issued (.ok out) ∧ out.approved = true ∧ out.grantId = some g ∧
      requestedState.toNat = n := by
  cases H with
  | issued requestedState nowS readiness issues =>
    rw [issues.outcome] at h ⊢
    cases h
    exact ⟨requestedState, nowS, readiness, _, rfl, rfl, rfl, rfl, rfl⟩
  | withheld _ _ _ denied =>
    simp [label, establishes, approval, redemption, denied] at h
  | redeemed _ _ _ _ redeems =>
    rw [redeems.outcome] at h
    cases h
  | established | notEstablished | notIssued | refused | enabled | replaced => cases h

/-- A call that is no redemption leaves the docking state, or establishes a session. -/
theorem Happens.state_eq {c : Call B} {r : Reply} (H : Happens cr s c r s')
    (h : redemption ⟨s, c, r, s'⟩ = none) :
    s'.engine.state = if establishes ⟨s, c, r, s'⟩ then .hold else s.engine.state := by
  cases H with
  | established _ _ kept | notEstablished _ _ kept => exact (congrArg AccessEngine.state kept.1 :)
  | issued _ _ _ issues => exact (congrArg AccessEngine.state issues.engine :)
  | withheld _ _ _ _ refreshes | notIssued _ _ _ refreshes =>
    exact (congrArg AccessEngine.state refreshes.kept.1 :)
  | redeemed => cases h
  | refused _ _ _ _ refuses => exact (congrArg AccessEngine.state refuses.engine :)
  | enabled _ _ kept | replaced _ _ _ _ _ kept => exact (congrArg AccessEngine.state kept :)

/-- A redemption takes a pending entitlement. -/
theorem Happens.redeems_pending {c : Call B} {r : Reply} (H : Happens cr s c r s')
    {out : TransitionOutcome} (h : redemption ⟨s, c, r, s'⟩ = some out) :
    ∃ g stage, out.grantId = some g ∧ isPending g s = true ∧
      label ⟨s, c, r, s'⟩ = .redeem g stage := by
  cases H with
  | @redeemed _ requestedState _ _ a _ _ redeems =>
    cases h
    rw [redeems.outcome]
    exact ⟨a.grantId, requestedState.toNat, rfl, Option.isSome_of_eq_some redeems.accepts.pending,
      rfl⟩
  | established | notEstablished | issued | withheld | notIssued | refused | enabled | replaced =>
    cases h

/-- Where a run of the engine and the run of the ledger with the same events lead. -/
structure Refines (es : List (Event B)) (s : Host B) : Prop where
  sound : SessionSound s.engine
  legal : Legal (es.map label)
  agrees : Agrees s (ledger (es.map label))
  created : ∀ g, createdBy g es = ((ledger (es.map label)).entries g).map (·.request)
  redeems : ∀ e ∈ es, (label e).isRedeem = (redemption e).isSome

/-- The stage of the engine is the number of redemptions since the session was established. -/
theorem Refines.stage_eq {es : List (Event B)} (H : Refines es s) :
    (stateNumber s.engine.state).toNat =
      (sinceEstablish es).countP fun e => (redemption e).isSome := by
  rw [H.agrees.stage, StageLedger.stage_eq H.legal]
  have hsession : StageLedger.session (es.map label) = (sinceEstablish es).map label := by
    unfold StageLedger.session sinceEstablish
    rw [List.takeWhile_map]
    congr 2
    exact funext fun e => by rw [Function.comp_apply, isStart_label]
  rw [hsession, List.countP_map]
  refine List.countP_congr fun e he => ?_
  rw [Function.comp_apply, H.redeems e ((List.takeWhile_sublist _).subset he)]

/-- What is pending was made so by an approval since the session was established. -/
theorem Refines.exists_approval {es : List (Event B)} (H : Refines es s) {g : String}
    {p : PendingEntitlement} (hp : s.engine.pendingEntitlements.lookup g = some p) :
    ∃ between request older, es = between ++ request :: older ∧
      createdBy g es = some older.length ∧ between.all (!establishes ·) ∧
      label request = .approve g p.requestedState.toNat ∧
      p.requestedState.toNat = (ledger (older.map label)).stage + 1 := by
  have hentry := H.agrees.entries g
  rw [hp] at hentry
  obtain ⟨entry, hentry, hfor⟩ := Option.map_eq_some_iff.mp hentry.symm
  have hfor : entry.stage = p.requestedState.toNat := hfor
  obtain ⟨newer, older, hsplit, hlength, hnewer, hat⟩ := StageLedger.exists_approve H.legal hentry
  obtain ⟨between, rest, rfl, rfl, hrest⟩ := List.map_eq_append_iff.mp hsplit
  obtain ⟨request, older, rfl, hlabel, rfl⟩ := List.map_eq_cons_iff.mp hrest
  refine ⟨between, request, older, rfl, ?_, ?_, hfor ▸ hlabel, hfor ▸ hat⟩
  · rw [H.created g, hentry, Option.map_some, ← hlength, List.length_map]
  · rw [List.all_map] at hnewer
    simpa only [Function.comp_def, isStart_label] using hnewer

theorem Refines.created_of_pending {es : List (Event B)} (H : Refines es s) {g : String}
    (h : isPending g s = true) : ∃ entry, (ledger (es.map label)).entries g = some entry ∧
      createdBy g es = some entry.request := by
  rw [isPending_eq H.agrees] at h
  obtain ⟨entry, hentry⟩ := Option.isSome_iff_exists.mp h
  exact ⟨entry, hentry, by rw [H.created g, hentry, Option.map_some]⟩

theorem Refines.nil (setup : EngineSetup) : Refines (B := B) [] (Host.new setup) where
  sound := nofun
  legal := trivial
  agrees := Agrees.start (l := ledger []) 0 rfl rfl
  created _ := rfl
  redeems _ h := absurd h List.not_mem_nil

theorem Refines.cons {es : List (Event B)} {c : Call B} {r : Reply} (H : Refines es s)
    (hstep : Happens cr s c r s') : Refines (⟨s, c, r, s'⟩ :: es) s' := by
  obtain ⟨hallows, hagrees⟩ := hstep.agrees H.agrees (es.map label).length
  refine ⟨hstep.sound H.sound, ⟨hallows, H.legal⟩, hagrees,
    fun g => createdBy_cons hagrees g (H.created g), fun e he => ?_⟩
  rcases List.mem_cons.mp he with rfl | he
  · exact hstep.isRedeem_label
  · exact H.redeems e he

variable [ReplayStateBackend B]

/-- Every run of the engine refines a run of the ledger. -/
theorem refines (cr : Crates) (setup : EngineSetup) (calls : List (Call B)) :
    Refines (history cr setup calls) (Host.after cr setup calls) :=
  Run.invariant _ _ (I := Refines) (.nil setup) (fun _ _ c H => H.cons (step_happens cr H.sound c))
    calls

/-- A redemption and the request it uses up: since the session was established, its stage is the
next one, and the request was approved for that stage, one stage before it. -/
structure InOrder (earlier : List (Event B)) (e : Event B) (out : TransitionOutcome) : Prop where
  previous : out.previousState.toNat = (sinceEstablish earlier).countP fun e => (redemption e).isSome
  resulting : out.resultingState.toNat = out.previousState.toNat + 1
  resulting_le : out.resultingState.toNat ≤ 4
  before : stateNumber e.before.engine.state = out.previousState
  after : stateNumber e.after.engine.state = out.resultingState
  usesUp : ∃ g, out.grantId = some g ∧ isPending g e.before ∧ ¬isPending g e.after ∧
    ∃ between request older nowS readiness issued,
      earlier = between ++ request :: older ∧ usedRequest earlier out = some older.length ∧
      between.all (!establishes ·) ∧
      request.call = .requestTransition out.resultingState nowS readiness ∧
      request.reply = .issued (.ok issued) ∧ issued.approved = true ∧ issued.grantId = some g ∧
      stateNumber request.before.engine.state = out.previousState

theorem redeemed_inOrder {calls : List (Call B)} {later earlier : List (Event B)} {e : Event B}
    (h : history cr setup calls = later ++ e :: earlier) {out : TransitionOutcome}
    (hout : redemption e = some out) : InOrder earlier e out := by
  obtain ⟨previous, rfl, hbefore, hhappens, -⟩ := event_happens h
  have hrefines := refines cr setup previous
  rw [← hbefore] at hrefines
  obtain ⟨s, call, reply, s'⟩ := e
  dsimp only at hrefines hhappens
  cases hhappens with
  | @redeemed _ requestedState _ _ a _ _ redeems =>
    cases hout
    have hnumber := stateNumber_of_reduce redeems.accepts.transition redeems.reduced
    obtain ⟨hstage, hle⟩ := stage_of_transitionFor redeems.accepts.transition
    have hrequested : a.pending.requestedState = requestedState := by
      by_contra hne
      exact redeems.accepts.usable (.inl hne)
    obtain ⟨between, request, older, hsplit, hcreated, hbetween, hlabel, hat⟩ :=
      hrefines.exists_approval redeems.accepts.pending
    obtain ⟨earliest, rfl, hbefore', hhappens', -⟩ := event_happens hsplit
    obtain ⟨r, nowS, readiness, issued, hcall, hreply, happroved, hgrant, hr⟩ :=
      hhappens'.of_label_approve hlabel
    have holder := (refines cr setup earliest).agrees.stage
    rw [← hbefore'] at holder
    have hr : r = requestedState := UInt8.toNat_inj.mp (hr.trans (congrArg _ hrequested))
    rw [redeems.outcome]
    refine ⟨hrefines.stage_eq, ?_, ?_, rfl, rfl, a.grantId, rfl, ?_, ?_, between, request, _, nowS,
      readiness, issued, hsplit, hcreated, hbetween, ?_, hreply, happroved, hgrant, ?_⟩
    · exact hnumber ▸ hstage
    · exact hnumber ▸ hle
    · exact Option.isSome_of_eq_some redeems.accepts.pending
    · simp only [isPending, redeems.pending, Finmap.lookup_erase, Option.isSome_none,
        Bool.false_eq_true, not_false_eq_true]
    · rw [hcall, hr]
      exact congrArg (Call.requestTransition · nowS readiness) hnumber.symm
    · apply UInt8.toNat_inj.mp
      show _ = (stateNumber s.engine.state).toNat
      rw [hrequested, hstage] at hat
      omega
  | withheld _ _ _ denied => cases hout
  | established | notEstablished | notIssued | refused | enabled | replaced | issued => cases hout

/-- Two redemptions of a run use up two requests. -/
theorem usedRequest_ne {calls : List (Call B)} {later between earlier : List (Event B)}
    {e e' : Event B} (h : history cr setup calls = later ++ e' :: (between ++ e :: earlier))
    {out out' : TransitionOutcome} (hout : redemption e = some out)
    (hout' : redemption e' = some out') :
    usedRequest (between ++ e :: earlier) out' ≠ usedRequest earlier out := by
  obtain ⟨previous', hprevious', hbefore', hhappens', -⟩ := event_happens h
  obtain ⟨previous, rfl, hbefore, hhappens, -⟩ := event_happens hprevious'.symm
  have H' := refines cr setup previous'
  have H := refines cr setup previous
  rw [← hprevious', ← hbefore'] at H'
  rw [← hbefore] at H
  obtain ⟨g, stage, hg, hpending, hlabel⟩ := hhappens.redeems_pending hout
  obtain ⟨g', -, hg', hpending', -⟩ := hhappens'.redeems_pending hout'
  obtain ⟨entry, hentry, hcreated⟩ := H.created_of_pending hpending
  obtain ⟨entry', hentry', hcreated'⟩ := H'.created_of_pending hpending'
  have hlegal := H'.legal
  rw [List.map_append, List.map_cons, show label e = _ from hlabel] at hlegal hentry'
  rw [usedRequest, usedRequest, hg, hg', Option.bind_some, Option.bind_some, hcreated, hcreated']
  exact fun heq => StageLedger.request_ne hlegal hentry hentry' (Option.some.inj heq)

/-- For every engine and every run: a redemption that succeeds goes to the next stage since the
session was established, by a request that was approved for that stage in the same session and one
stage before; no request is used up twice; and no other call changes the docking state, except that
establishing a session holds it. -/
theorem redemptions_inOrder (cr : Crates) (setup : EngineSetup) (calls : List (Call B))
    {later earlier : List (Event B)} {e : Event B}
    (h : history cr setup calls = later ++ e :: earlier) :
    (∀ out, redemption e = some out → InOrder earlier e out ∧
      ∀ newer between e' out', later = newer ++ e' :: between → redemption e' = some out' →
        usedRequest (between ++ e :: earlier) out' ≠ usedRequest earlier out) ∧
    (redemption e = none →
      e.after.engine.state = if establishes e then .hold else e.before.engine.state) := by
  refine ⟨fun out hout => ⟨redeemed_inOrder h hout, ?_⟩, fun hnone => ?_⟩
  · rintro newer between e' out' rfl hout'
    have h' : history cr setup calls = newer ++ e' :: (between ++ e :: earlier) := by
      rw [h, List.append_assoc, List.cons_append]
    exact usedRequest_ne h' hout hout'
  · obtain ⟨-, -, -, hhappens, -⟩ := event_happens h
    exact hhappens.state_eq hnone

/-- The redemption of the simulation. -/
theorem redemptions_inOrder_approach :
    ∃ out, redemption (Simulation.redemptionOf (Hex.encode Simulation.grant) Simulation.steady) =
        some out ∧
      InOrder Simulation.earlier
        (Simulation.redemptionOf (Hex.encode Simulation.grant) Simulation.steady) out := by
  obtain ⟨-, -, -, -, hredeems, -⟩ := Simulation.runs
  obtain ⟨out, hreply⟩ := Simulation.reply_of_redeemTransition hredeems
  have hout := redemption_of_reply hreply
  exact ⟨out, hout, ((redemptions_inOrder reference _ _
    (Simulation.history_redemptionOf _ _)).1 out hout).1⟩

end Access
