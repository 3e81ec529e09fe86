import Mathlib.Tactic.Common

/-! # A ledger of approvals and redemptions

What a protected sequence of stages comes down to, for grants of any type. Every event of a run
has a label. An approval makes a grant redeemable for the stage after the current one, a
redemption goes to the stage its grant was approved for, and a new session starts again from stage
0 without any grants. Other events may lose grants.

The ledger has for each redeemable grant the approval that made it so, by its position in the run.
In a legal run the stage counts the redemptions of the session (`stage_eq`), a redeemable grant was
approved in the same session at the stage before its own (`exists_approve`), and no approval is
redeemed twice (`request_ne`). -/

namespace StageLedger

variable {γ : Type} [DecidableEq γ]

inductive Label (γ : Type) where
  | start
  | approve (grant : γ) (stage : Nat)
  | redeem (grant : γ) (stage : Nat)
  /-- Anything else; the grants that are not `kept` are lost. -/
  | other (kept : γ → Bool)

/-- A redeemable grant: the approval it comes from, and the stage it is for. -/
structure Entry where
  request : Nat
  stage : Nat
  deriving DecidableEq

structure Ledger (γ : Type) where
  stage : Nat
  entries : γ → Option Entry

namespace Ledger

/-- The ledger after the event at position `n`. -/
def apply (n : Nat) (l : Ledger γ) : Label γ → Ledger γ
  | .start => ⟨0, fun _ => none⟩
  | .approve grant stage => { l with entries := Function.update l.entries grant (some ⟨n, stage⟩) }
  | .redeem grant stage => ⟨stage, Function.update l.entries grant none⟩
  | .other kept => { l with entries := fun g => if kept g then l.entries g else none }

/-- Whether an event may happen. -/
def Allows (l : Ledger γ) : Label γ → Prop
  | .approve _ stage => stage = l.stage + 1
  | .redeem grant stage => stage = l.stage + 1 ∧ ∃ n, l.entries grant = some ⟨n, stage⟩
  | .start | .other _ => True

end Ledger

/-- The ledger of a run, whose latest event comes first. -/
def ledger : List (Label γ) → Ledger γ
  | [] => ⟨0, fun _ => none⟩
  | label :: run => (ledger run).apply run.length label

def Legal : List (Label γ) → Prop
  | [] => True
  | label :: run => (ledger run).Allows label ∧ Legal run

def Label.isStart : Label γ → Bool
  | .start => true
  | _ => false

def Label.isRedeem : Label γ → Bool
  | .redeem .. => true
  | _ => false

/-- The events since the latest start. -/
def session (run : List (Label γ)) : List (Label γ) := run.takeWhile (!·.isStart)

variable {run : List (Label γ)} {grant : γ} {stage : Nat}

@[simp] theorem entries_start : (ledger (.start :: run)).entries grant = none := rfl

@[simp] theorem entries_approve {other : γ} : (ledger (.approve other stage :: run)).entries grant =
    if grant = other then some ⟨run.length, stage⟩ else (ledger run).entries grant :=
  Function.update_apply ..

@[simp] theorem entries_redeem {other : γ} : (ledger (.redeem other stage :: run)).entries grant =
    if grant = other then none else (ledger run).entries grant :=
  Function.update_apply ..

@[simp] theorem entries_other {kept : γ → Bool} : (ledger (.other kept :: run)).entries grant =
    if kept grant then (ledger run).entries grant else none := rfl

theorem Legal.of_append {later : List (Label γ)} (H : Legal (later ++ run)) : Legal run := by
  induction later with
  | nil => exact H
  | cons _ _ ih => exact ih H.2

/-- The stage is the number of redemptions of the session. -/
theorem stage_eq (H : Legal run) : (ledger run).stage = (session run).countP (·.isRedeem) := by
  induction run with
  | nil => rfl
  | cons label run ih =>
    have ih := ih H.2
    cases label with
    | start => rfl
    | approve grant stage => exact ih
    | redeem grant stage =>
      have hstage : stage = (ledger run).stage + 1 := H.1.1
      show stage = ((Label.redeem grant stage) :: session run).countP (·.isRedeem)
      rw [List.countP_cons_of_pos rfl, hstage, ih]
    | other kept => exact ih

/-- A redeemable grant was approved in the same session, at the stage before its own. -/
theorem exists_approve (H : Legal run) {entry : Entry}
    (h : (ledger run).entries grant = some entry) :
    ∃ newer older, run = newer ++ .approve grant entry.stage :: older ∧
      older.length = entry.request ∧ newer.all (!·.isStart) ∧
      entry.stage = (ledger older).stage + 1 := by
  induction run with
  | nil => cases h
  | cons label run ih =>
    have older (h : (ledger run).entries grant = some entry) (hl : label.isStart = false) :
        ∃ newer older, label :: run = newer ++ .approve grant entry.stage :: older ∧
          older.length = entry.request ∧ newer.all (!·.isStart) ∧
          entry.stage = (ledger older).stage + 1 := by
      obtain ⟨newer, older, rfl, hlen, hnewer, hstage⟩ := ih H.2 h
      exact ⟨label :: newer, older, rfl, hlen, by simp [hl, hnewer], hstage⟩
    cases label with
    | start => cases h
    | approve other stage =>
      rw [entries_approve] at h
      split at h
      · subst ‹grant = other›
        cases h
        exact ⟨[], run, rfl, rfl, rfl, H.1⟩
      · exact older h rfl
    | redeem other stage =>
      rw [entries_redeem] at h
      split at h
      · cases h
      · exact older h rfl
    | other kept =>
      rw [entries_other] at h
      split at h
      · exact older h rfl
      · cases h

/-- A grant that becomes redeemable again does so through a later approval. -/
theorem request_gt {later : List (Label γ)} {entry : Entry}
    (h : (ledger (later ++ .redeem grant stage :: run)).entries grant = some entry) :
    run.length < entry.request := by
  induction later with
  | nil => simp at h
  | cons label later ih =>
    rw [List.cons_append] at h
    cases label with
    | start => cases h
    | approve other stage =>
      rw [entries_approve] at h
      split at h
      · cases h
        simp only [List.length_append, List.length_cons]
        omega
      · exact ih h
    | redeem other stage =>
      rw [entries_redeem] at h
      split at h
      · cases h
      · exact ih h
    | other kept =>
      rw [entries_other] at h
      split at h
      · exact ih h
      · cases h

/-- No approval is redeemed twice: in the longer of two runs that end with a redemption, the
redeemed grant comes from another approval. -/
theorem request_ne {later : List (Label γ)} {grant' : γ} {entry entry' : Entry}
    (H : Legal (later ++ .redeem grant stage :: run))
    (h : (ledger run).entries grant = some entry)
    (h' : (ledger (later ++ .redeem grant stage :: run)).entries grant' = some entry') :
    entry'.request ≠ entry.request := by
  intro heq
  obtain ⟨newer, older, hrun, hlen, -, -⟩ := exists_approve H.of_append.2 h
  obtain ⟨newer', older', hrun', hlen', -, -⟩ := exists_approve H h'
  -- both approvals are at the same position, so they are approvals of one grant
  have hgrant : grant' = grant := by
    subst hrun
    have hlength : (later ++ Label.redeem grant stage :: newer).length = newer'.length := by
      have := congrArg List.length hrun'
      simp only [List.length_append, List.length_cons] at this ⊢
      omega
    have hsplit : (later ++ Label.redeem grant stage :: newer) ++
        Label.approve grant entry.stage :: older =
          newer' ++ Label.approve grant' entry'.stage :: older' := by
      rw [← hrun']
      simp
    have := (List.append_inj hsplit hlength).2
    simp_all
  subst hgrant
  have hgt := request_gt h'
  have hlt : entry.request < run.length := by
    rw [hrun, ← hlen]
    simp only [List.length_append, List.length_cons]
    omega
  omega

end StageLedger
