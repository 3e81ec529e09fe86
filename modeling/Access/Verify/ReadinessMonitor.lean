import Mathlib.Tactic.FieldSimp
import Mathlib.Tactic.Ring
import Access.ReadinessMonitor
import Access.Verify.BaselineController

/-! # What the readiness monitor reports

Evidence says of the vehicle what the status it was made from says (`MadeFrom`). The rate in it is
that of the way since the previous status, so over any stretch of a run with finite ranges the vehicle
came no nearer than the greatest rate that was reported for it allows (`approach_bounded`). -/

namespace Access.ReadinessMonitor

open BaselineController (Stage)
open StationAccess (ReadinessMessage)

/-! ## One status -/

/-- Evidence about a status, and the time when it was observed. -/
structure MadeFrom (evidence : ReadinessMessage) (status : StatusMessage) (observedAt : Int) :
    Prop where
  rangeM : evidence.rangeM = status.rangeM
  observedAtMs : evidence.readiness.observedAtMs = observedAt / 10 ^ 6
  inRange : observedAt / 10 ^ 9 < 2 ^ 31
  initialHold : evidence.initialHoldConfirmed = true → status.state = Stage.hold.number ∧
    (∃ q, status.rangeM = .finite q ∧ |q - 332 / 100| ≤ 1 / 100) ∧ status.transitionPending = false
  softCapture : evidence.softCaptureConfirmed = true → status.state = Stage.softCapture.number

/-- The time of a message, in milliseconds. -/
theorem toMsg_ms {time : Int} {sec : Int32} {nanosec : UInt32}
    (h : toMsg time = some (sec, nanosec)) :
    sec.toInt * 1000 + nanosec.toNat / 1000000 = time / 10 ^ 6 := by
  simp only [toMsg] at h
  split at h
  · rename_i fits
    cases h
    have hsec : (Int32.ofInt (time / 10 ^ 9)).toInt = time / 10 ^ 9 :=
      Int32.toInt_ofInt_of_le fits.1 fits.2
    have hsmall : (time % 10 ^ 9).toNat < UInt32.size := by
      have : UInt32.size = 4294967296 := rfl
      omega
    have hnanosec : (UInt32.ofNat (time % 10 ^ 9).toNat).toNat = (time % 10 ^ 9).toNat :=
      UInt32.toNat_ofNat_of_lt hsmall
    rw [hsec, hnanosec]
    omega
  · cases h

theorem toMsg_inRange {time : Int} {message : Int32 × UInt32} (h : toMsg time = some message) :
    time / 10 ^ 9 < 2 ^ 31 := by
  simp only [toMsg] at h
  split at h
  · rename_i fits
    exact fits.2
  · cases h

variable {self after : Monitor} {observedAt : Int} {status : StatusMessage}
  {evidence : ReadinessMessage}

theorem onStatus_madeFrom (h : onStatus observedAt status self = (some evidence, after)) :
    MadeFrom evidence status observedAt ∧
      evidence.closingRateMps = closingRate observedAt status self := by
  obtain ⟨hevidence, -⟩ := Prod.mk.inj h
  obtain ⟨⟨sec, nanosec⟩, htime, rfl⟩ := Option.map_eq_some_iff.mp hevidence
  refine ⟨⟨rfl, toMsg_ms htime, toMsg_inRange htime, ?_, ?_⟩, rfl⟩
  · intro confirmed
    obtain ⟨hold, near, settled⟩ := of_decide_eq_true confirmed
    exact ⟨hold, JsonFloat.near_iff.mp near, by simpa using settled⟩
  · intro confirmed
    exact of_decide_eq_true confirmed

/-- A status that the monitor survives. -/
theorem step_status_alive {s : Option Monitor}
    (h : (step s (.status observedAt status)).2 = some after) : ∃ self evidence, s = some self ∧
      step s (.status observedAt status) = (some evidence, some after) ∧
      after.previousRange = some status.rangeM ∧ after.previousTime = some observedAt ∧
      MadeFrom evidence status observedAt ∧
      evidence.closingRateMps = closingRate observedAt status self := by
  cases s with
  | none => cases h
  | some self =>
    cases hstatus : onStatus observedAt status self with
    | mk published next =>
      cases published with
      | none =>
        simp only [step, hstatus] at h
        cases h
      | some evidence =>
        simp only [step, hstatus] at h
        cases h
        obtain ⟨hmade, hrate⟩ := onStatus_madeFrom hstatus
        have hnext := (Prod.mk.inj hstatus).2
        refine ⟨self, evidence, rfl, ?_, ?_, ?_, hmade, hrate⟩
        · simp only [step, hstatus]
        · rw [← hnext]
        · rw [← hnext]

/-- Evidence is published about a status. -/
theorem madeFrom_of_step {s : Option Monitor} {call : MonitorCall}
    (h : (step s call).1 = some evidence) :
    ∃ observedAt status, call = .status observedAt status ∧ MadeFrom evidence status observedAt := by
  cases s with
  | none => cases h
  | some self =>
    cases call with
    | scenario data => cases h
    | status observedAt status =>
      cases hstatus : onStatus observedAt status self with
      | mk published next =>
        cases published with
        | none =>
          simp only [step, hstatus] at h
          cases h
        | some evidence' =>
          simp only [step, hstatus] at h
          cases h
          exact ⟨observedAt, status, rfl, (onStatus_madeFrom hstatus).1⟩

/-! ## A stretch of a run -/

/-- The time of an observation. -/
def observedAt? (e : MonitorEvent) : Option Int :=
  match e.call with
  | .status observedAt _ => some observedAt
  | .scenario _ => none

/-- Each observation is later than the one before, the first one later than `since`. -/
def InTime (since : Int) (es : List MonitorEvent) : Prop :=
  (es.filterMap observedAt? ++ [since]).Pairwise (· > ·)

/-- No rate above the limit is reported. -/
def NotFaster (limit : ℚ) (es : List MonitorEvent) : Prop :=
  ∀ e ∈ es, ∀ evidence, e.reply = some evidence →
    ∃ rate, evidence.closingRateMps = .finite rate ∧ rate ≤ limit

/-- The way that a rate allows in a time. -/
def wayAt (limit : ℚ) (nanoseconds : Int) : ℚ := limit * ((nanoseconds : ℚ) / 10 ^ 9)

theorem wayAt_add (limit : ℚ) (a b : Int) : wayAt limit (a + b) = wayAt limit a + wayAt limit b := by
  simp only [wayAt, Int.cast_add]
  ring

/-- Every range is a finite number. -/
def Measured (es : List MonitorEvent) : Prop :=
  ∀ e ∈ es, ∀ observedAt status, e.call = .status observedAt status →
    ∃ range, status.rangeM = .finite range

/-- The rate of a status that is observed later than the previous one. -/
theorem le_wayAt_of_closingRate {previousRange range rate limit : ℚ} {previousTime : Int}
    (hprevious : self.previousRange = some (.finite previousRange))
    (htime : self.previousTime = some previousTime) (later : previousTime < observedAt)
    (hrange : status.rangeM = .finite range)
    (hrate : closingRate observedAt status self = .finite rate) (slow : rate ≤ limit) :
    previousRange - range ≤ wayAt limit (observedAt - previousTime) := by
  have elapsed : (0 : ℚ) < ((observedAt - previousTime : Int) : ℚ) / 10 ^ 9 := by
    have : (0 : ℚ) < ((observedAt - previousTime : Int) : ℚ) := by
      exact_mod_cast Int.sub_pos_of_lt later
    exact div_pos this (by norm_num)
  simp only [closingRate, hprevious, htime, hrange, if_pos elapsed, JsonFloat.sub, JsonFloat.divBy,
    JsonFloat.pyMax_finite, JsonFloat.finite.injEq] at hrate
  have mean := (le_max_right 0 _).trans (hrate.le.trans slow)
  rw [div_le_iff₀ elapsed] at mean
  exact mean

/-- The previous status of a monitor, after a stretch that began with a status `range` away at the
time `since`, on the way that the limit allows. -/
structure Approaches (limit range : ℚ) (since : Int) (es : List MonitorEvent) (monitor : Monitor) :
    Prop where
  exists_previous : ∃ previousRange previousTime,
    monitor.previousRange = some (.finite previousRange) ∧
    monitor.previousTime = some previousTime ∧
    (es.filterMap observedAt? ++ [since]).head? = some previousTime ∧
    range - previousRange ≤ wayAt limit (previousTime - since)

variable {limit range : ℚ} {since : Int} {es : List MonitorEvent}

theorem Measured.of_cons {e : MonitorEvent} (H : Measured (e :: es)) : Measured es :=
  fun e mem => H e (.tail _ mem)

/-- One status, as long as the rates are not above the limit. -/
theorem Approaches.observe (H : Approaches limit range since es self)
    (hafter : after.previousRange = some status.rangeM)
    (hafterTime : after.previousTime = some observedAt)
    (inTime : InTime since (Run.event step (some self) (.status observedAt status) :: es))
    (measured : Measured (Run.event step (some self) (.status observedAt status) :: es))
    {rate : ℚ} (hrate : closingRate observedAt status self = .finite rate) (slow : rate ≤ limit) :
    Approaches limit range since (Run.event step (some self) (.status observedAt status) :: es)
      after := by
  obtain ⟨previousRange, previousTime, hrange, htime, hhead, hway⟩ := H.exists_previous
  obtain ⟨now, hnow⟩ := measured _ (.head _) observedAt status rfl
  refine ⟨now, observedAt, hafter.trans (congrArg some hnow), hafterTime, rfl, ?_⟩
  have hpairwise : (observedAt :: (es.filterMap observedAt? ++ [since])).Pairwise (· > ·) := inTime
  have later : previousTime < observedAt :=
    (List.pairwise_cons.mp hpairwise).1 previousTime (List.mem_of_mem_head? hhead)
  have way := le_wayAt_of_closingRate hrange htime later hnow hrate slow
  have split : observedAt - since = (observedAt - previousTime) + (previousTime - since) := by ring
  rw [split, wayAt_add]
  linarith

/-- Every stretch. -/
theorem approaches (h : Approaches limit range since [] self) (calls : List MonitorCall)
    (inTime : InTime since (Run.history step (some self) calls))
    (measured : Measured (Run.history step (some self) calls))
    (slow : NotFaster limit (Run.history step (some self) calls)) {after : Monitor}
    (alive : Run.state step (some self) calls = some after) :
    Approaches limit range since (Run.history step (some self) calls) after := by
  induction calls generalizing after with
  | nil =>
    cases alive
    exact h
  | cons call calls ih =>
    simp only [Run.history, Run.state] at inTime measured slow alive ⊢
    cases hbefore : Run.state step (some self) calls with
    | none =>
      rw [hbefore] at alive
      cases alive
    | some before =>
      rw [hbefore] at inTime measured slow alive
      have slow' : NotFaster limit (Run.history step (some self) calls) :=
        fun e mem => slow e (.tail _ mem)
      cases call with
      | scenario data =>
        cases alive
        exact ⟨(ih inTime measured.of_cons slow' hbefore).exists_previous⟩
      | status observedAt status =>
        obtain ⟨_, evidence, hself, hstep, hrange, htime, -, hrate⟩ := step_status_alive alive
        cases hself
        have hpairwise : (observedAt :: ((Run.history step (some self) calls).filterMap observedAt? ++
          [since])).Pairwise (· > ·) := inTime
        obtain ⟨rate, hrate', hle⟩ := slow _ (.head _) evidence (congrArg Prod.fst hstep)
        exact (ih (List.pairwise_cons.mp hpairwise).2 measured.of_cons slow' hbefore).observe hrange
          htime inTime measured (hrate.symm.trans hrate') hle

/-- A monitor whose handler raised does nothing any more. -/
theorem state_none (calls : List MonitorCall) : Run.state step none calls = none := by
  induction calls with
  | nil => rfl
  | cons call calls ih =>
    rw [Run.state, ih]
    rfl

/-- The beginning of a stretch. -/
theorem approaches_nil {s : Option Monitor} {firstAt : Int} {first : StatusMessage}
    (h : (step s (.status firstAt first)).2 = some self) (hfirst : first.rangeM = .finite range) :
    Approaches limit range firstAt [] self := by
  obtain ⟨_, _, -, -, hrange, htime, -⟩ := step_status_alive h
  refine ⟨range, firstAt, hrange.trans (congrArg some hfirst), htime, rfl, ?_⟩
  simp [wayAt]

/-- In every run: from the observation of one status to that of another one the vehicle came no
nearer than with the greatest rate that was reported meanwhile, as long as the ranges were finite and
each observation was later than the one before. Floats are not rounded. -/
theorem approach_bounded (earlier between : List MonitorCall) (first last : StatusMessage)
    (firstAt lastAt : Int) (limit firstRange lastRange : ℚ)
    (hfirst : first.rangeM = .finite firstRange) (hlast : last.rangeM = .finite lastRange)
    (alive : Run.state step (some {})
      (.status lastAt last :: between ++ .status firstAt first :: earlier) ≠ none)
    (inTime : InTime firstAt (Run.history step
      (Run.state step (some {}) (.status firstAt first :: earlier)) (.status lastAt last :: between)))
    (measured : Measured (Run.history step
      (Run.state step (some {}) (.status firstAt first :: earlier)) (.status lastAt last :: between)))
    (slow : NotFaster limit (Run.history step
      (Run.state step (some {}) (.status firstAt first :: earlier))
      (.status lastAt last :: between))) :
    firstRange - lastRange ≤ wayAt limit (lastAt - firstAt) := by
  rw [Run.state_append] at alive
  cases hbegin : Run.state step (some {}) (.status firstAt first :: earlier) with
  | none =>
    rw [hbegin, state_none] at alive
    exact absurd rfl alive
  | some self =>
    rw [hbegin] at alive inTime measured slow
    obtain ⟨after, hafter⟩ := Option.ne_none_iff_exists'.mp alive
    obtain ⟨previousRange, previousTime, hrange, htime, -, hway⟩ :=
      (approaches (approaches_nil hbegin hfirst) _ inTime measured slow hafter).exists_previous
    obtain ⟨_, _, -, -, hlastRange, hlastAt, -⟩ := step_status_alive hafter
    cases (hlastRange.symm.trans hrange).symm.trans (congrArg some hlast)
    cases hlastAt.symm.trans htime
    exact hway

/-- Ten centimetres in a second, with a status after half of it. -/
theorem approach_bounded_approach : (280 / 100 : ℚ) - 270 / 100 ≤ wayAt (1 / 10) 1000000000 := by
  let first : StatusMessage := ⟨1, .finite (280 / 100), false⟩
  let middle : StatusMessage := ⟨1, .finite (275 / 100), false⟩
  let last : StatusMessage := ⟨1, .finite (270 / 100), false⟩
  have bounded := approach_bounded [] [.status 500000000 middle] first last 0 1000000000 (1 / 10)
    (280 / 100) (270 / 100) rfl rfl ?_ ?_ ?_ ?_
  · rwa [Int.sub_zero] at bounded
  · simp [Run.state, step, onStatus, toMsg]
  · simp [InTime, Run.history, Run.event, observedAt?]
  · refine List.forall_mem_cons.mpr ⟨?_, List.forall_mem_singleton.mpr ?_⟩
    all_goals
      intro observedAt status call
      cases call
      exact ⟨_, rfl⟩
  · -- a tenth of a metre in a second, twice
    refine List.forall_mem_cons.mpr ⟨?_, List.forall_mem_singleton.mpr ?_⟩
    all_goals
      intro evidence published
      simp only [Run.event, Run.state, step, onStatus, toMsg, Option.map_if] at published
      norm_num at published
      subst published
      refine ⟨1 / 10, ?_, le_rfl⟩
      norm_num [closingRate, first, middle, last, JsonFloat.sub, JsonFloat.divBy,
        JsonFloat.pyMax_finite]

end Access.ReadinessMonitor
