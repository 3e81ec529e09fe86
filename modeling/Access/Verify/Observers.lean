import Mathlib.Data.List.Destutter
import Access.Observers

/-! # The log of the docking status

What is logged of a run has every change of state in order, and no line without a reason: the log is
`Follows`-chained, and a status that is left out is `Redundant` after the last line. -/

namespace Access.ActivityLogger

/-- What was logged of a run, the latest first. -/
def logged (es : List LoggerEvent) : List StatusAt :=
  es.filterMap fun e => if e.reply.isSome then some e.call else none

def SameState (later earlier : StatusAt) : Prop := later.status.state = earlier.status.state

/-- So much time has passed between two statuses. -/
def Apart (intervalS : ℚ) (later earlier : StatusAt) : Prop :=
  intervalS ≤ ((later.now - earlier.now : Int) : ℚ) / 10 ^ 9

/-- A status that is logged after another one: no completion follows a completion, and a status that
is no completion and has the state of the last one follows after the interval. -/
structure Follows (intervalS : ℚ) (later earlier : StatusAt) : Prop where
  once : dockingComplete earlier.status = true → dockingComplete later.status = false
  rare : dockingComplete later.status = false → SameState later earlier →
    Apart intervalS later earlier

/-- A status that is not logged after another one: a completion after a completion, or the same state
again within the interval. -/
inductive Redundant (intervalS : ℚ) (later earlier : StatusAt) : Prop where
  | complete (later_complete : dockingComplete later.status = true)
    (earlier_complete : dockingComplete earlier.status = true)
  | soon (same : SameState later earlier) (early : ¬Apart intervalS later earlier)

/-- The memory of a logger: the last line. -/
structure Remembers (intervalS : ℚ) (last : Option StatusAt) (logger : Logger) : Prop where
  interval : logger.telemetryIntervalS = intervalS
  time : logger.lastStatusTime = last.map (·.now)
  state : logger.lastState = last.map (·.status.state)
  complete : logger.completionReported = last.any (dockingComplete ·.status)

variable {intervalS : ℚ} {last : Option StatusAt} {logger : Logger}

theorem Remembers.intervalElapsed_eq {earlier : StatusAt}
    (h : Remembers intervalS (some earlier) logger) (call : StatusAt) :
    intervalElapsed call.now logger = true ↔ Apart intervalS call earlier := by
  simp only [intervalElapsed, h.time, h.interval, Option.map_some, decide_eq_true_eq, Apart]

/-- One status. -/
theorem Remembers.step (h : Remembers intervalS last logger) (call : StatusAt) :
    ((step logger call).1.isSome = true ∧ Remembers intervalS (some call) (step logger call).2 ∧
      ∀ earlier, last = some earlier → Follows intervalS call earlier) ∨
    ((step logger call).1.isSome = false ∧ (step logger call).2 = logger ∧
      ∃ earlier, last = some earlier ∧ Redundant intervalS call earlier) := by
  unfold ActivityLogger.step onStatus
  split
  · rename_i repeated
    refine .inr ⟨rfl, rfl, ?_⟩
    have reported := h.complete.symm.trans repeated.2
    obtain ⟨earlier, rfl, complete⟩ := (Option.any_eq_true ..).mp reported
    exact ⟨earlier, rfl, .complete repeated.1 complete⟩
  · rename_i fresh
    split
    · rename_i soon
      refine .inr ⟨rfl, rfl, ?_⟩
      obtain ⟨-, same, early⟩ := soon
      obtain ⟨earlier, rfl, state⟩ := Option.map_eq_some_iff.mp (h.state.symm.trans same.symm)
      refine ⟨earlier, rfl, .soon state.symm fun apart => ?_⟩
      rw [(h.intervalElapsed_eq call).mpr apart] at early
      cases early
    · rename_i new
      refine .inl ⟨rfl, ⟨h.interval, rfl, rfl, rfl⟩, ?_⟩
      rintro earlier rfl
      constructor
      · intro complete
        refine Bool.eq_false_iff.mpr fun again => fresh ⟨again, ?_⟩
        exact h.complete.trans complete
      · intro incomplete same
        refine (h.intervalElapsed_eq call).mp ?_
        by_contra early
        refine new ⟨?_, ?_, ?_⟩
        · rw [incomplete]
          rfl
        · exact (congrArg some same).trans h.state.symm
        · rw [Bool.eq_false_iff.mpr early]
          rfl

/-- The changes of state among statuses, the latest first. -/
def stateChanges (statuses : List StatusAt) : List UInt8 :=
  (statuses.map (·.status.state)).destutter (· ≠ ·)

theorem stateChanges_of_same {later earlier : StatusAt} (h : SameState later earlier)
    (statuses : List StatusAt) :
    stateChanges (later :: earlier :: statuses) = stateChanges (earlier :: statuses) := by
  have h : later.status.state = earlier.status.state := h
  unfold stateChanges
  rw [List.map_cons, List.map_cons, List.destutter_cons_cons, if_neg (not_not.mpr h), h]
  rfl

theorem stateChanges_of_ne {later earlier : StatusAt} (h : ¬SameState later earlier)
    (statuses : List StatusAt) : stateChanges (later :: earlier :: statuses) =
      later.status.state :: stateChanges (earlier :: statuses) := by
  have h : later.status.state ≠ earlier.status.state := h
  unfold stateChanges
  rw [List.map_cons, List.map_cons, List.destutter_cons_cons, if_pos h]
  rfl

/-- What precedes a status does not matter for whether it is a change. -/
theorem stateChanges_cons_congr {statuses statuses' : List StatusAt} (call : StatusAt)
    (heads : statuses.head?.map (·.status.state) = statuses'.head?.map (·.status.state))
    (h : stateChanges statuses = stateChanges statuses') :
    stateChanges (call :: statuses) = stateChanges (call :: statuses') := by
  cases statuses with
  | nil =>
    cases statuses' with
    | nil => rfl
    | cons earlier' statuses' => cases heads
  | cons earlier statuses =>
    cases statuses' with
    | nil => cases heads
    | cons earlier' statuses' =>
      have heads : earlier.status.state = earlier'.status.state := Option.some.inj heads
      by_cases same : SameState call earlier
      · rw [stateChanges_of_same same, stateChanges_of_same (same.trans heads), h]
      · rw [stateChanges_of_ne same, stateChanges_of_ne fun same' => same (same'.trans heads.symm), h]

/-- What the log has of a run. -/
structure Logs (intervalS : ℚ) (es : List LoggerEvent) : Prop where
  changes : stateChanges (logged es) = stateChanges (es.map (·.call))
  chain : (logged es).IsChain (Follows intervalS)
  redundant : ∀ later e earlier, es = later ++ e :: earlier → e.reply = none →
    ∃ last, (logged earlier).head? = some last ∧ Redundant intervalS e.call last

theorem logged_cons_some {e : LoggerEvent} {es : List LoggerEvent} (h : e.reply.isSome = true) :
    logged (e :: es) = e.call :: logged es := by
  simp only [logged, List.filterMap_cons, h, if_true]

theorem logged_cons_none {e : LoggerEvent} {es : List LoggerEvent} (h : e.reply.isSome = false) :
    logged (e :: es) = logged es := by
  simp only [logged, List.filterMap_cons, h, Bool.false_eq_true, if_false]

theorem Redundant.sameState {later earlier : StatusAt} (h : Redundant intervalS later earlier) :
    SameState later earlier := by
  cases h with
  | complete later_complete earlier_complete =>
    have hardDock {call : StatusAt} (complete : dockingComplete call.status = true) :
        call.status.state = BaselineController.Stage.hardDock.number :=
      (of_decide_eq_true complete).1
    exact (hardDock later_complete).trans (hardDock earlier_complete).symm
  | soon same => exact same

/-- What the logger and the log know of the last status. -/
structure Follow (intervalS : ℚ) (es : List LoggerEvent) (logger : Logger) : Prop where
  logs : Logs intervalS es
  remembers : Remembers intervalS (logged es).head? logger
  heads : (logged es).head?.map (·.status.state) = (es.map (·.call)).head?.map (·.status.state)

/-- One event. -/
theorem Follow.cons {es : List LoggerEvent} (H : Follow intervalS es logger) (call : StatusAt) :
    Follow intervalS (Run.event step logger call :: es) (step logger call).2 := by
  obtain ⟨logs, remembers, heads⟩ := H
  have redundant (last : (step logger call).1.isSome = false →
      ∃ last, (logged es).head? = some last ∧ Redundant intervalS call last) (later e earlier)
      (eq : Run.event step logger call :: es = later ++ e :: earlier) (silent : e.reply = none) :
      ∃ last, (logged earlier).head? = some last ∧ Redundant intervalS e.call last := by
    cases later with
    | nil =>
      cases eq
      exact last (congrArg Option.isSome silent)
    | cons _ later => exact logs.redundant later e earlier (List.cons.inj eq).2 silent
  rcases remembers.step call with ⟨said, remembers', follows⟩ | ⟨silent, same, earlier, last, less⟩
  · have more : logged (Run.event step logger call :: es) = call :: logged es :=
      logged_cons_some said
    refine ⟨⟨?_, ?_, redundant fun silent => ?_⟩, ?_, ?_⟩
    · rw [more]
      exact stateChanges_cons_congr call heads logs.changes
    · rw [more]
      exact List.isChain_cons.mpr ⟨follows, logs.chain⟩
    · cases said.symm.trans silent
    · rw [more]
      exact remembers'
    · rw [more]
      rfl
  · have more : logged (Run.event step logger call :: es) = logged es := logged_cons_none silent
    have state : call.status.state = earlier.status.state := less.sameState
    refine ⟨⟨?_, ?_, redundant fun _ => ⟨earlier, last, less⟩⟩, ?_, ?_⟩
    · rw [more, logs.changes]
      rw [last] at heads
      cases es with
      | nil => cases heads
      | cons e es => exact (stateChanges_of_same (state.trans (Option.some.inj heads)) _).symm
    · rw [more]
      exact logs.chain
    · rw [more, same]
      exact remembers
    · rw [more, last]
      exact congrArg some state.symm

/-- The log of a run has every change of state of the statuses that were handled, in their order; each
of its lines has a reason after the one before it, and each status that is left out has none. A
completion is a reason of its own, however soon it comes after a line of the same state. Seconds are
not rounded. -/
theorem log_of_run (telemetryIntervalS : ℚ) (calls : List StatusAt) :
    Logs telemetryIntervalS (Run.history step { telemetryIntervalS } calls) := by
  refine (Run.invariant step { telemetryIntervalS } (I := Follow telemetryIntervalS) ?_ ?_ calls).logs
  · refine ⟨⟨rfl, .nil, fun later e earlier eq => ?_⟩, ⟨rfl, rfl, rfl, rfl⟩, rfl⟩
    cases later <;> cases eq
  · intro es logger call H
    exact H.cons call

end Access.ActivityLogger
