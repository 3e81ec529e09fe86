import Access.ReadinessMonitor

/-! # Observers of the docking status

`docking_monitor.py` waits for the hard dock, and `activity_logger.py` logs what is new in a status.
Neither is listened to by the other nodes. Floats are not rounded; times are nanoseconds. -/

namespace Access

open BaselineController (Stage)

namespace DockingMonitor

structure HardDockReached

/-- `HardDockReached` ends the process. -/
def onStatus (status : StatusMessage) : Except HardDockReached Unit :=
  if status.state = Stage.hardDock.number ∧ status.rangeM.le (.finite (1 / 1000)) then .error {}
  else .ok ()

end DockingMonitor

namespace ActivityLogger

/-- `STATE_NAME`, which has `ABORTED` as well. -/
def stateName : UInt8 → Option String
  | 0 => some "HOLD"
  | 1 => some "APPROACH"
  | 2 => some "FINAL_APPROACH"
  | 3 => some "SOFT_CAPTURE"
  | 4 => some "HARD_DOCK"
  | 255 => some "ABORTED"
  | _ => none

structure Logger where
  telemetryIntervalS : ℚ := 1 / 2
  lastStatusTime : Option Int := none
  lastState : Option UInt8 := none
  completionReported : Bool := false

/-- What a line says of a status; the range is written with three decimals. -/
structure LogLine where
  event : String
  state : String
  rangeM : JsonFloat
  transitionPending : Bool

def dockingComplete (status : StatusMessage) : Bool :=
  status.state = Stage.hardDock.number ∧ status.rangeM.le (.finite (1 / 1000))

def intervalElapsed (now : Int) (self : Logger) : Bool :=
  match self.lastStatusTime with
  | none => true
  | some lastStatusTime => self.telemetryIntervalS ≤ ((now - lastStatusTime : Int) : ℚ) / 10 ^ 9

def onStatus (now : Int) (status : StatusMessage) (self : Logger) : Option LogLine × Logger :=
  if dockingComplete status ∧ self.completionReported then (none, self)
  else if !dockingComplete status ∧ some status.state = self.lastState ∧ !intervalElapsed now self then
    (none, self)
  else
    (some
      { event := if dockingComplete status then "COMPLETE" else "STATUS"
        state := (stateName status.state).getD (toString status.state.toNat)
        rangeM := status.rangeM
        transitionPending := status.transitionPending },
      { self with
        lastState := some status.state
        lastStatusTime := some now
        completionReported := dockingComplete status })

/-! ## Runs -/

/-- A status, and the time when it is handled. -/
structure StatusAt where
  now : Int
  status : StatusMessage

def step (self : Logger) (call : StatusAt) : Option LogLine × Logger :=
  onStatus call.now call.status self

abbrev LoggerEvent := Run.Event Logger StatusAt (Option LogLine)

end ActivityLogger

end Access
