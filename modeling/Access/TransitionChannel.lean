import Access.BaselineController

/-! # The controller and its two topics

What the controller publishes on `/docking/transition_request`, and the decisions that come back on
`/docking/transition_decision`. A decision may be published at any time and with any content after
the request that it answers; it is delivered once, in any order, or never. Neither message names the
other: the numbers of the requests and of the runs are for the reader only. -/

namespace Access.TransitionChannel

open BaselineController (Controller Parameters Sent Tick)
open StationAccess (TransitionDecision)

/-- A request that was published, in the run of that number. -/
structure Asked where
  run : Nat
  requestedState : UInt8
  deriving DecidableEq

/-- A decision that was published, and the number of the request that it answers. -/
structure Decided where
  request : Nat
  decision : TransitionDecision
  deriving DecidableEq

/-- `runs` counts the messages that start or prepare a run. The requests are those published so far,
the earliest first; the decisions, those not delivered yet. -/
structure Channel where
  controller : Controller
  runs : Nat := 0
  requests : List Asked := []
  decisions : List Decided := []

inductive ChannelCall where
  | update (tick : Tick)
  | reset
  | run (data : String)
  | prepare
  | publish (decided : Decided)
  | deliver (index : Nat)

/-- The requested state of what was sent, if it is a request. -/
def requestedState? : Sent → Option UInt8
  | .transitionRequest message => some message.requestedState
  | .status _ | .setPose _ => none

variable (p : Parameters)

/-- The controller handles an input. -/
def Channel.handle (s : Channel) (input : BaselineController.Input) : Channel :=
  let (sent, controller) := BaselineController.step p s.controller input
  let asked := (sent.filterMap requestedState?).map fun requestedState =>
    { run := s.runs, requestedState }
  { s with controller, requests := s.requests ++ asked }

/-- A message that starts or prepares a run. -/
def Channel.restart (s : Channel) (input : BaselineController.Input) : Channel :=
  { s.handle p input with runs := s.runs + 1 }

def step (s : Channel) : ChannelCall → Unit × Channel
  | .update tick => ((), s.handle p (.update tick))
  | .reset => ((), s.restart p .reset)
  | .run data => ((), s.restart p (.run data))
  | .prepare => ((), s.restart p .prepare)
  | .publish decided =>
    if decided.request < s.requests.length then
      ((), { s with decisions := s.decisions ++ [decided] })
    else ((), s)
  | .deliver index =>
    match s.decisions[index]? with
    | some decided =>
      ((), { s.handle p (.decision decided.decision) with
        decisions := s.decisions.eraseIdx index })
    | none => ((), s)

abbrev ChannelEvent := Run.Event Channel ChannelCall Unit

end Access.TransitionChannel
