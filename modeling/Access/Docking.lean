import Access.ReadinessMonitor

/-! # The docking system

The controller, the readiness monitor and the station over its authority, with the topics between
them: `/docking/status`, `/docking/readiness` and `/docking/transition_decision`. Of what was
published, a status or evidence may be handled late, in any order, more than once or never; a
decision once or never. What the chaser's node publishes for the station may be anything. -/

namespace Access.Docking

open BaselineController (Controller DockingStatus Input Parameters Sent)
open ReadinessMonitor (Monitor MonitorCall)
open StationAccess (ReadinessMessage Station StationCall TransitionDecision)
open AuthorityClient (Link client)

/-- The messages on the topics are those published so far, the earliest first; of the decisions,
those not handled yet. -/
structure System (B : Type) where
  controller : Controller
  monitor : Option Monitor := some {}
  station : Station (AuthorityClient.Process B)
  statuses : List DockingStatus := []
  evidence : List ReadinessMessage := []
  decisions : List TransitionDecision := []

/-- What is handled next: a message of one of the three topics, or an input from elsewhere, which is
none of them. -/
inductive SystemCall where
  | controller (input : Input) (elsewhere : ∀ decision, input ≠ .decision decision)
  | monitor (scenario : String)
  | station (call : StationCall Link)
    (elsewhere : ∀ evidence, call.message ≠ .readiness evidence)
  | status (index : Nat) (observedAt : Int)
  | readiness (index : Nat) (link : Link)
  | transitionDecision (index : Nat)

def status? : Sent → Option DockingStatus
  | .status message => some message
  | .transitionRequest _ | .setPose _ => none

namespace System

/-- The controller handles an input. -/
def handleAtController (p : Parameters) (s : System B) (input : Input) : System B :=
  let (sent, controller) := BaselineController.step p s.controller input
  { s with controller, statuses := s.statuses ++ sent.filterMap status? }

/-- The monitor handles a message. -/
def handleAtMonitor (s : System B) (call : MonitorCall) : System B :=
  let (published, monitor) := ReadinessMonitor.step s.monitor call
  { s with monitor, evidence := s.evidence ++ published.toList }

variable [ReplayStateBackend B] (cr : Crates)

/-- The station handles a message. -/
def handleAtStation (s : System B) (call : StationCall Link) : System B :=
  let (published, station) := StationAccess.step (client cr) s.station call
  { s with station, decisions := s.decisions ++ published.decisions.map (·.1) }

/-- The nodes after their constructors. -/
def start (p : Parameters) (now : Int) (link : Link) (host : Option (Host B)) : System B where
  controller := .init p now
  station := .start (client cr link) { host }

end System

open Docking.System

variable [ReplayStateBackend B] (cr : Crates) (p : Parameters)

def step (s : System B) : SystemCall → Unit × System B
  | .controller input _ => ((), s.handleAtController p input)
  | .monitor scenario => ((), s.handleAtMonitor (.scenario scenario))
  | .station call _ => ((), s.handleAtStation cr call)
  | .status index observedAt =>
    match s.statuses[index]? with
    | some status => ((), s.handleAtMonitor (.status observedAt (.ofStatus status)))
    | none => ((), s)
  | .readiness index link =>
    match s.evidence[index]? with
    | some evidence => ((), s.handleAtStation cr ⟨.readiness evidence, link⟩)
    | none => ((), s)
  | .transitionDecision index =>
    match s.decisions[index]? with
    | some decision =>
      ((), { s.handleAtController p (.decision decision) with
        decisions := s.decisions.eraseIdx index })
    | none => ((), s)

abbrev SystemEvent (B : Type) := Run.Event (System B) SystemCall Unit

end Access.Docking
