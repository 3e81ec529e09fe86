import Access.ChaserAccess
import Access.StationAccess

/-! # The two nodes and the topics between them

The topics `/access/chaser_to_station` and `/access/station_to_chaser`. What was published on one
stays there, and a delivery picks one of its messages: a message may be late, lost, repeated or
overtaken. The text of a message is read as what was written. -/

namespace Access

open Python

structure Peers (V A : Type) where
  chaser : ChaserAccess.Chaser V
  station : StationAccess.Station A
  chaserToStation : List Json := []
  stationToChaser : List Json := []

/-- What is handled next: a message from elsewhere, or one that the peer has published. -/
inductive PeersCall (ν ρ : Type) where
  | chaser (call : ChaserAccess.ChaserCall ν)
  | station (call : StationAccess.StationCall ρ)
  | toChaser (index : Nat) (link : ν)
  | toStation (index : Nat) (link : ρ)

namespace Peers

/-- The two nodes after their constructors. -/
def start (verifier : V) (station : StationAccess.Station A) : Peers V A where
  chaser := { node := some {}, verifier }
  station := station

variable (verifier : ν → Json → EStateM Error V Json) (authority : ρ → Json → EStateM Error A Json)

/-- The chaser handles a message. -/
def handleAtChaser (p : Peers V A) (call : ChaserAccess.ChaserCall ν) : Peers V A :=
  let (messages, chaser) := ChaserAccess.step verifier p.chaser call
  { p with chaser, chaserToStation := p.chaserToStation ++ messages }

/-- The station handles a message. -/
def handleAtStation (p : Peers V A) (call : StationAccess.StationCall ρ) :
    List StationAccess.TransitionDecision × Peers V A :=
  let (published, station) := StationAccess.step authority p.station call
  (published.decisions.map (·.1),
   { p with station, stationToChaser := p.stationToChaser ++ published.messages })

/-- One delivery, with the decisions it leads to. -/
def step (p : Peers V A) : PeersCall ν ρ → List StationAccess.TransitionDecision × Peers V A
  | .chaser call => ([], p.handleAtChaser verifier call)
  | .station call => p.handleAtStation authority call
  | .toChaser index link =>
    match p.stationToChaser[index]? with
    | some payload => ([], p.handleAtChaser verifier ⟨.stationProtocol (.ok payload), link⟩)
    | none => ([], p)
  | .toStation index link =>
    match p.chaserToStation[index]? with
    | some payload => p.handleAtStation authority ⟨.chaserProtocol (.ok payload), link⟩
    | none => ([], p)

end Peers

end Access
