import Access.Std.Run
import Access.Transitions

/-! # Runs of an engine

The calls a user can make, and what happens in a sequence of them. A run starts with a new engine;
its history has the latest call first. -/

namespace Access

inductive Call (B : Type) where
  | establishSession (nowS : Int64) (scenario : AccessScenario)
  | requestTransition (requestedState : UInt8) (nowS : Int64) (readiness : ReadinessEvidence)
  | redeemTransition (signedGrantHex : String) (requestedState : UInt8) (nowS : Int64)
      (readiness : ReadinessEvidence)
  | enablePersistentState (openFile : String → Except String B)
  | setReplayState (stationReplay chaserReplay gateReplay consumedGrants : ReplayCache B)

inductive Reply where
  | session (result : Except SessionError SessionOutcome)
  | issued (result : Except SessionError TransitionOutcome)
  | redeemed (result : Except SessionError TransitionOutcome)
  | replayState (result : Except SessionError Unit)

/-- The answer of a method and the state it leaves. -/
def answer (wrap : Except SessionError α → Reply) (x : EngineM B α) (s : Host B) :
    Reply × Host B :=
  match x s with
  | .ok a s => (wrap (.ok a), s)
  | .error e s => (wrap (.error e), s)

variable [ReplayStateBackend B] (cr : Crates)

def step (s : Host B) : Call B → Reply × Host B
  | .establishSession nowS scenario => answer .session (establishSession cr nowS scenario) s
  | .requestTransition requestedState nowS readiness =>
    answer .issued (requestTransition cr requestedState nowS readiness) s
  | .redeemTransition signedGrantHex requestedState nowS readiness =>
    answer .redeemed (redeemTransition cr signedGrantHex requestedState nowS readiness) s
  | .enablePersistentState openFile => answer .replayState (enablePersistentState openFile) s
  | .setReplayState stationReplay chaserReplay gateReplay consumedGrants =>
    answer .replayState (setReplayState stationReplay chaserReplay gateReplay consumedGrants) s

abbrev Event (B : Type) := Run.Event (Host B) (Call B) Reply

/-- A new engine; nothing has been signed with it. -/
def Host.new (setup : EngineSetup) : Host B := { engine := AccessEngine.new setup, world := {} }

def history (setup : EngineSetup) (calls : List (Call B)) : List (Event B) :=
  Run.history (step cr) (Host.new setup) calls

/-- The state of the engine and its surroundings after a run. -/
def Host.after (setup : EngineSetup) (calls : List (Call B)) : Host B :=
  Run.state (step cr) (Host.new setup) calls

end Access
