import Access.Std.Run
import Access.Std.Table

/-! # The session gateway

`SessionPool` of `session_gateway.py`: which session has which backend, and since when it has been
idle. The clock is only subtracted and compared, so its readings are of any type that can be.
A method is given the reading of `time.monotonic()` it makes and, where it asks for one, the value
of `secrets.token_urlsafe`. -/

namespace Access.SessionGateway

variable {T : Type}

structure SessionPool (T : Type) where
  backends : List String
  idleTimeoutS : T
  leases : AList fun _ : String => String × T := ∅

def SessionPool.new (backends : List String) (idleTimeoutS : T) : SessionPool T :=
  { backends, idleTimeoutS }

variable [Sub T] [LT T] [DecidableLT T]

/-- A lease renewed at `lease.2` has not been idle for too long. -/
def SessionPool.unexpired (pool : SessionPool T) (now : T) (lease : String × T) : Bool :=
  now - lease.2 < pool.idleTimeoutS

def SessionPool.expire (pool : SessionPool T) (now : T) : SessionPool T :=
  { pool with leases := pool.leases.keep (pool.unexpired now) }

/-- The session id, its backend, and whether the lease is a new one. -/
structure Acquired where
  sessionId : Option String
  backend : Option String
  created : Bool
  deriving DecidableEq, Repr

def SessionPool.leasedBackends (pool : SessionPool T) : List String :=
  pool.leases.entries.map fun entry => entry.2.1

/-- `session_id in self.leases`; no lease is under `None`. -/
def SessionPool.held (pool : SessionPool T) : Option String → Option (String × String × T)
  | none => none
  | some sessionId => (pool.leases.lookup sessionId).map fun lease => (sessionId, lease)

/-- `session_id or secrets.token_urlsafe(24)`; an empty id is false. -/
def newSessionId (sessionId : Option String) (token : String) : String :=
  match sessionId with
  | some sessionId => if sessionId = "" then token else sessionId
  | none => token

def SessionPool.acquire (pool : SessionPool T) (now : T) (sessionId : Option String)
    (token : String) : Acquired × SessionPool T :=
  let pool := pool.expire now
  match pool.held sessionId with
  | some (sessionId, backend, _) =>
    ({ sessionId := some sessionId, backend := some backend, created := false },
      { pool with leases := pool.leases.insert sessionId (backend, now) })
  | none =>
    match pool.backends.find? fun candidate => candidate ∉ pool.leasedBackends with
    | none => ({ sessionId := none, backend := none, created := false }, pool)
    | some backend =>
      let sessionId := newSessionId sessionId token
      ({ sessionId := some sessionId, backend := some backend, created := true },
        { pool with leases := pool.leases.insert sessionId (backend, now) })

structure PoolStatus where
  capacity : Nat
  activeSessions : Nat
  deriving DecidableEq, Repr

def SessionPool.status (pool : SessionPool T) (now : T) : PoolStatus × SessionPool T :=
  let pool := pool.expire now
  ({ capacity := pool.backends.length, activeSessions := pool.leases.entries.length }, pool)

/-- `self.leases.pop(session_id, None)`. -/
def SessionPool.release (pool : SessionPool T) : Option String → SessionPool T
  | none => pool
  | some sessionId => { pool with leases := pool.leases.erase sessionId }

inductive PoolCall (T : Type) where
  | acquire (now : T) (sessionId : Option String) (token : String)
  | status (now : T)
  | release (sessionId : Option String)

inductive PoolReply where
  | acquired (result : Acquired)
  | status (result : PoolStatus)
  | released
  deriving DecidableEq, Repr

def step (pool : SessionPool T) : PoolCall T → PoolReply × SessionPool T
  | .acquire now sessionId token =>
    let (result, pool) := pool.acquire now sessionId token
    (.acquired result, pool)
  | .status now =>
    let (result, pool) := pool.status now
    (.status result, pool)
  | .release sessionId => (.released, pool.release sessionId)

/-- The clock a call reads; `release` reads none. -/
def PoolCall.now? : PoolCall T → Option T
  | .acquire now _ _ | .status now => some now
  | .release _ => none

abbrev PoolEvent (T : Type) := Run.Event (SessionPool T) (PoolCall T) PoolReply

end Access.SessionGateway
