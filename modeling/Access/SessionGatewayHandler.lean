import Access.SessionGateway

/-! # The handlers of the session gateway

`SessionGatewayHandler` of `session_gateway.py`: each HTTP request has a handler, on a thread of its
own. What a handler does from one access to the pool or to a backend to the next is one step, and
the steps of all handlers are taken in any order. A backend is named by its host and its port.

The leases are numbered as they are made. Their numbers, and what is kept of the leases made and of
the backends prepared, are for the reader only. -/

namespace Access.SessionGatewayHandler

open SessionGateway (SessionPool PoolStatus Acquired)

variable {T : Type}

inductive Method where
  | get
  | post
  deriving DecidableEq, Repr

/-- `sessionId` is what `_session_id` finds in the cookies of the request. -/
structure HttpRequest where
  command : Method
  path : String
  sessionId : Option String

/-- `needs_session` -/
def HttpRequest.needsSession (request : HttpRequest) : Bool :=
  request.path = "/" || "/api/".toList.isPrefixOf request.path.toList

/-- A lease that a request has made. -/
structure Lease where
  number : Nat
  sessionId : String
  backend : String

/-- What a request is forwarded with. One that needs a session has the number of its lease. -/
structure Forward where
  needsSession : Bool
  sessionId : Option String
  backend : String
  created : Bool
  lease : Option Nat

/-- Where the handler of a request is. The `issued` of a request to `/api/prepare` is how many
leases had been made when it was sent. -/
inductive Handler where
  | exhausted
  | created (lease : Lease)
  | preparing (lease : Lease) (issued : Nat)
  | failed (lease : Lease)
  | ready (forward : Forward)

/-- The lease made last under a session id, and whether the request that made it prepares it. -/
structure Made where
  number : Nat
  prepares : Bool

/-- A request to `/api/prepare` that a backend has accepted. -/
structure Prepared where
  backend : String
  issued : Nat

structure Gateway (T : Type) where
  pool : SessionPool T
  handlers : AList fun _ : Nat => Handler := ∅
  leases : Nat := 0
  made : AList fun _ : String => Made := ∅
  prepared : List Prepared := []

def Gateway.new (backends : List String) (idleTimeoutS : T) : Gateway T :=
  { pool := .new backends idleTimeoutS }

inductive GatewayReply where
  | none
  | status (status : PoolStatus)
  | released (released : Bool)
  | exhausted (status : PoolStatus)
  | starting
  | forwarded (forward : Forward)

variable [Sub T] [LT T] [DecidableLT T]

/-- `pool.acquire`, called by a request that prepares the backend of a new lease or does not. -/
def Gateway.acquire (s : Gateway T) (now : T) (sessionId : Option String) (token : String)
    (prepares : Bool) : Acquired × Gateway T :=
  let (result, pool) := s.pool.acquire now sessionId token
  match result.sessionId, result.created with
  | some sessionId, true =>
    (result,
      { s with
        pool
        leases := s.leases + 1
        made := s.made.insert sessionId { number := s.leases, prepares } })
  | _, _ => (result, { s with pool })

/-- `_proxy`, of a path that needs a session, up to its first access to a backend. -/
def Gateway.proxySession (s : Gateway T) (request : HttpRequest) (now : T) (token : String) :
    Handler × Gateway T :=
  let (result, after) := s.acquire now request.sessionId token true
  match result.sessionId, result.backend with
  | some sessionId, some backend =>
    if result.created then (.created { number := s.leases, sessionId, backend }, after)
    else
      (.ready
        { needsSession := true
          sessionId
          backend
          created := false
          lease := (after.made.lookup sessionId).map Made.number },
        after)
  | _, _ => (.exhausted, after)

/-- `_proxy`, of any other path. A lease that `pool.acquire` makes is not prepared. -/
def Gateway.proxyStatic (s : Gateway T) (request : HttpRequest) (now : T) (token first : String) :
    Handler × Gateway T :=
  let ready (backend : String) : Handler :=
    .ready
      { needsSession := false
        sessionId := request.sessionId
        backend
        created := false
        lease := none }
  match request.sessionId with
  | none | some "" => (ready first, s)
  | some sessionId =>
    let (result, after) := s.acquire now sessionId token false
    (ready ((result.backend.filter (· ≠ "")).getD first), after)

/-- The handler of a new request starts. With no backends, `pool.backends[0]` raises. -/
def Gateway.arrive (s : Gateway T) (id : Nat) (request : HttpRequest) (now : T) (token : String) :
    GatewayReply × Gateway T :=
  if request.command = .get ∧ request.path = "/gateway/status" then
    let (status, pool) := s.pool.status now
    (.status status, { s with pool })
  else if request.command = .post ∧ request.path = "/gateway/release" then
    match request.sessionId with
    | none | some "" => (.released false, s)
    | some sessionId => (.released true, { s with pool := s.pool.release sessionId })
  else if request.needsSession then
    let (handler, after) := s.proxySession request now token
    (.none, { after with handlers := after.handlers.insert id handler })
  else
    match s.pool.backends with
    | [] => (.none, s)
    | first :: _ =>
      let (handler, after) := s.proxyStatic request now token first
      (.none, { after with handlers := after.handlers.insert id handler })

/-- The handler of a request that is ready may also end before it forwards it: its body may not be
read. -/
inductive GatewayCall (T : Type) where
  | arrive (id : Nat) (request : HttpRequest) (now : T) (token : String)
  | refuse (id : Nat) (now : T)
  | sendPrepare (id : Nat)
  | prepareAnswered (id : Nat) (accepted : Bool)
  | giveUp (id : Nat)
  | forward (id : Nat)
  | drop (id : Nat)

def Gateway.ended (s : Gateway T) (id : Nat) : Gateway T :=
  { s with handlers := s.handlers.erase id }

def Gateway.goesOn (s : Gateway T) (id : Nat) (handler : Handler) : Gateway T :=
  { s with handlers := s.handlers.insert id handler }

def GatewayCall.id : GatewayCall T → Nat
  | .arrive id _ _ _ | .refuse id _ | .sendPrepare id | .prepareAnswered id _ | .giveUp id
  | .forward id | .drop id => id

/-- A step of the handler with that id. It does nothing where this is not what comes next. -/
def stepHandler (s : Gateway T) (id : Nat) : Handler → GatewayCall T → GatewayReply × Gateway T
  | .exhausted, .refuse _ now =>
    let (status, pool) := s.pool.status now
    (.exhausted status, { s with pool }.ended id)
  | .created lease, .sendPrepare _ => (.none, s.goesOn id (.preparing lease s.leases))
  | .preparing lease issued, .prepareAnswered _ true =>
    let prepared : Prepared := { backend := lease.backend, issued }
    (.none,
      { s with prepared := prepared :: s.prepared }.goesOn id
        (.ready
          { needsSession := true
            sessionId := lease.sessionId
            backend := lease.backend
            created := true
            lease := lease.number }))
  | .preparing lease _, .prepareAnswered _ false => (.none, s.goesOn id (.failed lease))
  | .failed lease, .giveUp _ =>
    (.starting, { s with pool := s.pool.release lease.sessionId }.ended id)
  | .ready forward, .forward _ => (.forwarded forward, s.ended id)
  | .ready _, .drop _ => (.none, s.ended id)
  | _, _ => (.none, s)

def step (s : Gateway T) (call : GatewayCall T) : GatewayReply × Gateway T :=
  match s.handlers.lookup call.id with
  | some handler => stepHandler s call.id handler call
  | none =>
    match call with
    | .arrive id request now token => s.arrive id request now token
    | _ => (.none, s)

abbrev GatewayEvent (T : Type) := Run.Event (Gateway T) (GatewayCall T) GatewayReply

end Access.SessionGatewayHandler
