import Access.SessionGatewayHandler
import Access.Verify.SessionGateway

/-! # Prepared sessions

A lease is prepared by the request that makes it: until its backend has accepted `/api/prepare`, the
lease is in the pool, and the handler of that request is on its way to prepare or to release it
(`Gateway.Sound`). Nothing keeps another request with the same session id from being forwarded
meanwhile, and a request for a static path makes a lease that nobody prepares. Where no request goes
on with such a lease, it finds its backend prepared. -/

namespace Access.SessionGatewayHandler

open SessionGateway (SessionPool newSessionId lookup_expire)

variable {T : Type}

/-- The lease that a handler has made, while it is not prepared or has still to be released. -/
def Handler.making : Handler → Option Lease
  | .created lease | .preparing lease _ | .failed lease => some lease
  | .exhausted | .ready _ => none

/-- The backend has accepted a request to prepare that was sent after the lease was made. -/
def PreparedSince (prepared : List Prepared) (number : Nat) (backend : String) : Prop :=
  ∃ request ∈ prepared, request.backend = backend ∧ number < request.issued

def InPreparation (handlers : AList fun _ : Nat => Handler) (lease : Lease) : Prop :=
  ∃ id handler, handlers.lookup id = some handler ∧ handler.making = some lease

/-- What holds of a handler, given how many leases were made and what was prepared. -/
def Handler.Sound (leases : Nat) (prepared : List Prepared) : Handler → Prop
  | .created lease => lease.number < leases
  | .preparing lease issued => lease.number < issued
  | .ready forward => forward.needsSession = true →
    ∃ number, forward.lease = some number ∧ PreparedSince prepared number forward.backend
  | .exhausted | .failed _ => True

/-- A lease was prepared, or will be by the handler that has made it, if this is what it does. -/
structure Gateway.Sound (s : Gateway T) : Prop where
  handlers : ∀ id handler, s.handlers.lookup id = some handler →
    handler.Sound s.leases s.prepared
  leases : ∀ sessionId lease, s.pool.leases.lookup sessionId = some lease →
    ∃ made, s.made.lookup sessionId = some made ∧
      (made.prepares = true → PreparedSince s.prepared made.number lease.1 ∨
        InPreparation s.handlers { number := made.number, sessionId, backend := lease.1 })

variable {s : Gateway T} {id : Nat} {handler : Handler}

theorem Handler.Sound.mono {leases leases' : Nat} {prepared prepared' : List Prepared}
    (h : handler.Sound leases prepared) (le : leases ≤ leases') (sub : prepared ⊆ prepared') :
    handler.Sound leases' prepared' := by
  cases handler with
  | exhausted | failed => trivial
  | created lease => exact lt_of_lt_of_le h le
  | preparing lease issued => exact h
  | ready forward =>
    intro needs
    obtain ⟨number, has, request, mem, found⟩ := h needs
    exact ⟨number, has, request, sub mem, found⟩

theorem sound_new (backends : List String) (idleTimeoutS : T) :
    (Gateway.new backends idleTimeoutS).Sound where
  handlers := by
    intro id handler found
    cases found
  leases := by
    intro sessionId lease found
    cases found

/-! ### Handlers that start, go on and end -/

theorem InPreparation.insert {handlers : AList fun _ : Nat => Handler} {lease : Lease}
    (h : InPreparation handlers lease) (free : handlers.lookup id = none) :
    InPreparation (handlers.insert id handler) lease := by
  obtain ⟨other, found, has, making⟩ := h
  have ne : other ≠ id := by
    intro same
    cases same
    cases free.symm.trans has
  exact ⟨other, found, (AList.lookup_insert_ne ne).trans has, making⟩

/-- A handler that goes on with the lease it makes. -/
theorem InPreparation.goesOn {handlers : AList fun _ : Nat => Handler} {lease : Lease}
    {next : Handler} (h : InPreparation handlers lease) (found : handlers.lookup id = some handler)
    (same : next.making = handler.making) : InPreparation (handlers.insert id next) lease := by
  obtain ⟨other, found', has, making⟩ := h
  by_cases eq : other = id
  · cases eq
    cases found.symm.trans has
    exact ⟨_, next, AList.lookup_insert _, same.trans making⟩
  · exact ⟨other, found', (AList.lookup_insert_ne eq).trans has, making⟩

/-- The leases of the other handlers, when one ends. -/
theorem InPreparation.erase {handlers : AList fun _ : Nat => Handler} {lease : Lease}
    (h : InPreparation handlers lease) (found : handlers.lookup id = some handler)
    (ne : handler.making ≠ some lease) : InPreparation (handlers.erase id) lease := by
  obtain ⟨other, found', has, making⟩ := h
  have differ : other ≠ id := by
    intro same
    cases same
    cases found.symm.trans has
    exact ne making
  exact ⟨other, found', (AList.lookup_erase_ne differ).trans has, making⟩

theorem Gateway.Sound.insert_handlers (h : s.Sound)
    (sound : handler.Sound s.leases s.prepared) (other : Nat) (found : Handler)
    (has : (s.handlers.insert id handler).lookup other = some found) :
    found.Sound s.leases s.prepared := by
  by_cases eq : other = id
  · cases eq
    rw [AList.lookup_insert] at has
    cases has
    exact sound
  · rw [AList.lookup_insert_ne eq] at has
    exact h.handlers other found has

theorem Gateway.Sound.starts (h : s.Sound) (free : s.handlers.lookup id = none)
    (sound : handler.Sound s.leases s.prepared) :
    Gateway.Sound { s with handlers := s.handlers.insert id handler } where
  handlers := h.insert_handlers sound
  leases sessionId lease has := by
    obtain ⟨made, known, kept⟩ := h.leases sessionId lease has
    refine ⟨made, known, ?_⟩
    intro prepares
    exact (kept prepares).imp_right fun making => making.insert free

theorem Gateway.Sound.goesOn (h : s.Sound) {next : Handler}
    (found : s.handlers.lookup id = some handler) (same : next.making = handler.making)
    (sound : next.Sound s.leases s.prepared) : (s.goesOn id next).Sound where
  handlers := h.insert_handlers sound
  leases sessionId lease has := by
    obtain ⟨made, known, kept⟩ := h.leases sessionId lease has
    refine ⟨made, known, ?_⟩
    intro prepares
    exact (kept prepares).imp_right fun making => making.goesOn found same

theorem Gateway.Sound.ended_handlers (h : s.Sound) (other : Nat) (found : Handler)
    (has : (s.handlers.erase id).lookup other = some found) :
    found.Sound s.leases s.prepared :=
  h.handlers other found (AList.lookup_of_erase id other found has)

theorem Gateway.Sound.ended (h : s.Sound) (found : s.handlers.lookup id = some handler)
    (idle : handler.making = none) : (s.ended id).Sound where
  handlers := h.ended_handlers
  leases sessionId lease has := by
    obtain ⟨made, known, kept⟩ := h.leases sessionId lease has
    refine ⟨made, known, ?_⟩
    intro prepares
    refine (kept prepares).imp_right fun making => making.erase found ?_
    rw [idle]
    exact (Option.some_ne_none _).symm

/-- The backend of a lease has been prepared. -/
theorem Gateway.Sound.prepared (h : s.Sound) {lease : Lease} {issued : Nat} {forward : Forward}
    (found : s.handlers.lookup id = some (.preparing lease issued))
    (backend : forward.backend = lease.backend) (number : forward.lease = some lease.number) :
    ({ s with prepared := { backend := lease.backend, issued } :: s.prepared }.goesOn id
      (.ready forward)).Sound := by
  have since : lease.number < issued := h.handlers id _ found
  refine ⟨?_, ?_⟩
  · intro other handler has
    by_cases eq : other = id
    · cases eq
      rw [Gateway.goesOn, AList.lookup_insert] at has
      cases has
      intro _
      exact ⟨lease.number, number, _, .head _, backend.symm, since⟩
    · rw [Gateway.goesOn, AList.lookup_insert_ne eq] at has
      exact (h.handlers other handler has).mono le_rfl (List.subset_cons_self _ _)
  · intro sessionId held has
    obtain ⟨made, known, kept⟩ := h.leases sessionId held has
    refine ⟨made, known, ?_⟩
    intro prepares
    rcases kept prepares with ⟨request, mem, answered⟩ | ⟨other, found', has', making⟩
    · exact .inl ⟨request, .tail _ mem, answered⟩
    · by_cases eq : other = id
      · -- The handler that was preparing this very lease.
        cases eq
        cases found.symm.trans has'
        cases making
        exact .inl ⟨_, .head _, rfl, since⟩
      · exact .inr ⟨other, found', (AList.lookup_insert_ne eq).trans has', making⟩

/-! ### The pool -/

/-- The leases of a pool are some of those there were, renewed or not. -/
theorem Gateway.Sound.withPool (h : s.Sound) {pool : SessionPool T}
    (kept : ∀ sessionId lease, pool.leases.lookup sessionId = some lease →
      ∃ since, s.pool.leases.lookup sessionId = some (lease.1, since)) :
    Gateway.Sound { s with pool } where
  handlers := h.handlers
  leases sessionId lease has := by
    obtain ⟨since, before⟩ := kept sessionId lease has
    exact h.leases sessionId (lease.1, since) before

theorem Gateway.Sound.release (h : s.Sound) (sessionId : String) :
    Gateway.Sound { s with pool := s.pool.release sessionId } := by
  apply h.withPool
  intro other lease has
  exact ⟨lease.2, AList.lookup_of_erase sessionId other lease has⟩

/-- A handler whose request to prepare has failed releases its lease, and ends. -/
theorem Gateway.Sound.givenUp (h : s.Sound) {lease : Lease}
    (found : s.handlers.lookup id = some (.failed lease)) :
    ({ s with pool := s.pool.release lease.sessionId }.ended id).Sound where
  handlers := h.ended_handlers
  leases sessionId held has := by
    have other : sessionId ≠ lease.sessionId := by
      intro same
      cases same
      have gone := AList.lookup_erase lease.sessionId s.pool.leases
      cases gone.symm.trans has
    obtain ⟨made, known, kept⟩ :=
      h.leases sessionId held (AList.lookup_of_erase lease.sessionId sessionId held has)
    refine ⟨made, known, ?_⟩
    intro prepares
    refine (kept prepares).imp_right fun making => making.erase found ?_
    intro same
    cases same
    exact other rfl

variable [Sub T] [LT T] [DecidableLT T] {now : T} {sessionId : Option String} {token : String}
  {prepares : Bool}

theorem Gateway.Sound.expire (h : s.Sound) :
    Gateway.Sound { s with pool := s.pool.expire now } := by
  apply h.withPool
  intro other lease has
  exact ⟨lease.2, (lookup_expire.mp has).1⟩

/-- What `acquire` can do: renew a lease, make one, or find no backend. -/
theorem acquire_cases (s : Gateway T) (now : T) (sessionId : Option String) (token : String)
    (prepares : Bool) :
    (∃ id backend since, sessionId = some id ∧
      s.pool.leases.lookup id = some (backend, since) ∧
      s.pool.unexpired now (backend, since) = true ∧
      s.acquire now sessionId token prepares = (⟨some id, some backend, false⟩,
        { s with
          pool := { s.pool.expire now with
            leases := (s.pool.expire now).leases.insert id (backend, now) } })) ∨
    (∃ id backend,
      s.acquire now sessionId token prepares = (⟨some id, some backend, true⟩,
        { s with
          pool := { s.pool.expire now with
            leases := (s.pool.expire now).leases.insert id (backend, now) }
          leases := s.leases + 1
          made := s.made.insert id { number := s.leases, prepares } })) ∨
    s.acquire now sessionId token prepares =
      (⟨none, none, false⟩, { s with pool := s.pool.expire now }) := by
  rcases SessionGateway.acquire_cases s.pool now sessionId token with
    ⟨id, backend, since, asked, lease, live, eq⟩ | ⟨backend, -, -, -, eq⟩ | ⟨-, -, eq⟩
  · refine .inl ⟨id, backend, since, asked, lease, live, ?_⟩
    simp only [Gateway.acquire, eq]
  · refine .inr (.inl ⟨newSessionId sessionId token, backend, ?_⟩)
    simp only [Gateway.acquire, eq]
  · refine .inr (.inr ?_)
    simp only [Gateway.acquire, eq]

theorem Gateway.Sound.renew (h : s.Sound) {id backend : String} {since : T}
    (lease : s.pool.leases.lookup id = some (backend, since)) :
    Gateway.Sound { s with
      pool := { s.pool.expire now with
        leases := (s.pool.expire now).leases.insert id (backend, now) } } := by
  apply h.withPool
  intro other held has
  by_cases eq : other = id
  · cases eq
    rw [AList.lookup_insert] at has
    cases has
    exact ⟨since, lease⟩
  · rw [AList.lookup_insert_ne eq] at has
    exact ⟨held.2, (lookup_expire.mp has).1⟩

/-- A lease under `sessionId` is made by the request whose handler is the one with that id. -/
theorem Gateway.Sound.make (h : s.Sound) (free : s.handlers.lookup id = none)
    {sessionId backend : String}
    (sound : handler.Sound (s.leases + 1) s.prepared)
    (making : prepares = true →
      handler.making = some { number := s.leases, sessionId, backend }) :
    Gateway.Sound { s with
      pool := { s.pool.expire now with
        leases := (s.pool.expire now).leases.insert sessionId (backend, now) }
      leases := s.leases + 1
      made := s.made.insert sessionId { number := s.leases, prepares }
      handlers := s.handlers.insert id handler } where
  handlers other found has := by
    by_cases eq : other = id
    · cases eq
      rw [AList.lookup_insert] at has
      cases has
      exact sound
    · rw [AList.lookup_insert_ne eq] at has
      exact (h.handlers other found has).mono (Nat.le_succ _) (List.Subset.refl _)
  leases other lease has := by
    by_cases eq : other = sessionId
    · cases eq
      rw [AList.lookup_insert] at has
      cases has
      refine ⟨_, AList.lookup_insert _, ?_⟩
      intro prepares
      exact .inr ⟨id, handler, AList.lookup_insert _, making prepares⟩
    · rw [AList.lookup_insert_ne eq] at has
      obtain ⟨made, known, kept⟩ := h.leases other lease (lookup_expire.mp has).1
      refine ⟨made, (AList.lookup_insert_ne eq).trans known, ?_⟩
      intro prepares
      exact (kept prepares).imp_right fun making => making.insert free

/-! ### New requests -/

/-- A request that needs a session goes on with a lease that there is already only where the request
that made it prepares it, and is not on its way to prepare or to release it. -/
def Careful (e : GatewayEvent T) : Prop :=
  ∀ id request now token, e.call = .arrive id request now token → request.needsSession = true →
  ∀ sessionId lease, request.sessionId = some sessionId →
    e.before.pool.leases.lookup sessionId = some lease →
    e.before.pool.unexpired now lease = true →
  ∀ made, e.before.made.lookup sessionId = some made →
    made.prepares = true ∧
    ∀ lease, InPreparation e.before.handlers lease → lease.number ≠ made.number

theorem Gateway.Sound.proxySession (h : s.Sound) (free : s.handlers.lookup id = none)
    {request : HttpRequest} (needs : request.needsSession = true)
    (careful : Careful (Run.event step s (.arrive id request now token))) :
    Gateway.Sound { (s.proxySession request now token).2 with
      handlers := (s.proxySession request now token).2.handlers.insert id
        (s.proxySession request now token).1 } := by
  rcases acquire_cases s now request.sessionId token true with
    ⟨sessionId, backend, since, asked, lease, live, eq⟩ | ⟨sessionId, backend, eq⟩ | eq
  · simp only [Gateway.proxySession, eq]
    apply (h.renew lease).starts free
    intro _
    obtain ⟨made, known, kept⟩ := h.leases sessionId _ lease
    refine ⟨made.number, congrArg (Option.map Made.number) known, ?_⟩
    obtain ⟨prepares, settled⟩ :=
      careful id request now token rfl needs sessionId _ asked lease live made known
    rcases kept prepares with prepared | making
    · exact prepared
    · exact absurd rfl (settled _ making)
  · simp only [Gateway.proxySession, eq]
    apply h.make free
    · exact Nat.lt_succ_self _
    · intro _
      rfl
  · simp only [Gateway.proxySession, eq]
    exact h.expire.starts free trivial

theorem Gateway.Sound.proxyStatic (h : s.Sound) (free : s.handlers.lookup id = none)
    {request : HttpRequest} {first : String} :
    Gateway.Sound { (s.proxyStatic request now token first).2 with
      handlers := (s.proxyStatic request now token first).2.handlers.insert id
        (s.proxyStatic request now token first).1 } := by
  simp only [Gateway.proxyStatic]
  split
  · exact h.starts free Bool.noConfusion
  · exact h.starts free Bool.noConfusion
  · rename_i asked _ _
    rcases acquire_cases s now (some asked) token false with
      ⟨sessionId, backend, since, -, lease, -, eq⟩ | ⟨sessionId, backend, eq⟩ | eq
    · simp only [eq]
      exact (h.renew lease).starts free Bool.noConfusion
    · simp only [eq]
      exact h.make free Bool.noConfusion Bool.noConfusion
    · simp only [eq]
      exact h.expire.starts free Bool.noConfusion

theorem Gateway.Sound.arrive (h : s.Sound) (free : s.handlers.lookup id = none)
    {request : HttpRequest}
    (careful : Careful (Run.event step s (.arrive id request now token))) :
    (s.arrive id request now token).2.Sound := by
  unfold Gateway.arrive
  split
  · exact h.expire
  · split
    · split
      · exact h
      · exact h
      · exact h.release _
    · split
      · rename_i needs
        exact h.proxySession free needs careful
      · split
        · exact h
        · exact h.proxyStatic free

theorem Gateway.Sound.stepHandler (h : s.Sound) (found : s.handlers.lookup id = some handler)
    (call : GatewayCall T) : (stepHandler s id handler call).2.Sound := by
  unfold SessionGatewayHandler.stepHandler
  split
  · refine Gateway.Sound.ended ?_ found rfl
    exact h.expire
  · have made : Handler.Sound s.leases s.prepared (.created _) := h.handlers id _ found
    exact h.goesOn found rfl made
  · exact h.prepared found rfl rfl
  · exact h.goesOn found rfl trivial
  · exact h.givenUp found
  · exact h.ended found rfl
  · exact h.ended found rfl
  · exact h

theorem Gateway.Sound.after_step (h : s.Sound) {call : GatewayCall T}
    (careful : Careful (Run.event step s call)) : (step s call).2.Sound := by
  unfold step
  split
  · rename_i found
    exact h.stepHandler found call
  · rename_i free
    split
    · exact h.arrive free careful
    · exact h

/-! ### What is forwarded -/

/-- A request that needs a session is forwarded to a backend that was prepared since its lease was
made. -/
def ForwardsPrepared (e : GatewayEvent T) : Prop :=
  ∀ forward, e.reply = .forwarded forward → forward.needsSession = true →
    ∃ number, forward.lease = some number ∧
      PreparedSince e.before.prepared number forward.backend

theorem Gateway.Sound.forwardsPrepared (h : s.Sound) (call : GatewayCall T) :
    ForwardsPrepared (Run.event step s call) := by
  intro forward told
  have found : s.handlers.lookup call.id = some (.ready forward) := by
    simp only [Run.event, step] at told
    split at told
    · rename_i handler found
      unfold SessionGatewayHandler.stepHandler at told
      split at told <;> cases told
      exact found
    · split at told
      · unfold Gateway.arrive at told
        split at told
        · cases told
        · split at told
          · split at told <;> cases told
          · split at told
            · cases told
            · split at told <;> cases told
      · cases told
  exact h.handlers call.id _ found

/-- In every run of the gateway, with the steps of all handlers in any order: where no request goes
on with a lease that is not prepared, every request for the root or the API is forwarded to a
backend that was prepared since the lease of the request was made. -/
theorem forwards_to_prepared (backends : List String) (idleTimeoutS : T)
    (calls : List (GatewayCall T))
    (careful : ∀ e ∈ Run.history step (.new backends idleTimeoutS) calls, Careful e) :
    ∀ e ∈ Run.history step (.new backends idleTimeoutS) calls, ForwardsPrepared e := by
  have run : (Run.state step (.new backends idleTimeoutS) calls).Sound ∧
      ∀ e ∈ Run.history step (.new backends idleTimeoutS) calls, ForwardsPrepared e := by
    induction calls with
    | nil =>
      refine ⟨sound_new backends idleTimeoutS, ?_⟩
      intro e he
      cases he
    | cons call calls ih =>
      obtain ⟨sound, forwarded⟩ := ih fun e he => careful e (.tail _ he)
      refine ⟨sound.after_step (careful _ (.head _)), ?_⟩
      intro e he
      rcases List.mem_cons.mp he with rfl | he
      · exact sound.forwardsPrepared call
      · exact forwarded e he
  exact run.2

def root (sessionId : Option String) : HttpRequest where
  command := .get
  path := "/"
  sessionId := sessionId

/-- A new session, which comes back when it is prepared. -/
def newSession : List (GatewayCall Int) :=
  [.arrive 1 (root (some "a")) 1 "", .forward 0, .prepareAnswered 0 true, .sendPrepare 0,
    .arrive 0 (root none) 0 "a"]

theorem forwards_to_prepared_new :
    ForwardsPrepared (Run.event step
      (Run.state step (.new ["one:8080"] (60 : Int)) newSession) (.forward 1)) := by
  refine forwards_to_prepared ["one:8080"] (60 : Int) (.forward 1 :: newSession) ?_ _ (.head _)
  intro e he id request now token asked needs sessionId lease cookie held live made known
  rcases List.mem_cons.mp he with rfl | he
  · cases asked
  · rcases List.mem_cons.mp he with rfl | he
    · cases asked
      cases cookie
      cases known
      refine ⟨rfl, ?_⟩
      rintro lease ⟨other, handler, found, -⟩
      cases found
    · simp only [Run.history, List.mem_cons, List.not_mem_nil, or_false] at he
      rcases he with rfl | rfl | rfl | rfl
      · cases asked
      · cases asked
      · cases asked
      · cases asked
        cases cookie

/-- A file of the page, for a browser that has an old cookie. -/
def appJs : HttpRequest where
  command := .get
  path := "/app.js"
  sessionId := some "a"

/-- The lease that a request for a static path makes is used by the next request. -/
theorem static_lease_not_prepared :
    ¬∀ (backends : List String) (idleTimeoutS : Int) (calls : List (GatewayCall Int)),
      ∀ e ∈ Run.history step (.new backends idleTimeoutS) calls, ForwardsPrepared e := by
  intro H
  obtain ⟨number, -, request, mem, -⟩ :=
    H ["one:8080"] 60 [.forward 1, .arrive 1 (root (some "a")) 1 "", .arrive 0 appJs 0 ""] _
      (.head _) _ rfl rfl
  cases mem

end Access.SessionGatewayHandler
