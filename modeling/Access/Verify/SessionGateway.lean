import Access.SessionGateway

/-! # The session pool

No two leases share a backend, and every leased backend is one of the pool's: `Sound`. It is kept by
every operation, since each only drops leases, renews one, or leases a backend that no lease has.
Nothing here depends on how the clock runs. -/

namespace Access.SessionGateway

variable {T : Type}

/-- The ids that a call makes up are not in use. -/
def PoolCall.Unused (pool : SessionPool T) : PoolCall T → Prop
  | .acquire _ _ token => token ∉ pool.leases
  | .status _ | .release _ => True

instance (pool : SessionPool T) (call : PoolCall T) : Decidable (call.Unused pool) := by
  cases call <;> unfold PoolCall.Unused <;> infer_instance

structure SessionPool.Sound (backends : List String) (pool : SessionPool T) : Prop where
  exclusive : pool.leases.Exclusive Prod.fst
  within : pool.leases.Within Prod.fst backends
  backends_eq : pool.backends = backends

variable {backends : List String} {pool : SessionPool T} {now : T}

theorem held_eq_some {sessionId : Option String} {id : String} {lease : String × T} :
    pool.held sessionId = some (id, lease) ↔
      sessionId = some id ∧ pool.leases.lookup id = some lease := by
  cases sessionId with
  | none => simp [SessionPool.held]
  | some sessionId =>
    simp only [SessionPool.held, Option.map_eq_some_iff, Prod.mk.injEq, Option.some.injEq]
    constructor
    · rintro ⟨lease', h, rfl, rfl⟩
      exact ⟨rfl, h⟩
    · rintro ⟨rfl, h⟩
      exact ⟨lease, h, rfl, rfl⟩

/-- An id that is not held has no lease. -/
theorem ne_of_held_eq_none {sessionId : Option String} {id : String} {lease : String × T}
    (free : pool.held sessionId = none) (leased : pool.leases.lookup id = some lease) :
    sessionId ≠ some id := by
  intro asked
  rw [held_eq_some.mpr ⟨asked, leased⟩] at free
  cases free

theorem mem_leasedBackends {backend : String} :
    backend ∈ pool.leasedBackends ↔
      ∃ id lease, pool.leases.lookup id = some lease ∧ lease.1 = backend := by
  simp only [SessionPool.leasedBackends, List.mem_map, Sigma.exists, ← Option.mem_def,
    AList.mem_lookup_iff]

theorem sound_new (backends : List String) (idleTimeoutS : T) :
    (SessionPool.new backends idleTimeoutS).Sound backends :=
  ⟨AList.exclusive_empty, AList.within_empty, rfl⟩

theorem SessionPool.Sound.insert (h : pool.Sound backends) {id backend : String}
    (mem : backend ∈ backends)
    (free : ∀ id' lease, pool.leases.lookup id' = some lease → lease.1 = backend → id' = id) :
    SessionPool.Sound backends { pool with leases := pool.leases.insert id (backend, now) } where
  exclusive := h.exclusive.insert free
  within := h.within.insert mem
  backends_eq := h.backends_eq

theorem SessionPool.Sound.release (h : pool.Sound backends) (sessionId : Option String) :
    (pool.release sessionId).Sound backends := by
  cases sessionId with
  | none => exact h
  | some id =>
    exact ⟨h.exclusive.mono (AList.lookup_of_erase id), h.within.mono (AList.lookup_of_erase id),
      h.backends_eq⟩

variable [Sub T] [LT T] [DecidableLT T]

/-! ### What each operation does -/

@[simp] theorem expire_backends : (pool.expire now).backends = pool.backends := rfl

@[simp] theorem lookup_expire {id : String} {lease : String × T} :
    (pool.expire now).leases.lookup id = some lease ↔
      pool.leases.lookup id = some lease ∧ pool.unexpired now lease = true :=
  AList.lookup_keep_eq_some

theorem SessionPool.Sound.expire (h : pool.Sound backends) : (pool.expire now).Sound backends where
  exclusive := h.exclusive.mono AList.lookup_of_keep
  within := h.within.mono AList.lookup_of_keep
  backends_eq := h.backends_eq

/-- What `acquire` can do: renew a lease, lease a free backend, or find none. -/
theorem acquire_cases (pool : SessionPool T) (now : T) (sessionId : Option String)
    (token : String) :
    (∃ id backend since, sessionId = some id ∧
      pool.leases.lookup id = some (backend, since) ∧
      pool.unexpired now (backend, since) = true ∧
      pool.acquire now sessionId token = (⟨some id, some backend, false⟩,
        { pool.expire now with leases := (pool.expire now).leases.insert id (backend, now) })) ∨
    (∃ backend, (pool.expire now).held sessionId = none ∧ backend ∈ pool.backends ∧
      backend ∉ (pool.expire now).leasedBackends ∧
      pool.acquire now sessionId token = (⟨some (newSessionId sessionId token), some backend, true⟩,
        { pool.expire now with
          leases := (pool.expire now).leases.insert (newSessionId sessionId token)
            (backend, now) })) ∨
    ((pool.expire now).held sessionId = none ∧
      (∀ backend ∈ pool.backends, backend ∈ (pool.expire now).leasedBackends) ∧
      pool.acquire now sessionId token = (⟨none, none, false⟩, pool.expire now)) := by
  cases held : (pool.expire now).held sessionId with
  | some found =>
    obtain ⟨id, backend, since⟩ := found
    obtain ⟨hid, hlease⟩ := held_eq_some.mp held
    rw [lookup_expire] at hlease
    left
    refine ⟨id, backend, since, hid, hlease.1, hlease.2, ?_⟩
    simp only [SessionPool.acquire, held]
  | none =>
    right
    cases found : pool.backends.find? fun candidate =>
        candidate ∉ (pool.expire now).leasedBackends with
    | some backend =>
      left
      have free := List.find?_some found
      refine ⟨backend, rfl, List.mem_of_find?_eq_some found, of_decide_eq_true free, ?_⟩
      simp only [SessionPool.acquire, held, expire_backends, found]
    | none =>
      right
      refine ⟨rfl, ?_, ?_⟩
      · intro backend hb
        have taken := List.find?_eq_none.mp found backend hb
        simpa using taken
      · simp only [SessionPool.acquire, held, expire_backends, found]

/-- A made up id is only taken when nobody has it; an id that is asked for was not held. -/
theorem newSessionId_not_held {sessionId : Option String} {token : String}
    (unused : token ∉ pool.leases) (held : (pool.expire now).held sessionId = none) {id : String}
    {lease : String × T} (h : pool.leases.lookup id = some lease)
    (live : pool.unexpired now lease = true) : newSessionId sessionId token ≠ id := by
  intro same
  have leased : (pool.expire now).leases.lookup id = some lease := lookup_expire.mpr ⟨h, live⟩
  have not_token : token ≠ id := by
    intro e
    apply unused
    rw [e, ← AList.lookup_isSome, h]
    rfl
  cases sessionId with
  | none => exact not_token same
  | some sessionId =>
    simp only [newSessionId] at same
    split at same
    · exact not_token same
    · exact ne_of_held_eq_none held leased (congrArg some same)

/-! ### What every operation keeps -/

theorem SessionPool.Sound.acquire (h : pool.Sound backends) (sessionId : Option String)
    (token : String) : (pool.acquire now sessionId token).2.Sound backends := by
  have kept : (pool.expire now).Sound backends := h.expire
  obtain ⟨id, backend, since, -, lease, live, eq⟩ | ⟨backend, -, mem, free, eq⟩ | ⟨-, -, eq⟩ :=
    acquire_cases pool now sessionId token
  · rw [eq]
    have held : (pool.expire now).leases.lookup id = some (backend, since) :=
      lookup_expire.mpr ⟨lease, live⟩
    apply kept.insert (kept.within held)
    intro id' lease' h' same
    exact kept.exclusive h' held same
  · rw [eq]
    apply kept.insert (h.backends_eq ▸ mem)
    intro id' lease' h' same
    exact absurd (mem_leasedBackends.mpr ⟨id', lease', h', same⟩) free
  · rw [eq]
    exact kept

theorem SessionPool.Sound.next (h : pool.Sound backends) (call : PoolCall T) :
    (step pool call).2.Sound backends := by
  cases call with
  | acquire now sessionId token => exact h.acquire sessionId token
  | status now => exact h.expire
  | release sessionId => exact h.release sessionId

/-! ### One session -/

/-- The call neither releases the session nor finds its lease expired. -/
def Spares (id : String) (e : PoolEvent T) : Prop :=
  e.call ≠ .release (some id) ∧
  ∀ now ∈ e.call.now?, ∀ lease, e.before.leases.lookup id = some lease →
    e.before.unexpired now lease = true

/-- A session that a call spares has the same backend after it, and is told so when it asks. -/
theorem step_spares {id backend : String} {since : T} {call : PoolCall T}
    (unused : call.Unused pool) (lease : pool.leases.lookup id = some (backend, since))
    (spares : Spares id (Run.event step pool call)) :
    (∃ since', (step pool call).2.leases.lookup id = some (backend, since')) ∧
    ∀ now token, call = .acquire now (some id) token →
      (step pool call).1 = .acquired ⟨some id, some backend, false⟩ := by
  obtain ⟨kept, live⟩ := spares
  cases call with
  | acquire now sessionId token =>
    have live : pool.unexpired now (backend, since) = true := live now rfl _ lease
    have held : (pool.expire now).leases.lookup id = some (backend, since) :=
      lookup_expire.mpr ⟨lease, live⟩
    simp only [step]
    obtain ⟨id', backend', since', hid, lease', -, eq⟩ | ⟨other, free, -, -, eq⟩ |
      ⟨free, -, eq⟩ := acquire_cases pool now sessionId token
    · rw [eq]
      by_cases same : id = id'
      · subst same
        rw [lease] at lease'
        cases lease'
        refine ⟨⟨now, AList.lookup_insert _⟩, ?_⟩
        intro _ _ _
        rfl
      · refine ⟨⟨since, by rw [AList.lookup_insert_ne same, held]⟩, ?_⟩
        intro _ _ asked
        cases asked
        cases hid
        exact absurd rfl same
    · rw [eq]
      have ne := newSessionId_not_held unused free lease live
      refine ⟨⟨since, by rw [AList.lookup_insert_ne ne.symm, held]⟩, ?_⟩
      intro _ _ asked
      cases asked
      exact absurd rfl (ne_of_held_eq_none free held)
    · rw [eq]
      refine ⟨⟨since, held⟩, ?_⟩
      intro _ _ asked
      cases asked
      exact absurd rfl (ne_of_held_eq_none free held)
  | status now =>
    have live : pool.unexpired now (backend, since) = true := live now rfl _ lease
    refine ⟨⟨since, lookup_expire.mpr ⟨lease, live⟩⟩, ?_⟩
    intro _ _ asked
    cases asked
  | release sessionId =>
    refine ⟨⟨since, ?_⟩, ?_⟩
    · cases sessionId with
      | none => exact lease
      | some gone =>
        have ne : id ≠ gone := by
          intro e
          subst e
          exact kept rfl
        exact (AList.lookup_erase_ne ne).trans lease
    · intro _ _ asked
      cases asked

/-- A session keeps its backend through calls that spare it. -/
theorem run_spares {id backend : String} {since : T} (calls : List (PoolCall T))
    (unused : ∀ e ∈ Run.history step pool calls, e.call.Unused e.before)
    (lease : pool.leases.lookup id = some (backend, since))
    (spares : ∀ e ∈ Run.history step pool calls, Spares id e) :
    (∃ since', (Run.state step pool calls).leases.lookup id = some (backend, since')) ∧
    ∀ e ∈ Run.history step pool calls, ∀ now token, e.call = .acquire now (some id) token →
      e.reply = .acquired ⟨some id, some backend, false⟩ := by
  induction calls with
  | nil =>
    refine ⟨⟨since, lease⟩, ?_⟩
    intro e he
    cases he
  | cons call calls ih =>
    obtain ⟨⟨since', lease'⟩, told⟩ := ih
      (fun e he => unused e (List.mem_cons_of_mem _ he))
      (fun e he => spares e (List.mem_cons_of_mem _ he))
    obtain ⟨after, told'⟩ :=
      step_spares (unused _ (List.mem_cons_self ..)) lease' (spares _ (List.mem_cons_self ..))
    refine ⟨after, ?_⟩
    intro e he
    rcases List.mem_cons.mp he with rfl | he
    · exact told'
    · exact told e he

/-! ### Runs of a pool -/

theorem acquire_exhausted {sessionId : Option String} {token : String}
    (h : (pool.acquire now sessionId token).1.backend = none) :
    (∀ backend ∈ pool.backends, ∃ holder since,
      pool.leases.lookup holder = some (backend, since) ∧
      pool.unexpired now (backend, since) = true ∧ sessionId ≠ some holder) ∧
    ∀ holder lease, pool.leases.lookup holder = some lease → pool.unexpired now lease = true →
      (pool.acquire now sessionId token).2.leases.lookup holder = some lease := by
  obtain ⟨id, backend, since, -, -, -, eq⟩ | ⟨backend, -, -, -, eq⟩ | ⟨free, taken, eq⟩ :=
    acquire_cases pool now sessionId token
  · rw [eq] at h
    cases h
  · rw [eq] at h
    cases h
  · constructor
    · intro backend hb
      obtain ⟨holder, lease, leased, rfl⟩ := mem_leasedBackends.mp (taken backend hb)
      have old := lookup_expire.mp leased
      exact ⟨holder, lease.2, old.1, old.2, ne_of_held_eq_none free leased⟩
    · intro holder lease leased live
      rw [eq]
      exact lookup_expire.mpr ⟨leased, live⟩

/-- The session that is told a backend has the lease of it, which it had before or nobody had. -/
inductive Grants (pool pool' : SessionPool T) (now : T) (sessionId : Option String)
    (token backend : String) : Acquired → Prop where
  | renewed {id : String} {since : T} (asked : sessionId = some id)
    (before : pool.leases.lookup id = some (backend, since))
    (live : pool.unexpired now (backend, since) = true)
    (after : pool'.leases.lookup id = some (backend, now)) :
    Grants pool pool' now sessionId token backend ⟨some id, some backend, false⟩
  | created (free : ∀ holder lease, pool.leases.lookup holder = some lease →
      pool.unexpired now lease = true → lease.1 ≠ backend ∧ sessionId ≠ some holder)
    (after : pool'.leases.lookup (newSessionId sessionId token) = some (backend, now)) :
    Grants pool pool' now sessionId token backend
      ⟨some (newSessionId sessionId token), some backend, true⟩

theorem acquire_grants {sessionId : Option String} {token backend : String}
    (h : (pool.acquire now sessionId token).1.backend = some backend) :
    Grants pool (pool.acquire now sessionId token).2 now sessionId token backend
      (pool.acquire now sessionId token).1 := by
  obtain ⟨id, backend', since, asked, lease, live, eq⟩ | ⟨backend', free, -, unleased, eq⟩ |
    ⟨-, -, eq⟩ := acquire_cases pool now sessionId token
  · rw [eq] at h ⊢
    cases h
    exact .renewed asked lease live (AList.lookup_insert _)
  · rw [eq] at h ⊢
    cases h
    refine .created ?_ (AList.lookup_insert _)
    intro holder lease leased live
    have held := lookup_expire.mpr ⟨leased, live⟩
    refine ⟨?_, ne_of_held_eq_none free held⟩
    intro same
    exact unleased (mem_leasedBackends.mpr ⟨holder, lease, held, same⟩)
  · rw [eq] at h
    cases h

omit [Sub T] [LT T] [DecidableLT T] in
/-- A session that is released has no lease any more; those of the others stay. -/
theorem lookup_release (id other : String) :
    (pool.release (some id)).leases.lookup other =
      if other = id then none else pool.leases.lookup other := by
  by_cases same : other = id
  · subst same
    rw [if_pos rfl]
    exact AList.lookup_erase _ _
  · rw [if_neg same]
    exact AList.lookup_erase_ne same

theorem status_activeSessions_le (h : pool.Sound backends) :
    (pool.status now).1.activeSessions ≤ backends.dedup.length := by
  have kept : (pool.expire now).Sound backends := h.expire
  exact AList.length_le_of_exclusive kept.exclusive kept.within

/-- What a call answers: a session that is told a backend has the lease of it, a backend is refused
only when all are taken by others, whose leases stay, a session that is released has no lease, and no
more sessions are counted than there are backends. -/
structure Answers (backends : List String) (e : PoolEvent T) : Prop where
  granted : ∀ now sessionId token result backend, e.call = .acquire now sessionId token →
    e.reply = .acquired result → result.backend = some backend →
    Grants e.before e.after now sessionId token backend result
  exhausted : ∀ now sessionId token result, e.call = .acquire now sessionId token →
    e.reply = .acquired result → result.backend = none →
    (∀ backend ∈ backends, ∃ holder since,
      e.before.leases.lookup holder = some (backend, since) ∧
      e.before.unexpired now (backend, since) = true ∧ sessionId ≠ some holder) ∧
    ∀ holder lease, e.before.leases.lookup holder = some lease →
      e.before.unexpired now lease = true → e.after.leases.lookup holder = some lease
  released : ∀ id, e.call = .release (some id) → ∀ other, e.after.leases.lookup other =
    if other = id then none else e.before.leases.lookup other
  counted : ∀ status, e.reply = .status status → status.activeSessions ≤ backends.dedup.length

theorem SessionPool.Sound.answers (h : pool.Sound backends) (call : PoolCall T) :
    Answers backends (Run.event step pool call) where
  granted := by
    intro now sessionId token result backend asked told given
    cases asked
    cases told
    exact acquire_grants given
  exhausted := by
    intro now sessionId token result asked told none
    cases asked
    cases told
    rw [← h.backends_eq]
    exact acquire_exhausted none
  released := by
    intro id asked other
    cases asked
    exact lookup_release id other
  counted := by
    intro status told
    cases call with
    | status now =>
      cases told
      exact status_activeSessions_le h
    | acquire now sessionId token => cases told
    | release sessionId => cases told

theorem sound_run (backends : List String) (idleTimeoutS : T) (calls : List (PoolCall T)) :
    (Run.state step (.new backends idleTimeoutS) calls).Sound backends ∧
    ∀ e ∈ Run.history step (.new backends idleTimeoutS) calls, Answers backends e := by
  apply Run.invariant step (.new backends idleTimeoutS)
    (I := fun es pool => pool.Sound backends ∧ ∀ e ∈ es, Answers backends e)
  · refine ⟨sound_new backends idleTimeoutS, ?_⟩
    intro e he
    cases he
  · intro es pool call ⟨sound, answered⟩
    refine ⟨sound.next call, ?_⟩
    intro e he
    rcases List.mem_cons.mp he with rfl | he
    · exact sound.answers call
    · exact answered e he

/-- In every run of a pool its leases are exclusive and lease its own backends, every call answers
as it should, and a session keeps its backend until it is released or its lease expires. -/
theorem sessionPool_run (backends : List String) (idleTimeoutS : T)
    (later earlier : List (PoolCall T))
    (unused : ∀ e ∈ Run.history step (.new backends idleTimeoutS) (later ++ earlier),
      e.call.Unused e.before) :
    let pool := Run.state step (.new backends idleTimeoutS) earlier
    (Run.state step pool later).leases.Exclusive Prod.fst ∧
    (Run.state step pool later).leases.Within Prod.fst backends ∧
    (∀ e ∈ Run.history step (.new backends idleTimeoutS) (later ++ earlier), Answers backends e) ∧
    ∀ id backend since, pool.leases.lookup id = some (backend, since) →
      (∀ e ∈ Run.history step pool later, Spares id e) →
      (∃ since', (Run.state step pool later).leases.lookup id = some (backend, since')) ∧
      ∀ e ∈ Run.history step pool later, ∀ now token, e.call = .acquire now (some id) token →
        e.reply = .acquired ⟨some id, some backend, false⟩ := by
  intro pool
  obtain ⟨sound, answered⟩ := sound_run backends idleTimeoutS (later ++ earlier)
  rw [Run.state_append] at sound
  refine ⟨sound.exclusive, sound.within, answered, ?_⟩
  intro id backend since lease spares
  apply run_spares later ?_ lease spares
  intro e he
  apply unused
  rw [Run.history_append]
  exact List.mem_append_left _ he

/-- Two sessions on three names for two backends, a third turned away, and one that comes back. -/
theorem sessionPool_run_two :
    let pool : SessionPool Int := .new ["one:8080", "two:8080", "one:8080"] 60
    let earlier : List (PoolCall Int) := [.acquire 1 none "b", .acquire 0 (some "a") ""]
    let later : List (PoolCall Int) := [.status 60, .acquire 59 (some "a") "", .acquire 2 none "c"]
    (Run.state step (Run.state step pool earlier) later).leases.Exclusive Prod.fst ∧
    (Run.history step (Run.state step pool earlier) later).map (fun e => e.reply) =
      [.status ⟨3, 2⟩, .acquired ⟨some "a", some "one:8080", false⟩,
        .acquired ⟨none, none, false⟩] := by
  intro pool earlier later
  refine ⟨?_, by decide⟩
  have unused : ∀ e ∈ Run.history step pool (later ++ earlier), e.call.Unused e.before := by decide
  exact (sessionPool_run ["one:8080", "two:8080", "one:8080"] 60 later earlier unused).1

end Access.SessionGateway
