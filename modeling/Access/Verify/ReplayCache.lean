import Access.Verify.ReplayJournal

/-! # Identifiers are accepted once

A replay cache in front of storage that honours its contract, through consumptions that fail,
resets between sessions, and restarts. -/

namespace Access

/-- The storage behind a cache. -/
def storageOps (B : Type) [ReplayStateBackend B] : Storage.Ops B Bytes String where
  load := ReplayStateBackend.load
  append := ReplayStateBackend.appendAndSync

/-! ## A process with a cache -/

inductive CacheCall where
  | consume (id : Bytes)
  | resetEphemeral
  | restart

/-- A process and its storage. It is down after a restart that could not load its storage. -/
inductive Process (B : Type) where
  | running (cache : ReplayCache B)
  | down (storage : B)

namespace Process

variable [ReplayStateBackend B]

/-- `with_backend` over storage. -/
def start (storage : B) : Except ProtocolError Unit × Process B :=
  match ReplayCache.withBackend storage with
  | .ok cache => (.ok (), running cache)
  | .error e => (.error e, down (ReplayStateBackend.load storage).2)

/-- One call; a process that is down has no cache to call. -/
def step : Process B → CacheCall → Option (Except ProtocolError Unit) × Process B
  | running cache, .consume id =>
    match ReplayCache.consume id cache with
    | .ok () cache => (some (.ok ()), running cache)
    | .error e cache => (some (.error e), running cache)
  | running cache, .resetEphemeral => (some (.ok ()), running cache.resetEphemeral)
  | running { backend := some storage, .. }, .restart | down storage, .restart =>
    ((start storage).1, (start storage).2)
  | running { backend := none, .. }, .restart => (some (.ok ()), running {})
  | down storage, _ => (none, down storage)

/-- The storage of a process, if it has any. -/
def storage? : Process B → Option B
  | running cache => cache.backend
  | down storage => some storage

end Process

abbrev CacheEvent (B : Type) :=
  Run.Event (Process B) CacheCall (Option (Except ProtocolError Unit))

/-- The identifier that an event accepts. -/
def acceptedId (e : CacheEvent B) : Option Bytes :=
  match e.call, e.reply with
  | .consume id, some (.ok ()) => some id
  | _, _ => none

/-- What is true after every run: the storage is a later state of the first one, and what was
accepted was accepted once, is in memory, and is durable. -/
structure Guarded [ReplayStateBackend B] (first : B) (es : List (CacheEvent B)) (p : Process B) :
    Prop where
  nodup : (es.filterMap acceptedId).Nodup
  storage : ∃ storage, p.storage? = some storage ∧ Storage.Later (storageOps B) first storage ∧
    ∀ id ∈ es.filterMap acceptedId, Storage.Durable (storageOps B) storage id
  memory : ∀ cache, p = .running cache → ∀ id ∈ es.filterMap acceptedId, id ∈ cache.consumed

variable [ReplayStateBackend B] {first : B}

/-- A commit is an append to the storage. -/
theorem ReplayCache.commit_backend {cache : ReplayCache B} {storage : B} (id : Bytes)
    (h : cache.backend = some storage) :
    (commit id cache).state.backend = some (ReplayStateBackend.appendAndSync id storage).2 := by
  rcases hr : ReplayStateBackend.appendAndSync id storage with ⟨result, storage'⟩
  cases result <;> simp [commit, h, hr]

theorem ReplayCache.appended_of_commit_ok {cache cache' : ReplayCache B} {storage : B} {id : Bytes}
    (h : cache.backend = some storage) (hcommit : commit id cache = .ok () cache') :
    (ReplayStateBackend.appendAndSync id storage).1 = .ok () ∧
      cache'.backend = some (ReplayStateBackend.appendAndSync id storage).2 := by
  have hbackend := commit_backend id h
  rw [hcommit] at hbackend
  refine ⟨?_, hbackend⟩
  rcases hr : ReplayStateBackend.appendAndSync id storage with ⟨result, storage'⟩
  cases result with
  | ok u => rfl
  | error detail => simp [commit, h, hr] at hcommit

namespace Guarded

variable {es : List (CacheEvent B)} {p : Process B} {cache : ReplayCache B}

/-- An event that accepts nothing, and leaves later storage and no smaller memory. -/
theorem quiet (H : Guarded first es p) {e : CacheEvent B} (haccepts : acceptedId e = none)
    {p' : Process B}
    (hstorage : ∀ storage, p.storage? = some storage →
      ∃ storage', p'.storage? = some storage' ∧ Storage.Later (storageOps B) storage storage')
    (hmemory : ∀ cache', p' = .running cache' → ∀ id ∈ es.filterMap acceptedId,
      id ∈ cache'.consumed) : Guarded first (e :: es) p' := by
  have hes : (e :: es).filterMap acceptedId = es.filterMap acceptedId :=
    List.filterMap_cons_none haccepts
  obtain ⟨storage, hp, hlater, hdurable⟩ := H.storage
  obtain ⟨storage', hp', hlater'⟩ := hstorage storage hp
  refine ⟨hes ▸ H.nodup, ⟨storage', hp', hlater.trans hlater', ?_⟩, hes ▸ hmemory⟩
  rw [hes]
  exact fun id hid => (hdurable id hid).later hlater'

theorem nil (first : B) : Guarded first [] (.down first) :=
  ⟨List.nodup_nil, ⟨first, rfl, .refl first, fun _ h => absurd h List.not_mem_nil⟩, nofun⟩

/-- A process that ends leaves its storage. -/
theorem stop (H : Guarded first es p) {storage : B} (hp : p.storage? = some storage) :
    Guarded first es (.down storage) := by
  obtain ⟨_, hp₀, hlater, hdurable⟩ := H.storage
  cases hp.symm.trans hp₀
  exact ⟨H.nodup, ⟨storage, rfl, hlater, hdurable⟩, nofun⟩

/-- A restart shows what is durable. -/
theorem start (H : Guarded first es p) {e : CacheEvent B} (haccepts : acceptedId e = none)
    {storage : B} (hp : p.storage? = some storage) :
    Guarded first (e :: es) (Process.start storage).2 := by
  obtain ⟨_, hp₀, -, hdurable⟩ := H.storage
  cases hp.symm.trans hp₀
  have hlater : Storage.Later (storageOps B) storage (ReplayStateBackend.load storage).2 :=
    .load (.refl storage)
  unfold Process.start
  cases hstart : ReplayCache.withBackend storage with
  | error e =>
    exact H.quiet haccepts (fun s hs => ⟨_, rfl, Option.some.inj (hp.symm.trans hs) ▸ hlater⟩) nofun
  | ok cache =>
    obtain ⟨values, hload, rfl⟩ := ReplayCache.withBackend_eq_ok.mp hstart
    refine H.quiet haccepts (fun s hs => ⟨_, rfl, Option.some.inj (hp.symm.trans hs) ▸ hlater⟩) ?_
    rintro _ ⟨⟩ id hid
    exact List.mem_toFinset.mpr (hdurable id hid storage (.refl storage) values hload)

/-- A consumption that fails accepts nothing, and its process keeps what it had in memory. -/
theorem refuse (H : Guarded first es (.running cache)) {e : CacheEvent B}
    (haccepts : acceptedId e = none) {id : Bytes} {error : ProtocolError}
    {cache' : ReplayCache B} (h : ReplayCache.consume id cache = .error error cache') :
    Guarded first (e :: es) (.running cache') := by
  have hsame := ReplayCache.consume_error_consumed h
  refine H.quiet haccepts (fun storage hstorage => ?_) ?_
  · rcases ReplayCache.consume_eq_error h with ⟨-, -, rfl⟩ | ⟨-, hcommit⟩
    · exact ⟨storage, hstorage, .refl storage⟩
    · have hbackend := ReplayCache.commit_backend id hstorage
      rw [hcommit] at hbackend
      exact ⟨_, hbackend, .append id (.refl storage)⟩
  · rintro _ ⟨⟩ id' hid'
    exact hsame ▸ H.memory cache rfl id' hid'

/-- A consumption that succeeds accepts an identifier that was not there, and made it durable. -/
theorem accept (H : Guarded first es (.running cache)) (hfirst : Storage.Honours (storageOps B) first)
    {e : CacheEvent B} {id : Bytes} (haccepts : acceptedId e = some id) {cache' : ReplayCache B}
    (h : ReplayCache.consume id cache = .ok () cache') :
    Guarded first (e :: es) (.running cache') := by
  have hes : (e :: es).filterMap acceptedId = id :: es.filterMap acceptedId :=
    List.filterMap_cons_some haccepts
  obtain ⟨hfresh, committed, hcommit, rfl⟩ := ReplayCache.consume_eq_ok.mp h
  obtain ⟨storage, hstorage, hlater, hdurable⟩ := H.storage
  obtain ⟨happended, hbackend⟩ := ReplayCache.appended_of_commit_ok hstorage hcommit
  have hlater' : Storage.Later (storageOps B) storage
      (ReplayStateBackend.appendAndSync id storage).2 := .append id (.refl storage)
  refine ⟨?_, ⟨_, hbackend, hlater.trans hlater', ?_⟩, ?_⟩
  · rw [hes]
    exact List.nodup_cons.mpr ⟨fun hid => hfresh (H.memory cache rfl id hid), H.nodup⟩
  · rw [hes]
    intro id' hid'
    rcases List.mem_cons.mp hid' with rfl | hid'
    · exact (hfirst.later hlater).durable happended
    · exact (hdurable id' hid').later hlater'
  · rintro _ ⟨⟩ id' hid'
    rw [hes] at hid'
    rcases List.mem_cons.mp hid' with rfl | hid'
    · exact Finset.mem_insert_self _ _
    · exact Finset.mem_insert_of_mem (H.memory cache rfl id' hid')

/-- A persistent cache is not cleared between sessions. -/
theorem reset (H : Guarded first es (.running cache)) {e : CacheEvent B}
    (haccepts : acceptedId e = none) : Guarded first (e :: es) (.running cache.resetEphemeral) := by
  obtain ⟨storage, hstorage, -⟩ := H.storage
  have hsome : cache.backend = some storage := hstorage
  have hsame : cache.resetEphemeral = cache := by simp [ReplayCache.resetEphemeral, hsome]
  rw [hsame]
  exact H.quiet haccepts (fun storage hp => ⟨storage, hp, .refl storage⟩) (H.memory)

theorem step (H : Guarded first es p) (hfirst : Storage.Honours (storageOps B) first)
    (c : CacheCall) :
    Guarded first (Run.event Process.step p c :: es) (Process.step p c).2 := by
  cases p with
  | down storage =>
    cases c with
    | restart => exact H.start rfl rfl
    | consume id | resetEphemeral =>
      exact H.quiet rfl (fun storage hp => ⟨storage, hp, .refl storage⟩) nofun
  | running cache =>
    cases c with
    | consume id =>
      cases hr : ReplayCache.consume id cache with
      | ok u cache' =>
        have hstep : Process.step (.running cache) (.consume id) =
            (some (.ok ()), .running cache') := by simp only [Process.step, hr]
        rw [Run.event, hstep]
        exact H.accept hfirst rfl hr
      | error error cache' =>
        have hstep : Process.step (.running cache) (.consume id) =
            (some (.error error), .running cache') := by simp only [Process.step, hr]
        rw [Run.event, hstep]
        exact H.refuse rfl hr
    | resetEphemeral => exact H.reset rfl
    | restart =>
      obtain ⟨storage, hstorage, -⟩ := H.storage
      obtain ⟨consumed, backend⟩ := cache
      cases (hstorage : backend = some storage)
      exact H.start rfl rfl

end Guarded

/-- Over storage that honours its contract, in every run of consumptions, resets and restarts: each
identifier is accepted at most once; what was accepted is in memory whenever a process runs, and is
durable; and a consumption that fails leaves the memory as it was. -/
theorem accepted_once (first : B) (hfirst : Storage.Honours (storageOps B) first)
    (calls : List CacheCall) :
    let es := Run.history Process.step (.down first) calls
    let p := Run.state Process.step (.down first) calls
    (∀ id, es.countP (acceptedId · == some id) ≤ 1) ∧
    (∀ cache, p = .running cache → ∀ id, (∃ e ∈ es, acceptedId e = some id) →
      id ∈ cache.consumed) ∧
    (∃ storage, p.storage? = some storage ∧ ∀ id, (∃ e ∈ es, acceptedId e = some id) →
      Storage.Durable (storageOps B) storage id) ∧
    ∀ cache id error cache', p = .running cache →
      ReplayCache.consume id cache = .error error cache' → cache'.consumed = cache.consumed := by
  intro es p
  have H : Guarded first es p := Run.invariant _ _ (.nil first) (fun es p c H => H.step hfirst c)
    calls
  obtain ⟨storage, hstorage, -, hdurable⟩ := H.storage
  refine ⟨fun id => ?_, fun cache hp id hid => H.memory cache hp id (List.mem_filterMap.mpr hid),
    ⟨storage, hstorage, fun id hid => hdurable id (List.mem_filterMap.mpr hid)⟩,
    fun cache id error cache' _ h => ReplayCache.consume_error_consumed h⟩
  have hcount := List.nodup_iff_count_le_one.mp H.nodup id
  rwa [List.count_filterMap] at hcount

/-! ## The file journal -/

namespace FileReplayStateBackend

open LineJournal

/-- A journal that ends with a finished line, on a file system that never cuts a record off. -/
structure Whole (b : FileReplayStateBackend) : Prop where
  finished : unfinished b.contents = []
  uncut : ∀ n written detail, b.faults n ≠ .transfer written detail

theorem Whole.appendAndSync {b : FileReplayStateBackend} (H : b.Whole) (value : Bytes) :
    (b.appendAndSync value).2.Whole := by
  have hrecord : unfinished (b.contents ++ journalRecord value) = [] := by
    rw [journalRecord, ← List.append_assoc]
    exact unfinished_newline _
  unfold FileReplayStateBackend.appendAndSync
  cases hfault : b.faults b.calls with
  | «open» detail => exact ⟨H.finished, H.uncut⟩
  | transfer n detail => exact absurd hfault (H.uncut _ _ _)
  | sync detail | none =>
    refine ⟨?_, H.uncut⟩
    rw [contents, Option.getD_some, List.take_length]
    exact hrecord

/-- Such a journal honours the contract. -/
theorem Whole.honours {b : FileReplayStateBackend} (H : b.Whole) :
    Storage.Honours (storageOps FileReplayStateBackend) b :=
  Storage.honours_of_invariant Whole HasRecorded H (fun _ h => ⟨h.finished, h.uncut⟩)
    (fun _ value h => h.appendAndSync value)
    (fun _ _ h hok => hasRecorded_of_ok (.inl h.finished) hok) (fun _ _ h => h)
    (fun _ _ other h => h.appendAndSync other) (fun _ _ _ h hload => h.mem_load hload)

end FileReplayStateBackend

/-- An identifier is accepted, and refused after a restart. -/
theorem accepted_once_file :
    let first : FileReplayStateBackend := ⟨none, fun _ => .none, 0⟩
    let es := Run.history Process.step (.down first)
      [.consume [7], .restart, .resetEphemeral, .consume [7], .restart]
    es.map acceptedId = [none, none, none, some [7], none] ∧
      ∀ id, es.countP (acceptedId · == some id) ≤ 1 :=
  ⟨by decide +kernel, (accepted_once _ (FileReplayStateBackend.Whole.honours ⟨rfl, by simp⟩) _).1⟩

end Access
