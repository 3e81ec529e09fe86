import Mathlib.Data.List.Forall2
import Mathlib.Order.Defs.Unbundled

/-! # Computations that keep their state when they fail

`EStateM ε σ` is the monad of a method on `&mut self` that returns a `Result`: a `?` in the
middle leaves the state as the earlier statements made it. Two kinds of rules are given.

* The `_eq_ok` lemmas say what a successful run went through. They are equivalences, so one
  `simp only` with them turns a successful run of a whole `do` block into its intermediate
  values and the equations between them.
* `Steps R x` says that `x` relates its first state to its last one by `R`, whether it
  succeeds or throws. For a preorder `R` it is closed under every construct below, so a frame
  condition is proved for all early returns of a block at once.

The first section has the same inversion rules for `Except`, the monad of a function that
borrows nothing mutably. -/

namespace Except

variable {ε ε' α β : Type}

/-- `option.ok_or(e)?` -/
def okOr (o : Option α) (e : ε) : Except ε α :=
  match o with
  | some a => .ok a
  | none => .error e

/-- `if c { return Err(e); }` -/
def failIf (c : Prop) [Decidable c] (e : ε) : Except ε Unit :=
  if c then .error e else .ok ()

/-- There is a value. -/
def Succeeds (x : Except ε α) : Prop := ∃ a, x = .ok a

theorem bind_eq_ok {x : Except ε α} {f : α → Except ε β} {b : β} :
    (x >>= f) = .ok b ↔ ∃ a, x = .ok a ∧ f a = .ok b := by
  cases x <;> simp [bind, Except.bind]

theorem pure_eq_ok {a b : α} : (pure a : Except ε α) = .ok b ↔ a = b := by
  simp [pure, Except.pure]

theorem okOr_eq_ok {o : Option α} {e : ε} {a : α} : okOr o e = .ok a ↔ o = some a := by
  cases o <;> simp [okOr]

theorem failIf_eq_ok {c : Prop} [Decidable c] {e : ε} {u : Unit} :
    failIf c e = .ok u ↔ ¬c := by
  unfold failIf
  split <;> simp [*]

theorem bind_eq_error {x : Except ε α} {f : α → Except ε β} {e : ε} :
    (x >>= f) = .error e ↔ x = .error e ∨ ∃ a, x = .ok a ∧ f a = .error e := by
  cases x <;> simp [bind, Except.bind]

theorem pure_eq_error {a : α} {e : ε} : (pure a : Except ε α) = .error e ↔ False := by
  simp [pure, Except.pure]

theorem okOr_eq_error {o : Option α} {e e' : ε} :
    okOr o e = .error e' ↔ o = none ∧ e = e' := by
  cases o <;> simp [okOr]

theorem failIf_eq_error {c : Prop} [Decidable c] {e e' : ε} :
    failIf c e = .error e' ↔ c ∧ e = e' := by
  unfold failIf
  split <;> simp [*]

theorem mapError_eq_ok {f : ε → ε'} {x : Except ε α} {a : α} :
    x.mapError f = .ok a ↔ x = .ok a := by
  cases x <;> simp [Except.mapError]

theorem map_eq_ok {f : α → β} {x : Except ε α} {b : β} :
    x.map f = .ok b ↔ ∃ a, x = .ok a ∧ f a = b := by
  cases x <;> simp [Except.map]

theorem forM_eq_ok {f : α → Except ε Unit} {as : List α} {u : Unit} :
    as.forM f = .ok u ↔ ∀ a ∈ as, f a = .ok () := by
  induction as with
  | nil => simp [List.forM, pure_eq_ok]
  | cons a as ih =>
    show (f a >>= fun _ => as.forM f) = _ ↔ _
    rw [bind_eq_ok, List.forall_mem_cons]
    exact ⟨fun ⟨_, ha, has⟩ => ⟨ha, ih.mp has⟩, fun ⟨ha, has⟩ => ⟨(), ha, ih.mpr has⟩⟩

theorem mapM_eq_ok {f : α → Except ε β} {as : List α} {bs : List β} :
    as.mapM f = .ok bs ↔ List.Forall₂ (fun a b => f a = .ok b) as bs := by
  induction as generalizing bs with
  | nil => rw [List.mapM_nil, pure_eq_ok, List.forall₂_nil_left_iff, eq_comm]
  | cons a as ih =>
    simp only [List.mapM_cons, bind_eq_ok, pure_eq_ok, ih, List.forall₂_cons_left_iff]
    constructor
    · rintro ⟨b, hb, bs, hbs, rfl⟩
      exact ⟨b, bs, hb, hbs, rfl⟩
    · rintro ⟨b, bs, hb, hbs, rfl⟩
      exact ⟨b, hb, bs, hbs, rfl⟩

theorem mapM_succeeds {f : α → Except ε β} {as : List α} (h : ∀ a ∈ as, (f a).Succeeds) :
    (as.mapM f).Succeeds := by
  induction as with
  | nil => exact ⟨[], List.mapM_nil⟩
  | cons a as ih =>
    obtain ⟨b, hb⟩ := h a (.head _)
    obtain ⟨bs, hbs⟩ := ih fun a' ha => h a' (.tail _ ha)
    refine ⟨b :: bs, ?_⟩
    simp only [List.mapM_cons, bind_eq_ok, pure_eq_ok]
    exact ⟨b, hb, bs, hbs, rfl⟩

end Except

namespace EStateM

variable {ε ε' σ τ α β : Type}

/-- The state a run stops in, whether it returned or threw. -/
def Result.state : Result ε σ α → σ
  | .ok _ s | .error _ s => s

@[simp] theorem Result.state_ok {a : α} {s : σ} : (Result.ok a s : Result ε σ α).state = s := rfl

@[simp] theorem Result.state_error {e : ε} {s : σ} :
    (Result.error e s : Result ε σ α).state = s := rfl

/-! ## Primitives -/

/-- `option.ok_or(e)?` -/
def okOr (o : Option α) (e : ε) : EStateM ε σ α :=
  match o with
  | some a => pure a
  | none => throw e

/-- `result.map_err(wrap)?`, also the conversion of `?` itself. -/
def ofExcept (wrap : ε' → ε) : Except ε' α → EStateM ε σ α
  | .ok a => pure a
  | .error e => throw (wrap e)

/-- `if c { return Err(e); }` -/
def failIf (c : Prop) [Decidable c] (e : ε) : EStateM ε σ Unit :=
  if c then throw e else pure ()

/-- A part of a larger state, as a `&mut` borrow of some of its fields. -/
structure Part (σ τ : Type) where
  get : σ → τ
  set : τ → σ → σ

/-- Runs a computation on a part of the state and passes its errors on as the caller's. -/
def Part.run (p : Part σ τ) (wrap : ε' → ε) (x : EStateM ε' τ α) : EStateM ε σ α := fun s =>
  match x (p.get s) with
  | .ok a t => .ok a (p.set t s)
  | .error e t => .error (wrap e) (p.set t s)

/-! ## Successful runs -/

theorem bind_eq_ok {x : EStateM ε σ α} {f : α → EStateM ε σ β} {s s'' : σ} {b : β} :
    (x >>= f) s = .ok b s'' ↔ ∃ a s', x s = .ok a s' ∧ f a s' = .ok b s'' := by
  show EStateM.bind x f s = _ ↔ _
  unfold EStateM.bind
  cases x s <;> simp [and_assoc]

theorem pure_eq_ok {a b : α} {s s' : σ} :
    (pure a : EStateM ε σ α) s = .ok b s' ↔ a = b ∧ s = s' := by
  show Result.ok a s = _ ↔ _
  simp

theorem throw_eq_ok {e : ε} {b : α} {s s' : σ} :
    (throw e : EStateM ε σ α) s = .ok b s' ↔ False := by
  show Result.error e s = _ ↔ _
  simp

theorem get_eq_ok {a s s' : σ} : (get : EStateM ε σ σ) s = .ok a s' ↔ a = s ∧ s' = s := by
  show Result.ok s s = _ ↔ _
  simp [eq_comm]

theorem modify_eq_ok {g : σ → σ} {s s' : σ} {u : PUnit} :
    (modify g : EStateM ε σ PUnit) s = .ok u s' ↔ s' = g s := by
  show Result.ok _ (g s) = _ ↔ _
  simp [eq_comm]

theorem okOr_eq_ok {o : Option α} {e : ε} {a : α} {s s' : σ} :
    (okOr o e : EStateM ε σ α) s = .ok a s' ↔ o = some a ∧ s' = s := by
  cases o <;> simp [okOr, pure_eq_ok, throw_eq_ok, eq_comm]

theorem ofExcept_eq_ok {wrap : ε' → ε} {r : Except ε' α} {a : α} {s s' : σ} :
    (ofExcept wrap r : EStateM ε σ α) s = .ok a s' ↔ r = .ok a ∧ s' = s := by
  cases r <;> simp [ofExcept, pure_eq_ok, throw_eq_ok, eq_comm]

theorem failIf_eq_ok {c : Prop} [Decidable c] {e : ε} {u : Unit} {s s' : σ} :
    (failIf c e : EStateM ε σ Unit) s = .ok u s' ↔ ¬c ∧ s' = s := by
  unfold failIf
  split <;> simp [pure_eq_ok, throw_eq_ok, eq_comm, *]

theorem Part.run_eq_ok {p : Part σ τ} {wrap : ε' → ε} {x : EStateM ε' τ α} {a : α} {s s' : σ} :
    p.run wrap x s = .ok a s' ↔ ∃ t, x (p.get s) = .ok a t ∧ s' = p.set t s := by
  unfold Part.run
  cases x (p.get s) <;> simp [and_assoc, eq_comm]

/-! ## Failed runs -/

theorem forall₂_of_mapM_ok {f : α → EStateM ε σ β} {as : List α} {bs : List β} {s s' : σ}
    (h : as.mapM f s = .ok bs s') : List.Forall₂ (fun a b => ∃ t t', f a t = .ok b t') as bs := by
  induction as generalizing bs s with
  | nil =>
    rw [List.mapM_nil, pure_eq_ok] at h
    exact h.1 ▸ .nil
  | cons a as ih =>
    simp only [List.mapM_cons, bind_eq_ok, pure_eq_ok] at h
    obtain ⟨b, t, hb, bs, _, hbs, rfl, rfl⟩ := h
    exact .cons ⟨s, t, hb⟩ (ih hbs)

theorem bind_eq_error {x : EStateM ε σ α} {f : α → EStateM ε σ β} {s s'' : σ} {e : ε} :
    (x >>= f) s = .error e s'' ↔
      x s = .error e s'' ∨ ∃ a s', x s = .ok a s' ∧ f a s' = .error e s'' := by
  show EStateM.bind x f s = _ ↔ _
  unfold EStateM.bind
  cases x s <;> simp [and_assoc]

theorem pure_eq_error {a : α} {e : ε} {s s' : σ} :
    (pure a : EStateM ε σ α) s = .error e s' ↔ False := by
  show Result.ok a s = _ ↔ _
  simp

theorem get_eq_error {e : ε} {s s' : σ} : (get : EStateM ε σ σ) s = .error e s' ↔ False := by
  show Result.ok s s = _ ↔ _
  simp

theorem modify_eq_error {g : σ → σ} {e : ε} {s s' : σ} :
    (modify g : EStateM ε σ PUnit) s = .error e s' ↔ False := by
  show Result.ok _ (g s) = _ ↔ _
  simp

theorem okOr_eq_error {o : Option α} {e e' : ε} {s s' : σ} :
    (okOr o e : EStateM ε σ α) s = .error e' s' ↔ o = none ∧ e' = e ∧ s' = s := by
  cases o with
  | some a => simp [okOr, pure_eq_error]
  | none =>
    show Result.error e s = _ ↔ _
    simp [eq_comm]

theorem ofExcept_eq_error {wrap : ε' → ε} {r : Except ε' α} {e : ε} {s s' : σ} :
    (ofExcept wrap r : EStateM ε σ α) s = .error e s' ↔
      ∃ e', r = .error e' ∧ e = wrap e' ∧ s' = s := by
  cases r with
  | ok a => simp [ofExcept, pure_eq_error]
  | error e' =>
    show Result.error (wrap e') s = _ ↔ _
    simp [eq_comm]

theorem Part.run_eq_error {p : Part σ τ} {wrap : ε' → ε} {x : EStateM ε' τ α} {e : ε}
    {s s' : σ} : p.run wrap x s = .error e s' ↔
      ∃ e' t, x (p.get s) = .error e' t ∧ e = wrap e' ∧ s' = p.set t s := by
  unfold Part.run
  cases x (p.get s) <;> simp [and_assoc, eq_comm]

theorem failIf_eq_error {c : Prop} [Decidable c] {e e' : ε} {s s' : σ} :
    (failIf c e : EStateM ε σ Unit) s = .error e' s' ↔ c ∧ e' = e ∧ s' = s := by
  unfold failIf
  split
  · show Result.error e s = _ ↔ _
    simp [eq_comm, *]
  · simp [pure_eq_error, *]

/-! ## What every run preserves -/

/-- However `x` ends, the state it ends in is related by `R` to the one it started in. -/
def Steps (R : σ → σ → Prop) (x : EStateM ε σ α) : Prop := ∀ s, R s (x s).state

namespace Steps

variable {R : σ → σ → Prop}

theorem mono {R' : σ → σ → Prop} {x : EStateM ε σ α} (H : Steps R x)
    (h : ∀ s s', R s s' → R' s s') : Steps R' x := fun s => h _ _ (H s)

theorem ok {x : EStateM ε σ α} (H : Steps R x) {s s' : σ} {a : α} (h : x s = .ok a s') :
    R s s' := by
  have := H s
  rwa [h] at this

theorem error {x : EStateM ε σ α} (H : Steps R x) {s s' : σ} {e : ε} (h : x s = .error e s') :
    R s s' := by
  have := H s
  rwa [h] at this

theorem bind [IsTrans σ R] {x : EStateM ε σ α} {f : α → EStateM ε σ β} (hx : Steps R x)
    (hf : ∀ a, Steps R (f a)) : Steps R (x >>= f) := by
  intro s
  have h := hx s
  show R s (EStateM.bind x f s).state
  unfold EStateM.bind
  cases hr : x s with
  | ok a s' => exact IsTrans.trans _ _ _ (by simpa [hr] using h) (hf a s')
  | error e s' => simpa [hr] using h

/-- The continuation may use what the first part returned, and from which state. -/
theorem bind_of_ok [IsTrans σ R] {x : EStateM ε σ α} {f : α → EStateM ε σ β} (hx : Steps R x)
    (s : σ) (hf : ∀ a s', x s = .ok a s' → R s' (f a s').state) : R s ((x >>= f) s).state := by
  have h := hx s
  show R s (EStateM.bind x f s).state
  unfold EStateM.bind
  cases hr : x s with
  | ok a s' => exact IsTrans.trans _ _ _ (by simpa [hr] using h) (hf a s' hr)
  | error e s' => simpa [hr] using h

theorem pure [Std.Refl R] (a : α) : Steps R (pure a : EStateM ε σ α) :=
  fun s => Std.Refl.refl s

theorem throw [Std.Refl R] (e : ε) : Steps R (throw e : EStateM ε σ α) :=
  fun s => Std.Refl.refl s

theorem get [Std.Refl R] : Steps R (get : EStateM ε σ σ) := fun s => Std.Refl.refl s

theorem modify {g : σ → σ} (h : ∀ s, R s (g s)) : Steps R (modify g : EStateM ε σ PUnit) := h

theorem okOr [Std.Refl R] (o : Option α) (e : ε) : Steps R (okOr o e : EStateM ε σ α) := by
  cases o with
  | some a => exact Steps.pure a
  | none => exact Steps.throw e

theorem ofExcept [Std.Refl R] (wrap : ε' → ε) (r : Except ε' α) :
    Steps R (ofExcept wrap r : EStateM ε σ α) := by
  cases r with
  | ok a => exact Steps.pure a
  | error e => exact Steps.throw _

theorem failIf [Std.Refl R] (c : Prop) [Decidable c] (e : ε) :
    Steps R (failIf c e : EStateM ε σ Unit) := by
  unfold EStateM.failIf
  split
  · exact Steps.throw e
  · exact Steps.pure ()

theorem mapM [Std.Refl R] [IsTrans σ R] {f : α → EStateM ε σ β} (h : ∀ a, Steps R (f a))
    (as : List α) : Steps R (as.mapM f) := by
  induction as with
  | nil => exact Steps.pure []
  | cons a as ih =>
    rw [List.mapM_cons]
    exact Steps.bind (h a) fun b => Steps.bind ih fun bs => Steps.pure _

/-- A run on a part of the state: its relation `S` on the part has to give `R` on the whole. -/
theorem run {S : τ → τ → Prop} {p : Part σ τ} {wrap : ε' → ε} {x : EStateM ε' τ α}
    (hx : Steps S x) (h : ∀ s t, S (p.get s) t → R s (p.set t s)) : Steps R (p.run wrap x) := by
  intro s
  have h' := hx (p.get s)
  unfold Part.run
  cases hr : x (p.get s) <;> exact h _ _ (by simpa [hr] using h')

end Steps

/-- The relation of the steps that keep a property. -/
def Preserves (I : σ → Prop) (s s' : σ) : Prop := I s → I s'

instance (I : σ → Prop) : Std.Refl (Preserves I) := ⟨fun _ h => h⟩

instance (I : σ → Prop) : IsTrans σ (Preserves I) where
  trans _ _ _ h₁ h₂ h := h₂ (h₁ h)

end EStateM
