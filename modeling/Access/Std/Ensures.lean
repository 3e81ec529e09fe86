import Access.Std.Control

/-! # Weakest preconditions of computations that can fail

`Ensures x s Q E` says of one run: `x` returns a value and a state that satisfy `Q`, or throws an
exception and leaves a state that satisfy `E`. The `ensures_` lemmas are equivalences, one for each
construct, so that `simp only` with them turns the claim about a `do` block into what its parts have
to satisfy. With `E` false everywhere, `Ensures` says that the run does not fail. -/

namespace EStateM

variable {ε ε' σ τ α β : Type}

def Ensures (x : EStateM ε σ α) (s : σ) (Q : α → σ → Prop) (E : ε → σ → Prop) : Prop :=
  match x s with
  | .ok a t => Q a t
  | .error e t => E e t

variable {x : EStateM ε σ α} {s : σ} {Q : α → σ → Prop} {E : ε → σ → Prop}

theorem Ensures.of_ok (H : Ensures x s Q E) {a : α} {t : σ} (h : x s = .ok a t) : Q a t := by
  unfold Ensures at H
  rwa [h] at H

theorem Ensures.of_error (H : Ensures x s Q E) {e : ε} {t : σ} (h : x s = .error e t) : E e t := by
  unfold Ensures at H
  rwa [h] at H

/-- A run that does not fail. -/
def Returns (x : EStateM ε σ α) (s : σ) : Prop := ∃ a t, x s = .ok a t

theorem returns_iff_ensures : Returns x s ↔ Ensures x s (fun _ _ => True) fun _ _ => False := by
  unfold Returns Ensures
  cases x s <;> simp

theorem ensures_of_ok {a : α} {t : σ} (h : x s = .ok a t) : Ensures x s Q E ↔ Q a t := by
  unfold Ensures
  rw [h]

theorem ensures_of_error {e : ε} {t : σ} (h : x s = .error e t) : Ensures x s Q E ↔ E e t := by
  unfold Ensures
  rw [h]

theorem Ensures.intro (hok : ∀ a t, x s = .ok a t → Q a t)
    (herror : ∀ e t, x s = .error e t → E e t) : Ensures x s Q E := by
  unfold Ensures
  cases h : x s with
  | ok a t => exact hok a t h
  | error e t => exact herror e t h

theorem Ensures.mono {Q' : α → σ → Prop} {E' : ε → σ → Prop} (H : Ensures x s Q E)
    (hok : ∀ a t, Q a t → Q' a t) (herror : ∀ e t, E e t → E' e t) : Ensures x s Q' E' :=
  .intro (fun a t h => hok a t (H.of_ok h)) fun e t h => herror e t (H.of_error h)

theorem Ensures.and {Q' : α → σ → Prop} {E' : ε → σ → Prop} (H : Ensures x s Q E)
    (H' : Ensures x s Q' E') :
    Ensures x s (fun a t => Q a t ∧ Q' a t) fun e t => E e t ∧ E' e t :=
  .intro (fun _ _ h => ⟨H.of_ok h, H'.of_ok h⟩) fun _ _ h => ⟨H.of_error h, H'.of_error h⟩

theorem Steps.ensures {R : σ → σ → Prop} (H : Steps R x) (s : σ) :
    Ensures x s (fun _ t => R s t) fun _ t => R s t :=
  .intro (fun _ _ h => H.ok h) fun _ _ h => H.error h

theorem steps_preserves_iff {I : σ → Prop} :
    Steps (Preserves I) x ↔ ∀ s, I s → Ensures x s (fun _ t => I t) fun _ t => I t := by
  constructor
  · intro H s h
    exact (H.ensures s).mono (fun _ _ keeps => keeps h) fun _ _ keeps => keeps h
  · intro H s h
    have := H s h
    unfold Ensures at this
    cases hx : x s with
    | ok a t =>
      rw [hx] at this
      exact this
    | error e t =>
      rw [hx] at this
      exact this

theorem ensures_bind {f : α → EStateM ε σ β} {Q : β → σ → Prop} :
    Ensures (x >>= f) s Q E ↔ Ensures x s (fun a t => Ensures (f a) t Q E) E := by
  show (match EStateM.bind x f s with | .ok a t => Q a t | .error e t => E e t) ↔
    (match x s with | .ok a t => _ | .error e t => _)
  unfold EStateM.bind
  cases x s <;> exact Iff.rfl

/-- Nothing is asked of the first part, and every exception is allowed. -/
theorem Ensures.bind_all {f : α → EStateM ε σ β} {Q : β → σ → Prop} (herror : ∀ e t, E e t)
    (h : ∀ a t, Ensures (f a) t Q E) : Ensures (x >>= f) s Q E :=
  ensures_bind.mpr (.intro (fun a t _ => h a t) fun e t _ => herror e t)

theorem ensures_pure {a : α} : Ensures (pure a : EStateM ε σ α) s Q E ↔ Q a s := Iff.rfl

theorem ensures_throw {e : ε} : Ensures (throw e : EStateM ε σ α) s Q E ↔ E e s := Iff.rfl

theorem ensures_get {Q : σ → σ → Prop} : Ensures (get : EStateM ε σ σ) s Q E ↔ Q s s := Iff.rfl

theorem ensures_modify {g : σ → σ} {Q : PUnit → σ → Prop} :
    Ensures (modify g : EStateM ε σ PUnit) s Q E ↔ Q ⟨⟩ (g s) := Iff.rfl

theorem ensures_okOr {o : Option α} {e : ε} : Ensures (okOr o e : EStateM ε σ α) s Q E ↔
    (∀ a, o = some a → Q a s) ∧ (o = none → E e s) := by
  cases o with
  | some a => simp [okOr, ensures_pure]
  | none => simp [okOr, ensures_throw]

theorem ensures_ofExcept {wrap : ε' → ε} {r : Except ε' α} :
    Ensures (ofExcept wrap r : EStateM ε σ α) s Q E ↔
      (∀ a, r = .ok a → Q a s) ∧ ∀ e, r = .error e → E (wrap e) s := by
  cases r with
  | ok a => simp [ofExcept, ensures_pure]
  | error e => simp [ofExcept, ensures_throw]

theorem ensures_ofExcept_never {wrap : ε' → ε} {r : Except ε' α} :
    Ensures (ofExcept wrap r : EStateM ε σ α) s Q (fun _ _ => False) ↔ ∃ a, r = .ok a ∧ Q a s := by
  cases r with
  | ok a => simp [ofExcept, ensures_pure]
  | error e => simp [ofExcept, ensures_throw]

theorem ensures_failIf {c : Prop} [Decidable c] {e : ε} {Q : Unit → σ → Prop} :
    Ensures (failIf c e : EStateM ε σ Unit) s Q E ↔ (¬c → Q () s) ∧ (c → E e s) := by
  unfold failIf
  split
  · simp [ensures_throw, *]
  · simp [ensures_pure, *]

theorem ensures_run {p : Part σ τ} {wrap : ε' → ε} {x : EStateM ε' τ α} :
    Ensures (p.run wrap x) s Q E ↔
      Ensures x (p.get s) (fun a t => Q a (p.set t s)) fun e t => E (wrap e) (p.set t s) := by
  unfold Ensures Part.run
  cases x (p.get s) <;> exact Iff.rfl

end EStateM
