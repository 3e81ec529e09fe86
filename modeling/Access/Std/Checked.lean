import Access.Std.Control
import Access.Std.Saturating

/-! # Checked arithmetic

A computation with overflow checks stops where an operation has no exact result. `Checks x y` says
that `x` is `y` with checks: it does what `y` does, unless a check stops it. -/

namespace Int64

/-- `a + b`, if it does not overflow. -/
def checkedAdd (a b : Int64) : Option Int64 :=
  if -2 ^ 63 ≤ a.toInt + b.toInt ∧ a.toInt + b.toInt < 2 ^ 63 then some (a + b) else none

/-- `a - b`, if it does not overflow. -/
def checkedSub (a b : Int64) : Option Int64 :=
  if -2 ^ 63 ≤ a.toInt - b.toInt ∧ a.toInt - b.toInt < 2 ^ 63 then some (a - b) else none

theorem checkedAdd_eq_some {a b c : Int64} : a.checkedAdd b = some c ↔
    (-2 ^ 63 ≤ a.toInt + b.toInt ∧ a.toInt + b.toInt < 2 ^ 63) ∧ a + b = c := by
  rw [checkedAdd, Option.ite_none_right_eq_some, Option.some.injEq]

theorem checkedSub_eq_some {a b c : Int64} : a.checkedSub b = some c ↔
    (-2 ^ 63 ≤ a.toInt - b.toInt ∧ a.toInt - b.toInt < 2 ^ 63) ∧ a - b = c := by
  rw [checkedSub, Option.ite_none_right_eq_some, Option.some.injEq]

end Int64

/-- `x as i64`, if it does not change the value. -/
def UInt64.checkedToInt64 (x : UInt64) : Option Int64 :=
  if x.toNat < 2 ^ 63 then some x.toInt64 else none

namespace EStateM

variable {ε σ α β : Type}

/-- Why a computation with checks stops: a check, or an error of its own. -/
inductive Stop (ε : Type) where
  | overflow
  | error (e : ε)

/-- A computation that has nothing to check. -/
def plain (x : EStateM ε σ α) : EStateM (Stop ε) σ α := fun s =>
  match x s with
  | .ok a s => .ok a s
  | .error e s => .error (.error e) s

/-- The result of an operation, if it has one. -/
def checked (o : Option α) : EStateM (Stop ε) σ α := okOr o .overflow

theorem plain_eq_ok {x : EStateM ε σ α} {s s' : σ} {a : α} :
    plain x s = .ok a s' ↔ x s = .ok a s' := by
  unfold plain
  cases x s <;> simp

theorem plain_eq_overflow {x : EStateM ε σ α} {s s' : σ} :
    plain x s = .error .overflow s' ↔ False := by
  unfold plain
  cases x s <;> simp

theorem checked_eq_ok {o : Option α} {s s' : σ} {a : α} :
    (checked o : EStateM (Stop ε) σ α) s = .ok a s' ↔ o = some a ∧ s' = s := okOr_eq_ok

theorem checked_eq_overflow {o : Option α} {s s' : σ} :
    (checked o : EStateM (Stop ε) σ α) s = .error .overflow s' ↔ o = none ∧ s' = s := by
  simp only [checked, okOr_eq_error, true_and]

/-- `x` is `y` with checks. -/
def Checks (x : EStateM (Stop ε) σ α) (y : EStateM ε σ α) : Prop :=
  ∀ s, (∃ s', x s = .error .overflow s') ∨ x s = plain y s

namespace Checks

theorem plain (y : EStateM ε σ α) : Checks (plain y) y := fun _ => .inr rfl

theorem pure (a : α) : Checks (pure a : EStateM (Stop ε) σ α) (pure a) := fun _ => .inr rfl

theorem bind {x : EStateM (Stop ε) σ α} {y : EStateM ε σ α} {f : α → EStateM (Stop ε) σ β}
    {g : α → EStateM ε σ β} (hx : Checks x y) (hf : ∀ a, Checks (f a) (g a)) :
    Checks (x >>= f) (y >>= g) := by
  intro s
  rcases hx s with ⟨s', overflow⟩ | same
  · exact .inl ⟨s', bind_eq_error.mpr (.inl overflow)⟩
  · have hbind : (x >>= f) s = EStateM.bind x f s := rfl
    have hbind' : EStateM.plain (y >>= g) s =
        match EStateM.bind y g s with
        | .ok a s => .ok a s
        | .error e s => .error (.error e) s := rfl
    unfold EStateM.bind at hbind hbind'
    rw [same] at hbind
    unfold EStateM.plain at hbind
    cases hy : y s with
    | ok a s₁ =>
      simp only [hy] at hbind hbind'
      rw [hbind, hbind']
      exact hf a s₁
    | error e s₁ =>
      simp only [hy] at hbind hbind'
      rw [hbind, hbind']
      exact .inr rfl

/-- A check before the rest of a computation. -/
theorem checked {o : Option β} {f : β → EStateM (Stop ε) σ α} {y : EStateM ε σ α}
    (h : ∀ b, o = some b → Checks (f b) y) : Checks (EStateM.checked o >>= f) y := by
  intro s
  cases o with
  | none => exact .inl ⟨s, bind_eq_error.mpr (.inl (checked_eq_overflow.mpr ⟨rfl, rfl⟩))⟩
  | some b => exact h b rfl s

end Checks

end EStateM
