import Access.Std.Json
import Mathlib.Algebra.Order.Field.Rat

/-! # Arithmetic on floating-point numbers

The operations of Python on numbers that may be infinite or none. They are exact on finite numbers:
neither rounding nor overflow is modelled. -/

namespace JsonFloat

/-- `math.isfinite(x)` -/
def isFinite : JsonFloat → Bool
  | finite _ => true
  | _ => false

/-- `x < y`, which is false of what is no number. -/
def lt : JsonFloat → JsonFloat → Bool
  | finite p, finite q => p < q
  | negInf, finite _ | negInf, posInf | finite _, posInf => true
  | _, _ => false

/-- `x <= y` -/
def le : JsonFloat → JsonFloat → Bool
  | finite p, finite q => p ≤ q
  | negInf, negInf | negInf, finite _ | negInf, posInf | finite _, posInf | posInf, posInf => true
  | _, _ => false

/-- `max(x, y)`: the second only if it is greater. -/
def pyMax (x y : JsonFloat) : JsonFloat := if x.lt y then y else x

/-- `x - y` -/
def sub : JsonFloat → JsonFloat → JsonFloat
  | finite p, finite q => finite (p - q)
  | posInf, finite _ | posInf, negInf | finite _, negInf => posInf
  | negInf, finite _ | negInf, posInf | finite _, posInf => negInf
  | _, _ => nan

/-- `x / d` of a positive number. -/
def divBy : JsonFloat → ℚ → JsonFloat
  | finite p, d => finite (p / d)
  | x, _ => x

/-- `abs(x)` -/
def pyAbs : JsonFloat → JsonFloat
  | finite p => finite |p|
  | negInf | posInf => posInf
  | nan => nan

theorem pyMax_finite (p q : ℚ) : (finite p).pyMax (finite q) = finite (max p q) := by
  unfold pyMax lt
  by_cases h : p < q
  · rw [if_pos (decide_eq_true h), max_eq_right h.le]
  · rw [if_neg (by simpa using h), max_eq_left (not_lt.mp h)]

/-- Only a finite number is near another one. -/
theorem near_iff {x : JsonFloat} {p d : ℚ} :
    (x.sub (finite p)).pyAbs.le (finite d) = true ↔ ∃ q, x = finite q ∧ |q - p| ≤ d := by
  cases x with
  | finite q => simp [sub, pyAbs, le]
  | nan | negInf | posInf => simp [sub, pyAbs, le]

end JsonFloat
