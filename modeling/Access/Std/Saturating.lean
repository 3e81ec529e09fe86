import Mathlib.Algebra.Ring.Int.Defs
import Mathlib.Algebra.Ring.Nat
import Mathlib.Tactic.Common

/-! # Saturating 64-bit arithmetic

The saturating operations of a signed 64-bit integer, through core's clamping conversion
`Int64.ofIntClamp`. A saturated result is the exact one moved into the range
(`toInt_ofIntClamp_eq`), so comparing it with a bound is exact for every bound below the largest
value (`ofIntClamp_le`), and at the largest value the comparison says nothing. Of the wrapping
operations there is what tells that they have not wrapped. -/

namespace Int64

/-- `a.saturating_sub(b)` -/
def saturatingSub (a b : Int64) : Int64 := ofIntClamp (a.toInt - b.toInt)

/-- `a.saturating_add(b)` -/
def saturatingAdd (a b : Int64) : Int64 := ofIntClamp (a.toInt + b.toInt)

/-- `a.saturating_mul(b)` -/
def saturatingMul (a b : Int64) : Int64 := ofIntClamp (a.toInt * b.toInt)

/-- `a.abs_diff(b)`: the distance, which always fits the unsigned type. -/
def absDiff (a b : Int64) : UInt64 := UInt64.ofNat (a.toInt - b.toInt).natAbs

/-- `a.unsigned_abs()` -/
def unsignedAbs (a : Int64) : UInt64 := UInt64.ofNat a.toInt.natAbs

theorem toInt_maxValue_eq : maxValue.toInt = 2 ^ 63 - 1 := by decide

theorem toInt_minValue_eq : minValue.toInt = -2 ^ 63 := by decide

theorem toInt_range (a : Int64) : -2 ^ 63 ≤ a.toInt ∧ a.toInt < 2 ^ 63 :=
  ⟨a.le_toInt, a.toInt_lt⟩

theorem toInt_ofIntClamp_eq (n : Int) :
    (ofIntClamp n).toInt = max (-2 ^ 63) (min n (2 ^ 63 - 1)) := by
  by_cases hl : minValue.toInt ≤ n
  · by_cases hr : n ≤ maxValue.toInt
    · rw [toInt_ofIntClamp hl hr]
      rw [toInt_minValue_eq] at hl
      rw [toInt_maxValue_eq] at hr
      omega
    · have h : ofIntClamp n = maxValue := by simp only [ofIntClamp, dif_pos hl, dif_neg hr]
      rw [toInt_maxValue_eq] at hr
      rw [h, toInt_maxValue_eq]
      omega
  · have h : ofIntClamp n = minValue := by simp only [ofIntClamp, dif_neg hl]
    rw [toInt_minValue_eq] at hl
    rw [h, toInt_minValue_eq]
    omega

theorem toInt_ofIntClamp_of_range {n : Int} (h₁ : -2 ^ 63 ≤ n) (h₂ : n < 2 ^ 63) :
    (ofIntClamp n).toInt = n := by
  rw [toInt_ofIntClamp_eq]
  omega

/-- An upper bound below the largest value is compared exactly. -/
theorem ofIntClamp_le {n : Int} {m : Int64} :
    ofIntClamp n ≤ m ↔ n ≤ m.toInt ∨ m = maxValue := by
  have hm := m.toInt_range
  rw [le_iff_toInt_le, toInt_ofIntClamp_eq, ← toInt_inj (y := maxValue), toInt_maxValue_eq]
  omega

theorem saturatingSub_le {a b m : Int64} :
    a.saturatingSub b ≤ m ↔ a.toInt - b.toInt ≤ m.toInt ∨ m = maxValue := ofIntClamp_le

theorem toNat_absDiff (a b : Int64) : (a.absDiff b).toNat = (a.toInt - b.toInt).natAbs := by
  have ha := a.toInt_range
  have hb := b.toInt_range
  simp only [absDiff, UInt64.toNat_ofNat']
  omega

theorem toNat_unsignedAbs (a : Int64) : a.unsignedAbs.toNat = a.toInt.natAbs := by
  have ha := a.toInt_range
  simp only [unsignedAbs, UInt64.toNat_ofNat']
  omega

/-- A value above the smallest one is compared exactly with an upper bound. -/
theorem le_ofIntClamp {n : Int} {m : Int64} (hm : -2 ^ 63 < m.toInt) :
    m ≤ ofIntClamp n ↔ m.toInt ≤ n := by
  have := m.toInt_range
  rw [le_iff_toInt_le, toInt_ofIntClamp_eq]
  omega

/-- `x as i64` -/
theorem toInt_toInt64 (x : UInt64) :
    x.toInt64.toInt = if x.toNat < 2 ^ 63 then (x.toNat : Int) else x.toNat - 2 ^ 64 := by
  rw [← toInt_toBitVec, UInt64.toBitVec_toInt64, BitVec.toInt_eq_toNat_cond, UInt64.toNat_toBitVec]
  split <;> split <;> omega

/-- A lifetime from `t` on, given in seconds of the unsigned type: one of the upper half of its
values has no time in it. -/
theorem le_saturatingAdd_toInt64 {t u : Int64} {ttl : UInt64} (ht : -2 ^ 63 < t.toInt)
    (htu : t.toInt ≤ u.toInt) :
    u ≤ t.saturatingAdd ttl.toInt64 ↔ u.toInt ≤ t.toInt + ttl.toNat ∧ ttl.toNat < 2 ^ 63 := by
  have httl := ttl.toNat_lt
  rw [saturatingAdd, le_ofIntClamp (by omega), toInt_toInt64]
  split <;> omega

/-- A wrapping difference has not wrapped if it is not larger than what was subtracted from. -/
theorem toInt_sub_of_sub_le {a b : Int64} (hb : 0 ≤ b) (h : a - b ≤ a) :
    (a - b).toInt = a.toInt - b.toInt := by
  have ha := a.toInt_range
  have hb' := b.toInt_range
  have hb : 0 ≤ b.toInt := Int64.le_iff_toInt_le.mp hb
  rw [le_iff_toInt_le, toInt_sub] at h
  rw [toInt_sub]
  simp only [Int.bmod_def] at h ⊢
  split at h <;> split <;> omega

theorem toInt_add_of_le_add {a b : Int64} (hb : 0 ≤ b) (h : a ≤ a + b) :
    (a + b).toInt = a.toInt + b.toInt := by
  have ha := a.toInt_range
  have hb' := b.toInt_range
  have hb : 0 ≤ b.toInt := Int64.le_iff_toInt_le.mp hb
  rw [le_iff_toInt_le, toInt_add] at h
  rw [toInt_add]
  simp only [Int.bmod_def] at h ⊢
  split at h <;> split <;> omega

end Int64
