import Access.Verify.Cedar

/-! # Readings and the limits of the policy

The policy has upper limits on two readings in thousandths, which are rounded up and moved into the
range of an integer. A finite reading is never below itself after that. But a reading that is not a
number becomes zero, and negative infinity the smallest integer, while no reading at all becomes the
largest one. -/

namespace Access

/-- An actual number, with at most `limit` thousandths. -/
def Reading.Within (x : Reading) (limit : Int) : Prop := ∃ q, x = .finite q ∧ 1000 * q ≤ limit

/-- A reading that is not finite is above `limit` after the conversion. -/
structure Reading.Limitable (x : Reading) (limit : Int) : Prop where
  nan : x = .nan → limit < 0
  negInf : x = .negInf → limit < Int64.minValue.toInt

/-- The conversion of a number, below the largest limit. -/
theorem Reading.ceilMilli_finite_le {q : Rat} {limit : Int} (hlimit : limit < Int64.maxValue.toInt)
    (h : (Reading.finite q).ceilMilli.toInt ≤ limit) : 1000 * q ≤ limit := by
  rw [Int64.toInt_maxValue_eq] at hlimit
  rw [ceilMilli, Int64.toInt_ofIntClamp_eq] at h
  have hceil : (q * 1000).ceil ≤ limit := by omega
  rw [Rat.mul_comm]
  exact Rat.ceil_le_iff.mp hceil

theorem Reading.within_of_le_iff (x : Reading) {limit : Int}
    (hlimit : limit < Int64.maxValue.toInt) :
    (x.ceilMilli.toInt ≤ limit → x.Within limit) ↔ x.Limitable limit := by
  constructor
  · intro h
    constructor
    · rintro rfl
      apply Int.not_le.mp
      intro hle
      obtain ⟨q, hq, -⟩ := h hle
      cases hq
    · rintro rfl
      apply Int.not_le.mp
      intro hle
      obtain ⟨q, hq, -⟩ := h hle
      cases hq
  · intro H hle
    cases x with
    | nan => exact absurd hle (Int.not_le.mpr (H.nan rfl))
    | negInf => exact absurd hle (Int.not_le.mpr (H.negInf rfl))
    | posInf => exact absurd hle (Int.not_le.mpr hlimit)
    | finite q => exact ⟨q, rfl, ceilMilli_finite_le hlimit hle⟩

/-- The policy finds a fact to be at most `limit`. -/
def Limited (facts : CedarContext) (name : String) (limit : Int) : Prop :=
  ∃ n, facts.lookup name = some (.long n) ∧ n.toInt ≤ limit

theorem limited_iff {facts : CedarContext} {name : String} {n : Int64}
    (h : facts.lookup name = some (.long n)) (limit : Int) :
    Limited facts name limit ↔ n.toInt ≤ limit := by
  constructor
  · rintro ⟨m, hm, hle⟩
    cases h.symm.trans hm
    exact hle
  · intro hle
    exact ⟨n, h, hle⟩

section

variable (credentials : List VerifiedCredentialEvidence)
  (holderProofValid sessionAuthorized readinessFresh : Bool)

/-- Without evidence, no limit is satisfied. -/
theorem not_limited_of_no_readiness {name : String}
    (hname : name = "range_mm" ∨ name = "closing_rate_mmps") {limit : Int}
    (hlimit : limit < Int64.maxValue.toInt) :
    ¬Limited (context credentials holderProofValid sessionAuthorized none readinessFresh) name
      limit := by
  rcases hname with rfl | rfl
  all_goals
    rw [limited_iff rfl]
    exact Int.not_le.mpr hlimit

/-- For every reading and every limit below the largest integer: what the policy finds to be within
the limit is an actual number within it, if and only if the limit is negative for a reading that is
not a number, and below all integers for negative infinity. -/
theorem limited_within_iff (readiness : ReadinessEvidence) (limit : Int)
    (hlimit : limit < Int64.maxValue.toInt) :
    let facts := context credentials holderProofValid sessionAuthorized (some readiness)
      readinessFresh
    ((Limited facts "range_mm" limit → readiness.rangeM.Within limit) ↔
      readiness.rangeM.Limitable limit) ∧
    ((Limited facts "closing_rate_mmps" limit → readiness.closingRateMps.Within limit) ↔
      readiness.closingRateMps.Limitable limit) := by
  intro facts
  have hrange : facts.lookup "range_mm" = some (.long readiness.rangeM.ceilMilli) := rfl
  have hclosing : facts.lookup "closing_rate_mmps" =
      some (.long readiness.closingRateMps.ceilMilli) := rfl
  rw [limited_iff hrange, limited_iff hclosing]
  exact ⟨readiness.rangeM.within_of_le_iff hlimit, readiness.closingRateMps.within_of_le_iff hlimit⟩

end

/-- Evidence with these two readings, and no checks. -/
def readingsOf (rangeM closingRateMps : Reading) : ReadinessEvidence :=
  { observedAtMs := 0, rangeM, closingRateMps, checks := ∅ }

/-- Six tenths of a metre a second, at the limit of the policy. -/
theorem limited_within_iff_slow :
    Limited (context [] true true (some (readingsOf .posInf (.finite (6 / 10)))) true)
      "closing_rate_mmps" 600 ∧
    (Reading.finite (6 / 10)).Within 600 := by
  have hlimited : Limited (context [] true true (some (readingsOf .posInf (.finite (6 / 10)))) true)
      "closing_rate_mmps" 600 := ⟨600, by decide +kernel, by decide⟩
  refine ⟨hlimited, ?_⟩
  have hslow := (limited_within_iff [] true true true (readingsOf .posInf (.finite (6 / 10))) 600
    (by decide)).2
  apply hslow.mpr ⟨?_, ?_⟩ hlimited
  · intro h
    cases h
  · intro h
    cases h

/-- A closing rate that is not a number. -/
theorem nan_limited :
    ¬∀ (credentials : List VerifiedCredentialEvidence)
      (holderProofValid sessionAuthorized readinessFresh : Bool) (readiness : ReadinessEvidence)
      (limit : Int), limit < Int64.maxValue.toInt →
      let facts := context credentials holderProofValid sessionAuthorized (some readiness)
        readinessFresh
      (Limited facts "range_mm" limit → readiness.rangeM.Within limit) ∧
      (Limited facts "closing_rate_mmps" limit → readiness.closingRateMps.Within limit) := by
  intro H
  obtain ⟨-, h⟩ := H [] true true true (readingsOf .posInf .nan) 600 (by decide)
  obtain ⟨q, hq, -⟩ := h ⟨0, rfl, by decide⟩
  cases hq

end Access
