import SutraArbiter.Number.Double
import Mathlib.Algebra.Group.Nat.Defs
import Mathlib.Data.Nat.Log

namespace SutraArbiter

/-! Shares of one stay shares of one, whatever is lost by rounding: a bound that has
an exact value itself is never passed. -/

namespace Double

variable {x y : Double} {numerator denominator bound : Nat} {negative : Bool}

theorem nearest_le (hpositive : 0 < denominator) (h : numerator ≤ bound * denominator) :
    nearest numerator denominator ≤ bound := by
  have hfloor : numerator / denominator ≤ bound := Nat.div_le_of_le_mul (by rwa [Nat.mul_comm])
  have hsum := Nat.div_add_mod numerator denominator
  unfold nearest
  dsimp only
  rcases Nat.lt_or_eq_of_le hfloor with hlt | heq
  · have hparity := Nat.mod_lt (numerator / denominator) (show 0 < 2 by decide)
    split
    · exact hfloor
    · split <;> omega
  · -- the quotient is exact, so that nothing is left to round
    have hrest : numerator % denominator = 0 := by
      rw [heq, Nat.mul_comm] at hsum
      omega
    rw [hrest, if_pos (by omega)]
    exact hfloor

theorem nearest_zero (denominator : Nat) : nearest 0 denominator = 0 := by
  simp [nearest]

theorem nearestUnits_zero (denominator : Nat) : nearestUnits 0 denominator = 0 := by
  simp [nearestUnits, nearest_zero]

theorem nearestUnits_le_pow {exponent : Nat} (hpositive : 0 < denominator)
    (h : numerator ≤ 2 ^ exponent * denominator) :
    nearestUnits numerator denominator ≤ 2 ^ exponent := by
  have hquotient : numerator / denominator ≤ 2 ^ exponent :=
    Nat.div_le_of_le_mul (by rwa [Nat.mul_comm])
  obtain ⟨place, hplace, hstep⟩ : ∃ place ≤ exponent,
      spacing (numerator / denominator) = 2 ^ place := by
    refine ⟨_, ?_, rfl⟩
    have hlog : (numerator / denominator).log2 ≤ (2 ^ exponent).log2 := by
      rw [Nat.log2_eq_log_two, Nat.log2_eq_log_two]
      exact Nat.log_mono_right hquotient
    rw [Nat.log2_two_pow] at hlog
    omega
  have hsplit : 2 ^ exponent = 2 ^ (exponent - place) * 2 ^ place := by
    rw [← Nat.pow_add, Nat.sub_add_cancel hplace]
  unfold nearestUnits
  dsimp only
  rw [hstep, hsplit]
  refine Nat.mul_le_mul_right _ (nearest_le (Nat.mul_pos hpositive (Nat.two_pow_pos place)) ?_)
  rw [hsplit] at h
  calc numerator ≤ 2 ^ (exponent - place) * 2 ^ place * denominator := h
    _ = 2 ^ (exponent - place) * (denominator * 2 ^ place) := by
      rw [Nat.mul_assoc, Nat.mul_comm (2 ^ place)]

theorem exists_exponent : ∃ exponent limit, exponent < limit
    ∧ unitsPerOne = 2 ^ exponent ∧ unitsLimit = 2 ^ limit := by
  have hlt : 1074 < 2098 := by decide
  unfold unitsPerOne unitsLimit
  generalize 1074 = exponent at *
  generalize 2098 = limit at *
  exact ⟨exponent, limit, hlt, rfl, rfl⟩

theorem unitsPerOne_pos : 0 < unitsPerOne := by
  obtain ⟨exponent, -, -, hone, -⟩ := exists_exponent
  rw [hone]
  exact Nat.two_pow_pos exponent

theorem unitsPerOne_lt_unitsLimit : unitsPerOne < unitsLimit := by
  obtain ⟨exponent, limit, hlt, hone, hlimit⟩ := exists_exponent
  rw [hone, hlimit]
  exact Nat.pow_lt_pow_right (by decide) hlt

theorem nearestUnits_le_one (hpositive : 0 < denominator) (h : numerator ≤ denominator) :
    nearestUnits (numerator * unitsPerOne) denominator ≤ unitsPerOne := by
  obtain ⟨exponent, -, -, hone, -⟩ := exists_exponent
  rw [hone]
  refine nearestUnits_le_pow hpositive ?_
  rw [Nat.mul_comm]
  exact Nat.mul_le_mul_left _ h

theorem isShare_units {count : Int} :
    (Level.units count).isShare = true ↔ 0 ≤ count ∧ count ≤ unitsPerOne := by
  have hzero : Level.ofInt 0 = .units 0 := by rw [Level.ofInt, Int.zero_mul]
  have hone : Level.ofInt 1 = .units unitsPerOne := by rw [Level.ofInt, Int.one_mul]
  rw [Level.isShare, hzero, hone]
  generalize unitsPerOne = bound
  simp only [Level.le, Level.lt, Level.same, Bool.and_eq_true, Bool.or_eq_true,
    decide_eq_true_eq, Level.units.injEq]
  omega

/-- A share is a magnitude up to one, and not below zero. -/
theorem isShare_iff :
    x.level.isShare = true ↔ ∃ negative units, x = .finite negative units
      ∧ units ≤ unitsPerOne ∧ (negative = true → units = 0) := by
  constructor
  · intro h
    cases x with
    | nan => exact absurd h (by decide)
    | infinite negative => cases negative <;> exact absurd h (by decide)
    | finite negative units =>
        cases negative with
        | false =>
            obtain ⟨-, hunits⟩ := isShare_units.mp h
            exact ⟨false, units, rfl, Int.ofNat_le.mp hunits, nofun⟩
        | true =>
            obtain ⟨hunits, -⟩ := isShare_units.mp h
            obtain rfl : units = 0 := by omega
            exact ⟨true, 0, rfl, Nat.zero_le _, fun _ => rfl⟩
  · rintro ⟨negative, units, rfl, hunits, hzero⟩
    cases negative with
    | false => exact isShare_units.mpr ⟨Int.natCast_nonneg _, Int.ofNat_le.mpr hunits⟩
    | true =>
        rw [hzero rfl]
        exact isShare_units.mpr ⟨Int.le_refl _, Int.natCast_nonneg _⟩

theorem isShare_ofRatio (hpositive : 0 < denominator) (h : numerator ≤ denominator)
    (hnegative : negative = true → numerator = 0) :
    (ofRatio negative numerator denominator).level.isShare = true := by
  have hunits := nearestUnits_le_one hpositive h
  refine isShare_iff.mpr ⟨negative, _, ?_, hunits, fun hsign => ?_⟩
  · have hlimit := Nat.lt_of_le_of_lt hunits unitsPerOne_lt_unitsLimit
    unfold ofRatio
    rw [if_neg (Nat.not_le_of_lt hlimit)]
  · rw [hnegative hsign, Nat.zero_mul, nearestUnits_zero]

theorem isShare_mul (hx : x.level.isShare = true) (hy : y.level.isShare = true) :
    (x.mul y).level.isShare = true := by
  obtain ⟨negative, units, rfl, hunits, hzero⟩ := isShare_iff.mp hx
  obtain ⟨negative', units', rfl, hunits', hzero'⟩ := isShare_iff.mp hy
  rw [mul]
  refine isShare_ofRatio (Nat.mul_pos unitsPerOne_pos unitsPerOne_pos)
    (Nat.mul_le_mul hunits hunits') fun hsign => ?_
  cases negative with
  | true => rw [hzero rfl, Nat.zero_mul]
  | false =>
      cases negative' with
      | true => rw [hzero' rfl, Nat.mul_zero]
      | false => cases hsign

theorem isShare_roundPlaces (places : Nat) (hx : x.level.isShare = true) :
    (x.roundPlaces places).level.isShare = true := by
  obtain ⟨negative, units, rfl, hunits, hzero⟩ := isShare_iff.mp hx
  rw [roundPlaces]
  refine isShare_ofRatio (Nat.pow_pos (by decide)) (nearest_le unitsPerOne_pos ?_) fun hsign => ?_
  · rw [Nat.mul_comm]
    exact Nat.mul_le_mul_left _ hunits
  · rw [hzero hsign, Nat.zero_mul, nearest_zero]

theorem isShare_zero : zero.level.isShare = true :=
  isShare_iff.mpr ⟨false, 0, rfl, Nat.zero_le _, nofun⟩

theorem isShare_one : one.level.isShare = true :=
  isShare_iff.mpr ⟨false, unitsPerOne, rfl, Nat.le_refl _, nofun⟩

theorem exists_ofInt? {value : Int} (hlow : 0 ≤ value) (hhigh : value ≤ 1) :
    ∃ share, ofInt? value = some share ∧ share.level.isShare = true := by
  have hshare : (ofRatio (value < 0) value.natAbs 1).level.isShare = true := by
    refine isShare_ofRatio Nat.one_pos (by omega) fun hsign => ?_
    have := of_decide_eq_true hsign
    omega
  obtain ⟨negative, units, hfinite, -, -⟩ := isShare_iff.mp hshare
  refine ⟨.finite negative units, ?_, hfinite ▸ hshare⟩
  rw [ofInt?, hfinite]
  rfl

end Double

end SutraArbiter
