import CameraTelemetry.Number.Binary64

/-!
# Whole numbers in double precision

A magnitude is its own rounding. Every whole number up to `2 ^ 53` is therefore kept exactly.
-/
namespace CameraTelemetry.Number

open Binary64 (unitsPerOne)

/-! ## Rounding -/

theorem roundRatio_scale {num den k : Nat} (pos : 0 < k) :
    roundRatio (num * k) (den * k) = roundRatio num den := by
  have less : 2 * (num % den * k) < den * k ↔ 2 * (num % den) < den := by
    rw [← Nat.mul_assoc]
    exact Nat.mul_lt_mul_right pos
  have level : 2 * (num % den * k) = den * k ↔ 2 * (num % den) = den := by
    rw [← Nat.mul_assoc]
    exact Nat.mul_left_inj (Nat.ne_of_gt pos)
  simp only [roundRatio, Nat.mul_mod_mul_right, Nat.mul_div_mul_right _ _ pos, less, level]

theorem roundRatio_of_dvd {num den : Nat} (pos : 0 < den) (divides : den ∣ num) :
    roundRatio num den = num / den := by
  have rest : 2 * (num % den) < den := by
    rw [Nat.mod_eq_zero_of_dvd divides]
    exact pos
  rw [roundRatio, if_pos (.inl rest)]

theorem div_le_roundRatio (num den : Nat) : num / den ≤ roundRatio num den := by
  unfold roundRatio
  split <;> omega

namespace Magnitude

theorem nearest?_eq_some_iff {num den : Nat} {m : Magnitude} :
    nearest? num den = some m ↔ 0 < den ∧ roundedUnits num den = m.units := by
  unfold nearest?
  constructor
  · intro found
    split at found
    case isTrue small =>
      obtain rfl := Option.some.inj found
      exact ⟨small.1, rfl⟩
    case isFalse => cases found
  · rintro ⟨pos, units⟩
    have small : 0 < den ∧ (roundedUnits num den).log2 < 2098 := ⟨pos, units ▸ m.fits.2⟩
    rw [dif_pos small]
    cases m
    cases units
    rfl

/-- Rounding depends on the quotient alone. -/
theorem nearest?_scale {num den k : Nat} (pos : 0 < k) :
    nearest? (num * k) (den * k) = nearest? num den := by
  have dropped_eq : dropped (num * k) (den * k) = dropped num den := by
    rw [dropped, dropped, Nat.mul_div_mul_right _ _ pos]
  have units : roundedUnits (num * k) (den * k) = roundedUnits num den := by
    rw [roundedUnits, roundedUnits, dropped_eq, Nat.mul_right_comm, roundRatio_scale pos]
  refine Option.ext fun m => ?_
  rw [nearest?_eq_some_iff, nearest?_eq_some_iff, units, Nat.mul_pos_iff_of_pos_right pos]

theorem nearest?_mul_self {num k : Nat} (pos : 0 < k) : nearest? (num * k) k = nearest? num 1 := by
  have scaled := @nearest?_scale num 1 k pos
  rwa [Nat.one_mul] at scaled

theorem roundedUnits_of_fits {n : Nat} (fits : Fits n) : roundedUnits n 1 = n := by
  have drops : dropped n 1 = n.log2 - 52 := by rw [dropped, Nat.div_one]
  rw [roundedUnits, drops, Nat.one_mul, roundRatio_of_dvd (Nat.two_pow_pos _) fits.1,
    Nat.div_mul_cancel fits.1]

theorem nearest?_units (m : Magnitude) : nearest? m.units 1 = some m :=
  nearest?_eq_some_iff.2 ⟨Nat.one_pos, roundedUnits_of_fits m.fits⟩

theorem two_pow_log2_le_roundedUnits {n : Nat} (pos : n ≠ 0) : 2 ^ n.log2 ≤ roundedUnits n 1 := by
  have drops : dropped n 1 = n.log2 - 52 := by rw [dropped, Nat.div_one]
  have part : 2 ^ dropped n 1 ∣ 2 ^ n.log2 := Nat.pow_dvd_pow 2 (by omega)
  calc 2 ^ n.log2 = 2 ^ n.log2 / 2 ^ dropped n 1 * 2 ^ dropped n 1 := (Nat.div_mul_cancel part).symm
    _ ≤ n / 2 ^ dropped n 1 * 2 ^ dropped n 1 :=
      Nat.mul_le_mul_right _ (Nat.div_le_div_right (Nat.log2_self_le pos))
    _ ≤ roundRatio n (1 * 2 ^ dropped n 1) * 2 ^ dropped n 1 := by
      rw [Nat.one_mul]
      exact Nat.mul_le_mul_right _ (div_le_roundRatio ..)

/-! ## Whole magnitudes -/

theorem unitsPerOne_pos : 0 < unitsPerOne := by
  rw [unitsPerOne]
  exact Nat.two_pow_pos 1074

theorem two_pow_units : 2 ^ 53 * unitsPerOne = 2 ^ (53 + 1074) := by
  rw [unitsPerOne]
  exact (Nat.pow_add 2 53 1074).symm

theorem fits_whole {n : Nat} (small : n ≤ 2 ^ 53) : Fits (n * unitsPerOne) := by
  constructor
  · rw [unitsPerOne]
    exact dvd_of_le_pow (k := 1074) small
  · by_cases zero : n = 0
    · simp [zero]
    · have pos : n * unitsPerOne ≠ 0 := Nat.mul_ne_zero zero (Nat.ne_of_gt unitsPerOne_pos)
      have bound : n * unitsPerOne ≤ 2 ^ (53 + 1074) :=
        two_pow_units ▸ Nat.mul_le_mul_right _ small
      have less :=
        Nat.pow_lt_pow_right (a := 2) (m := 53 + 1074) (n := 2098) (by decide) (by decide)
      exact (Nat.log2_lt pos).2 (Nat.lt_of_le_of_lt bound less)

def whole (n : Nat) (small : n ≤ 2 ^ 53) : Magnitude := ⟨n * unitsPerOne, fits_whole small⟩

theorem whole_units {n : Nat} (small : n ≤ 2 ^ 53) : (whole n small).units = n * unitsPerOne := rfl

/-- Whole numbers below `2 ^ 53` are told apart from all others. -/
theorem nearest?_whole_iff {n v : Nat} (small : n < 2 ^ 53) :
    nearest? (v * unitsPerOne) 1 = some (whole n (Nat.le_of_lt small)) ↔ v = n := by
  constructor
  · intro found
    have rounded : roundedUnits (v * unitsPerOne) 1 = n * unitsPerOne :=
      (nearest?_eq_some_iff.1 found).2
    by_cases fits : v ≤ 2 ^ 53
    · rw [roundedUnits_of_fits (fits_whole fits)] at rounded
      exact Nat.mul_right_cancel unitsPerOne_pos rounded
    · have large : 2 ^ (53 + 1074) ≤ v * unitsPerOne :=
        two_pow_units ▸ Nat.mul_le_mul_right _ (Nat.le_of_not_le fits)
      have pos : v * unitsPerOne ≠ 0 := Nat.mul_ne_zero (by omega) (Nat.ne_of_gt unitsPerOne_pos)
      have less : n * unitsPerOne < 2 ^ (53 + 1074) :=
        two_pow_units ▸ Nat.mul_lt_mul_of_pos_right small unitsPerOne_pos
      have leading : 53 + 1074 ≤ (v * unitsPerOne).log2 := (Nat.le_log2 pos).2 large
      have stays := two_pow_log2_le_roundedUnits pos
      rw [rounded] at stays
      have above := Nat.le_trans (Nat.pow_le_pow_right Nat.two_pos leading) stays
      exact absurd above (Nat.not_le_of_lt less)
  · rintro rfl
    exact nearest?_units (whole v (Nat.le_of_lt small))

end Magnitude

namespace Binary64

theorem ofNat_eq_finite_iff {n : Nat} {m : Magnitude} :
    ofNat n = .finite false m ↔ Magnitude.nearest? (n * unitsPerOne) 1 = some m := by
  rw [ofNat, ofRatio]
  split
  case h_1 found => simp [found]
  case h_2 none => simp [none]

/-- Whole numbers up to `2 ^ 53` are kept exactly. -/
theorem ofNat_eq {n : Nat} (small : n ≤ 2 ^ 53) :
    ofNat n = .finite false (Magnitude.whole n small) :=
  ofNat_eq_finite_iff.2 (Magnitude.nearest?_units (Magnitude.whole n small))

theorem toCount_ofNat {n : Nat} (small : n ≤ 2 ^ 53) : (ofNat n).toCount = n := by
  have units : (Magnitude.whole n small).units / unitsPerOne = n :=
    Nat.mul_div_cancel n Magnitude.unitsPerOne_pos
  have count : (ofNat n).toCount = min n (2 ^ 64 - 1) := by
    rw [ofNat_eq small, toCount, units, if_neg Bool.false_ne_true]
  omega

end Binary64

end CameraTelemetry.Number
