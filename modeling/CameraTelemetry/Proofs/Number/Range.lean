import CameraTelemetry.Number.Count
import CameraTelemetry.Proofs.Number.Whole

/-!
# Counts in double precision

Rounding does not leave the power of two above a quotient. Hence every count of sixty-four bits has
a finite number next to it, which is nought for nought alone, and a quotient of such numbers that
is brought between nought and a hundred is a number between these two.
-/
namespace CameraTelemetry.Number

open Binary64 (unitsPerOne)

namespace Magnitude

theorem dropped_lt {num den k : Nat} (less : num < 2 ^ k * den) (pos : 0 < k) :
    dropped num den < k := by
  have quotient : num / den < 2 ^ k := Nat.div_lt_of_lt_mul (by rwa [Nat.mul_comm])
  by_cases zero : num / den = 0
  · simpa [dropped, zero] using pos
  · have log : (num / den).log2 < k := (Nat.log2_lt zero).2 quotient
    exact Nat.lt_of_le_of_lt (Nat.sub_le ..) log

/-- Rounding does not go beyond the power of two above a quotient. -/
theorem roundedUnits_le_two_pow {num den k : Nat} (less : num < 2 ^ k * den) (pos : 0 < k) :
    roundedUnits num den ≤ 2 ^ k := by
  have le : dropped num den ≤ k := Nat.le_of_lt (dropped_lt less pos)
  have parts : 2 ^ k = 2 ^ (k - dropped num den) * 2 ^ dropped num den := by
    rw [← Nat.pow_add, Nat.sub_add_cancel le]
  have scaled : num < 2 ^ (k - dropped num den) * (den * 2 ^ dropped num den) := by
    rwa [Nat.mul_left_comm, ← parts, Nat.mul_comm]
  rw [roundedUnits, parts]
  exact Nat.mul_le_mul_right _ (roundRatio_le scaled)

theorem exists_nearest? {num den k : Nat} (less : num < 2 ^ k * den) (pos : 0 < k)
    (small : k < 2098) : ∃ m, nearest? num den = some m := by
  have some : 0 < den := by
    refine Nat.pos_of_ne_zero ?_
    rintro rfl
    simp at less
  have bound : (roundedUnits num den).log2 < 2098 := by
    by_cases zero : roundedUnits num den = 0
    · simp [zero]
    · have below : roundedUnits num den < 2 ^ (k + 1) :=
        Nat.lt_of_le_of_lt (roundedUnits_le_two_pow less pos)
          (Nat.pow_lt_pow_right Nat.one_lt_two (Nat.lt_succ_self k))
      exact Nat.lt_of_lt_of_le ((Nat.log2_lt zero).2 below) small
  exact ⟨_, dif_pos ⟨some, bound⟩⟩

theorem mul_unitsPerOne_lt {n k : Nat} (less : n < 2 ^ k) :
    n * unitsPerOne < 2 ^ (k + 1074) * 1 := by
  rw [Nat.mul_one, Nat.pow_add, ← unitsPerOne]
  exact Nat.mul_lt_mul_of_pos_right less unitsPerOne_pos

theorem roundedUnits_pos {n : Nat} (some : n ≠ 0) : 0 < roundedUnits n 1 :=
  Nat.lt_of_lt_of_le (Nat.two_pow_pos _) (two_pow_log2_le_roundedUnits some)

end Magnitude

namespace Binary64

/-- The number next to a quotient keeps the sign. -/
theorem ofRatio_cases (negative : Bool) (num den : Nat) :
    (∃ m, ofRatio negative num den = .finite negative m) ∨
      ofRatio negative num den = .infinite negative := by
  unfold ofRatio
  split
  · exact .inl ⟨_, rfl⟩
  · exact .inr rfl

theorem exists_rounded {n : Nat} (count : n ≤ maxCount) :
    ∃ m, ofNat n = .finite false m ∧ Magnitude.roundedUnits (n * unitsPerOne) 1 = m.units := by
  have less : n < 2 ^ 64 := by
    unfold maxCount at count
    omega
  obtain ⟨m, nearest⟩ :=
    Magnitude.exists_nearest? (Magnitude.mul_unitsPerOne_lt less) (by decide) (by decide)
  exact ⟨m, by rw [ofNat, ofRatio, nearest], (Magnitude.nearest?_eq_some_iff.1 nearest).2⟩

theorem exists_ofNat {n : Nat} (count : n ≤ maxCount) :
    ∃ m, ofNat n = .finite false m ∧ (m.units = 0 ↔ n = 0) := by
  obtain ⟨m, eq, units⟩ := exists_rounded count
  refine ⟨m, eq, fun zero => ?_, ?_⟩
  · refine Decidable.byContradiction fun some => ?_
    have pos := Magnitude.roundedUnits_pos (Nat.mul_ne_zero some
      (Nat.ne_of_gt Magnitude.unitsPerOne_pos))
    exact Nat.ne_of_gt pos (units.trans zero)
  · rintro rfl
    rw [← units, Nat.zero_mul]
    exact Magnitude.roundedUnits_of_fits Magnitude.zero.fits

theorem finite_mul (a b : Magnitude) : Binary64.finite false a * .finite false b =
    ofRatio false (a.units * b.units) (unitsPerOne * unitsPerOne) := by
  change mul _ _ = _
  rw [mul]
  congr 1

theorem finite_div {a b : Magnitude} (some : b.units ≠ 0) :
    Binary64.finite false a / .finite false b = ofRatio false a.units b.units := if_neg some

/-- A quotient of numbers that are not negative, of which the last is not nought. -/
theorem quotient_cases {a b c : Magnitude} (some : c.units ≠ 0) :
    (∃ m, Binary64.finite false a * .finite false b / .finite false c = .finite false m) ∨
      Binary64.finite false a * .finite false b / .finite false c = .infinite false := by
  rw [finite_mul]
  rcases ofRatio_cases false (a.units * b.units) (unitsPerOne * unitsPerOne) with ⟨m, eq⟩ | eq
  · rw [eq, finite_div some]
    exact ofRatio_cases false m.units c.units
  · rw [eq]
    exact .inr rfl

theorem finite_lt_iff {a b : Magnitude} :
    Binary64.finite false a < .finite false b ↔ a.units < b.units := by
  change decide (signed false a < signed false b) = true ↔ _
  simp [signed]

/-- Neither a NaN nor infinite, and between nought and a hundred. -/
structure InPercent (x : Binary64) : Prop where
  finite : x.isFinite = true
  low : ¬ x < 0
  high : ¬ 100 < x

theorem clamp_inPercent {x : Binary64} (known : (∃ m, x = .finite false m) ∨ x = .infinite false) :
    (clamp 0 100 x).InPercent := by
  have zero : (0 : Binary64) = .finite false (Magnitude.whole 0 (by decide)) := ofNat_eq (by decide)
  have hundred : (100 : Binary64) = .finite false (Magnitude.whole 100 (by decide)) :=
    ofNat_eq (by decide)
  have low : ¬ x < 0 := by
    rw [zero]
    rcases known with ⟨m, rfl⟩ | rfl
    · simp [finite_lt_iff, Magnitude.whole]
    · exact Bool.false_ne_true
  rw [clamp, if_neg low]
  by_cases above : 100 < x
  · rw [if_pos above, hundred]
    refine ⟨rfl, ?_, ?_⟩
    · simp [zero, finite_lt_iff, Magnitude.whole]
    · simp [hundred, finite_lt_iff]
  · rw [if_neg above]
    refine ⟨?_, low, above⟩
    rcases known with ⟨m, rfl⟩ | rfl
    · rfl
    · rw [hundred] at above
      exact absurd rfl above

end Binary64

end CameraTelemetry.Number
