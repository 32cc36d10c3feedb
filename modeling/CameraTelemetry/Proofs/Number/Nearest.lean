import CameraTelemetry.Proofs.Number.Range
import Mathlib.Data.Nat.Dist

/-!
# Rounding is to the nearest

Among all numbers with at most fifty-three significant bits none is nearer to a quotient than the
one to which it is rounded, and where another is as near the last bit of the rounded one is even.
Rounding therefore keeps the order of numbers.
-/
namespace CameraTelemetry.Number

open Binary64 (unitsPerOne)

/-- The number has at most fifty-three significant bits. -/
def Precise (n : Nat) : Prop := 2 ^ (n.log2 - 52) ∣ n

/-- The significant bits of such a number, fifty-three of them if there are so many. -/
def significand (n : Nat) : Nat := n / 2 ^ (n.log2 - 52)

/-! ## Whole quotients -/

section

variable {num den q : Nat}

/-- A quotient is rounded down if its rest is less than a half, or a half and the lower neighbour
even, and else up. -/
theorem roundRatio_cases (pos : 0 < den) (num : Nat) :
    ∃ rest < den, num = num / den * den + rest ∧
      (roundRatio num den = num / den ∧ (2 * rest < den ∨ 2 * rest = den ∧ num / den % 2 = 0) ∨
        roundRatio num den = num / den + 1 ∧
          (den < 2 * rest ∨ 2 * rest = den ∧ num / den % 2 = 1)) := by
  refine ⟨num % den, Nat.mod_lt num pos, (Nat.div_add_mod' num den).symm, ?_⟩
  unfold roundRatio
  split
  · exact .inl ⟨rfl, by omega⟩
  · exact .inr ⟨rfl, by omega⟩

/-- Every other whole number is farther away, or as far and then the one that is taken is even. -/
theorem roundRatio_best (pos : 0 < den) (other : q ≠ roundRatio num den) :
    Nat.dist (roundRatio num den * den) num < Nat.dist (q * den) num ∨
      Nat.dist (roundRatio num den * den) num = Nat.dist (q * den) num ∧
        roundRatio num den % 2 = 0 := by
  obtain ⟨rest, less, split, cases⟩ := roundRatio_cases pos num
  have below (lt : q + 1 ≤ num / den) := Nat.mul_le_mul_right den lt
  have level (eq : q = num / den) : q * den = num / den * den := congrArg (· * den) eq
  have above (lt : num / den + 1 ≤ q) := Nat.mul_le_mul_right den lt
  have beyond (lt : num / den + 2 ≤ q) := Nat.mul_le_mul_right den lt
  simp only [Nat.dist, Nat.add_mul, Nat.one_mul] at below above beyond ⊢
  generalize num / den = f at *
  rcases cases with ⟨rounded, half⟩ | ⟨rounded, half⟩
  · rw [rounded] at other ⊢
    rcases Nat.lt_or_gt_of_ne other with lt | gt
    · have side := below lt
      omega
    · have side := above gt
      omega
  · rw [rounded] at other ⊢
    rw [Nat.add_mul, Nat.one_mul]
    rcases Nat.lt_trichotomy q f with lt | eq | gt
    · have side := below lt
      omega
    · have side := level eq
      omega
    · have side := beyond (by omega)
      omega

end

/-! ## Significant bits -/

section

variable {n u k : Nat}

theorem Precise.dvd (precise : Precise n) (le : k ≤ n.log2 - 52) : 2 ^ k ∣ n :=
  (Nat.pow_dvd_pow 2 le).trans precise

theorem log2_mul_two_pow (some : n ≠ 0) (k : Nat) : (n * 2 ^ k).log2 = n.log2 + k := by
  have low := Nat.log2_self_le some
  have high := @Nat.lt_log2_self n
  have pos : n * 2 ^ k ≠ 0 := Nat.mul_ne_zero some (Nat.ne_of_gt (Nat.two_pow_pos k))
  apply (Nat.log2_eq_iff pos).2
  rw [Nat.add_right_comm, Nat.pow_add, Nat.pow_add]
  exact ⟨Nat.mul_le_mul_right _ low, Nat.mul_lt_mul_of_pos_right high (Nat.two_pow_pos k)⟩

/-- A number of fifty-three bits, or of fewer where no bits are left, is what its multiples by
powers of two have as their significant bits. -/
theorem significand_mul_two_pow (small : n < 2 ^ 53) (full : k = 0 ∨ 2 ^ 52 ≤ n) :
    significand (n * 2 ^ k) = n := by
  by_cases zero : n = 0
  · simp [significand, zero]
  · have bits : (n * 2 ^ k).log2 - 52 = k := by
      have low : n.log2 < 53 := (Nat.log2_lt zero).2 small
      have high (le : 2 ^ 52 ≤ n) : 52 ≤ n.log2 := (Nat.le_log2 zero).2 le
      rw [log2_mul_two_pow zero]
      omega
    rw [significand, bits, Nat.mul_div_cancel n (Nat.two_pow_pos k)]

theorem significand_two_pow (k : Nat) : significand (2 ^ 53 * 2 ^ k) = 2 ^ 52 := by
  have bits : (2 ^ 53 * 2 ^ k).log2 - 52 = k + 1 := by
    rw [← Nat.pow_add, Nat.log2_two_pow]
    omega
  have parts : 2 ^ 53 * 2 ^ k = 2 ^ 52 * 2 ^ (k + 1) := by
    rw [← Nat.pow_add, ← Nat.pow_add]
    congr 1
    omega
  rw [significand, bits, parts, Nat.mul_div_cancel _ (Nat.two_pow_pos _)]

/-- The next number is not nearer than the last of the significant bits. -/
theorem Precise.lt_sub (precise : Precise n) (other : Precise u) (less : n < u) :
    n < 2 ^ 53 * (u - n) := by
  by_cases zero : n = 0
  · rw [zero]
    omega
  have grows : n.log2 ≤ u.log2 := by
    rw [Nat.le_log2 (by omega)]
    exact Nat.le_trans (Nat.log2_self_le zero) (Nat.le_of_lt less)
  have divides : 2 ^ (n.log2 - 52) ∣ u - n := Nat.dvd_sub (other.dvd (by omega)) precise
  calc n < 2 ^ (n.log2 + 1) := Nat.lt_log2_self
    _ ≤ 2 ^ 53 * 2 ^ (n.log2 - 52) := by
      rw [← Nat.pow_add]
      exact Nat.pow_le_pow_right Nat.two_pos (by omega)
    _ ≤ 2 ^ 53 * (u - n) := Nat.mul_le_mul_left _ (Nat.le_of_dvd (by omega) divides)

theorem Precise.lt_dist (precise : Precise n) (other : Precise u) (apart : n ≠ u) :
    n < (2 ^ 53 + 1) * Nat.dist n u := by
  unfold Nat.dist
  rcases Nat.lt_or_gt_of_ne apart with less | greater
  · have next := precise.lt_sub other less
    omega
  · have next := other.lt_sub precise greater
    omega

end

/-! ## Rounded quotients -/

namespace Magnitude

variable {num den u : Nat}

theorem precise_roundedUnits (pos : 0 < den) (num : Nat) : Precise (roundedUnits num den) :=
  dvd_of_le_pow (roundRatio_dropped_le pos)

theorem roundedUnits_mul (num den : Nat) : roundedUnits num den * den =
    roundRatio num (den * 2 ^ dropped num den) * (den * 2 ^ dropped num den) := by
  rw [roundedUnits, Nat.mul_assoc, Nat.mul_comm (2 ^ _)]

/-- Where bits are dropped there are fifty-three others. -/
theorem dropped_eq_zero_or_le (num den : Nat) :
    dropped num den = 0 ∨ 2 ^ 52 ≤ roundRatio num (den * 2 ^ dropped num den) := by
  by_cases zero : dropped num den = 0
  · exact .inl zero
  · have some : num / den ≠ 0 := by
      intro none
      simp [dropped, none] at zero
    have whole : 2 ^ 52 * 2 ^ dropped num den ≤ num / den := by
      rw [← Nat.pow_add, ← Nat.le_log2 some]
      unfold dropped at *
      omega
    right
    calc 2 ^ 52 ≤ num / den / 2 ^ dropped num den :=
        (Nat.le_div_iff_mul_le (Nat.two_pow_pos _)).2 whole
      _ = num / (den * 2 ^ dropped num den) := Nat.div_div_eq_div_mul ..
      _ ≤ _ := div_le_roundRatio ..

theorem roundedUnits_even_of_even (even : roundRatio num (den * 2 ^ dropped num den) % 2 = 0)
    (pos : 0 < den) : significand (roundedUnits num den) % 2 = 0 := by
  have atMost : roundRatio num (den * 2 ^ dropped num den) ≤ 2 ^ 53 := roundRatio_dropped_le pos
  rw [roundedUnits]
  rcases Nat.lt_or_eq_of_le atMost with small | full
  · rwa [significand_mul_two_pow small (dropped_eq_zero_or_le num den)]
  · rw [full, significand_two_pow]

theorem roundedUnits_best_of_dvd (pos : 0 < den) (divides : 2 ^ dropped num den ∣ u)
    (other : u ≠ roundedUnits num den) :
    Nat.dist (roundedUnits num den * den) num < Nat.dist (u * den) num ∨
      Nat.dist (roundedUnits num den * den) num = Nat.dist (u * den) num ∧
        significand (roundedUnits num den) % 2 = 0 := by
  obtain ⟨q, rfl⟩ := divides
  have scale : 2 ^ dropped num den * q * den = q * (den * 2 ^ dropped num den) := by
    rw [Nat.mul_comm _ q, Nat.mul_assoc, Nat.mul_comm den]
  have apart : q ≠ roundRatio num (den * 2 ^ dropped num den) := by
    intro same
    apply other
    rw [roundedUnits, same, Nat.mul_comm]
  rw [roundedUnits_mul, scale]
  rcases roundRatio_best (Nat.mul_pos pos (Nat.two_pow_pos _)) apart with nearer | ⟨tie, even⟩
  · exact .inl nearer
  · exact .inr ⟨tie, roundedUnits_even_of_even even pos⟩

/-- A number with bits below those that are dropped lies below the power of two under the quotient.
-/
theorem mul_lt_of_not_dvd (precise : Precise u) (other : ¬ 2 ^ dropped num den ∣ u) :
    u < 2 ^ (num / den).log2 ∧ 2 ^ (num / den).log2 * den ≤ num ∧
      2 ^ dropped num den ∣ 2 ^ (num / den).log2 := by
  have fewer : u.log2 - 52 < dropped num den := by
    apply Nat.lt_of_not_le
    exact fun le => other (precise.dvd le)
  have some : num / den ≠ 0 := by
    intro zero
    simp [dropped, zero] at fewer
  have nonzero : u ≠ 0 := by
    rintro rfl
    exact other (Nat.dvd_zero _)
  unfold dropped at *
  refine ⟨(Nat.log2_lt nonzero).1 (by omega), ?_, Nat.pow_dvd_pow 2 (by omega)⟩
  calc 2 ^ (num / den).log2 * den ≤ num / den * den :=
    Nat.mul_le_mul_right den (Nat.log2_self_le some)
    _ ≤ num := Nat.div_mul_le_self num den

/-- Every other number is farther from a quotient than the one that it is rounded to, or as far, and
then the last bit of that is even. -/
theorem roundedUnits_best (pos : 0 < den) (precise : Precise u) (other : u ≠ roundedUnits num den) :
    Nat.dist (roundedUnits num den * den) num < Nat.dist (u * den) num ∨
      Nat.dist (roundedUnits num den * den) num = Nat.dist (u * den) num ∧
        significand (roundedUnits num den) % 2 = 0 := by
  by_cases divides : 2 ^ dropped num den ∣ u
  · exact roundedUnits_best_of_dvd pos divides other
  · left
    obtain ⟨less, le, between⟩ := mul_lt_of_not_dvd precise divides
    have farther := Nat.mul_lt_mul_of_pos_right less pos
    by_cases same : 2 ^ (num / den).log2 = roundedUnits num den
    · rw [← same]
      simp only [Nat.dist]
      omega
    · have near := roundedUnits_best_of_dvd pos between same
      simp only [Nat.dist] at near ⊢
      omega

theorem roundedUnits_nearest (pos : 0 < den) (num : Nat) (precise : Precise u) :
    Nat.dist (roundedUnits num den * den) num ≤ Nat.dist (u * den) num := by
  by_cases same : u = roundedUnits num den
  · rw [same]
  · rcases roundedUnits_best pos precise same with nearer | ⟨tie, -⟩
    · exact Nat.le_of_lt nearer
    · exact Nat.le_of_eq tie

theorem roundedUnits_mono {num' : Nat} (pos : 0 < den) (le : num ≤ num') :
    roundedUnits num den ≤ roundedUnits num' den := by
  by_contra! greater
  have here := roundedUnits_nearest pos num (precise_roundedUnits pos num')
  have there := roundedUnits_nearest pos num' (precise_roundedUnits pos num)
  have scaled := Nat.mul_lt_mul_of_pos_right greater pos
  have level : num = num' := by
    simp only [Nat.dist] at here there
    omega
  rw [level] at greater
  exact absurd greater (Nat.lt_irrefl _)

section

variable {n : Nat} {m : Magnitude}

theorem eq_of_units {m m' : Magnitude} (units : m.units = m'.units) : m = m' := by
  cases m
  cases m'
  cases units
  rfl

/-- No magnitude is nearer to a natural than the one that it is rounded to. -/
theorem dist_rounded_le (units : roundedUnits n 1 = m.units) (m' : Magnitude) :
    Nat.dist m.units n ≤ Nat.dist m'.units n := by
  have near := roundedUnits_nearest Nat.one_pos n m'.fits.1
  rwa [Nat.mul_one, Nat.mul_one, units] at near

theorem even_of_dist_eq (units : roundedUnits n 1 = m.units) {m' : Magnitude} (other : m' ≠ m)
    (tie : Nat.dist m'.units n = Nat.dist m.units n) : significand m.units % 2 = 0 := by
  have apart : m'.units ≠ roundedUnits n 1 := fun same => other (eq_of_units (same.trans units))
  have best := roundedUnits_best Nat.one_pos m'.fits.1 apart
  rw [Nat.mul_one, Nat.mul_one, units, tie] at best
  exact (best.resolve_left (Nat.lt_irrefl _)).2

end

end Magnitude

end CameraTelemetry.Number
