import CameraTelemetry.Proofs.Number.Nearest

/-!
# Counts in double precision and back

The number next to a count of sixty-four bits keeps the order of counts. Cut down to a count again,
it has the same number next to it, also at the top of the range, where the cut loses something.
-/
namespace CameraTelemetry.Number

namespace Binary64

/-- How far a number is from a natural, in units. -/
def distance (n : Nat) (negative : Bool) (m : Magnitude) : Nat :=
  (signed negative m - (n * unitsPerOne : Nat)).natAbs

/-- The magnitude is nearest to a natural among all numbers. Where another one is as near, the last
of its significant bits is even. -/
structure NearestTo (n : Nat) (m : Magnitude) : Prop where
  least : ∀ negative m', distance n false m ≤ distance n negative m'
  even : ∀ negative m', m' ≠ m → distance n negative m' = distance n false m →
    significand m.units % 2 = 0

section

variable {n n' : Nat} {m : Magnitude}

theorem distance_false (n : Nat) (m : Magnitude) :
    distance n false m = Nat.dist m.units (n * unitsPerOne) := by
  rw [distance, signed, if_neg Bool.false_ne_true, Nat.dist]
  generalize n * unitsPerOne = units
  omega

theorem distance_false_le (n : Nat) (negative : Bool) (m : Magnitude) :
    distance n false m ≤ distance n negative m := by
  cases negative with
  | false => exact Nat.le_refl _
  | true =>
    simp only [distance, signed, Bool.false_eq_true, if_false, if_true]
    generalize n * unitsPerOne = units
    omega

/-- What a natural is rounded to is nearest to it. -/
theorem nearestTo_of_rounded (units : Magnitude.roundedUnits (n * unitsPerOne) 1 = m.units) :
    NearestTo n m := by
  have near (m' : Magnitude) : distance n false m ≤ distance n false m' := by
    rw [distance_false, distance_false]
    exact Magnitude.dist_rounded_le units m'
  constructor
  · intro negative m'
    exact Nat.le_trans (near m') (distance_false_le n negative m')
  · intro negative m' other tie
    have level : distance n false m' = distance n false m := by
      apply Nat.le_antisymm
      · rw [← tie]
        exact distance_false_le n negative m'
      · exact near m'
    rw [distance_false, distance_false] at level
    exact Magnitude.even_of_dist_eq units other level

theorem exists_nearestTo (count : n ≤ maxCount) :
    ∃ m, ofNat n = .finite false m ∧ NearestTo n m := by
  obtain ⟨m, eq, units⟩ := exists_rounded count
  exact ⟨m, eq, nearestTo_of_rounded units⟩

/-! ## Order -/

/-- The number next to a count is not below the one next to a smaller count. -/
theorem not_ofNat_lt (le : n ≤ n') (count : n' ≤ maxCount) : ¬ ofNat n' < ofNat n := by
  obtain ⟨m, eq, units⟩ := exists_rounded (Nat.le_trans le count)
  obtain ⟨m', eq', units'⟩ := exists_rounded count
  rw [eq, eq', finite_lt_iff, ← units, ← units']
  exact Nat.not_lt.2 (Magnitude.roundedUnits_mono Nat.one_pos (Nat.mul_le_mul_right _ le))

/-! ## Back to a count -/

theorem log2_mul_unitsPerOne (some : n ≠ 0) : (n * unitsPerOne).log2 = n.log2 + 1074 := by
  rw [unitsPerOne]
  exact log2_mul_two_pow some 1074

theorem le_two_pow_of_mul_le {k : Nat} (le : n * unitsPerOne ≤ 2 ^ (k + 1074)) : n ≤ 2 ^ k := by
  rw [Nat.pow_add, ← unitsPerOne] at le
  exact Nat.le_of_mul_le_mul_right le Magnitude.unitsPerOne_pos

/-- Above `2 ^ 53` there are whole numbers only. -/
theorem unitsPerOne_dvd_roundedUnits (large : 2 ^ 53 < n) :
    unitsPerOne ∣ Magnitude.roundedUnits (n * unitsPerOne) 1 := by
  have some : n ≠ 0 := by omega
  have bits : 53 ≤ n.log2 := (Nat.le_log2 some).2 (Nat.le_of_lt large)
  have drops : 1074 ≤ Magnitude.dropped (n * unitsPerOne) 1 := by
    rw [Magnitude.dropped, Nat.div_one, log2_mul_unitsPerOne some]
    exact Nat.le_sub_of_add_le (by omega)
  have part := Nat.pow_dvd_pow 2 drops
  rw [← unitsPerOne] at part
  exact Nat.dvd_mul_left_of_dvd part _

/-- The number next to a count is whole, and at most `2 ^ 64`. -/
theorem exists_whole (count : n ≤ maxCount) :
    ∃ N ≤ 2 ^ 64, Magnitude.roundedUnits (n * unitsPerOne) 1 = N * unitsPerOne := by
  have less : n < 2 ^ 64 := by
    unfold maxCount at count
    omega
  rcases Nat.lt_or_ge (2 ^ 53) n with large | small
  · obtain ⟨N, parts⟩ := unitsPerOne_dvd_roundedUnits large
    have bound := Magnitude.roundedUnits_le_two_pow (Magnitude.mul_unitsPerOne_lt less) (by decide)
    rw [Nat.mul_comm unitsPerOne N] at parts
    exact ⟨N, le_two_pow_of_mul_le (parts ▸ bound), parts⟩
  · exact ⟨n, Nat.le_of_lt less, Magnitude.roundedUnits_of_fits (Magnitude.fits_whole small)⟩

theorem toCount_whole {N : Nat} (whole : m.units = N * unitsPerOne) :
    (Binary64.finite false m).toCount = min N maxCount := by
  rw [toCount, if_neg Bool.false_ne_true, whole, Nat.mul_div_cancel N Magnitude.unitsPerOne_pos,
    maxCount]

theorem toCount_le (x : Binary64) : x.toCount ≤ maxCount := by
  unfold toCount
  split
  · exact Nat.zero_le maxCount
  · split
    · exact Nat.zero_le maxCount
    · exact Nat.le_refl maxCount
  · split
    · exact Nat.zero_le maxCount
    · exact Nat.min_le_right ..

theorem ofNat_whole {N : Nat} (whole : m.units = N * unitsPerOne) : ofNat N = .finite false m := by
  rw [ofNat, ofRatio, ← whole, Magnitude.nearest?_units]

/-- The number next to a count is next to what it is cut down to. -/
theorem ofNat_toCount (count : n ≤ maxCount) : ofNat (ofNat n).toCount = ofNat n := by
  obtain ⟨m, eq, units⟩ := exists_rounded count
  obtain ⟨N, top, whole⟩ := exists_whole count
  rw [eq, toCount_whole (units.symm.trans whole)]
  rcases Nat.lt_or_eq_of_le top with below | rfl
  · have kept : min N maxCount = N := by
      unfold maxCount
      omega
    rw [kept, ofNat_whole (units.symm.trans whole)]
  -- The cut stops short of `2 ^ 64`, which is next to where it stops.
  · obtain ⟨last, eq', units'⟩ := exists_rounded (Nat.le_refl maxCount)
    obtain ⟨N, top', whole'⟩ := exists_whole (Nat.le_refl maxCount)
    have grown := Magnitude.roundedUnits_mono Nat.one_pos (Nat.mul_le_mul_right unitsPerOne count)
    rw [whole, whole'] at grown
    have full : N = 2 ^ 64 :=
      Nat.le_antisymm top' (Nat.le_of_mul_le_mul_right grown Magnitude.unitsPerOne_pos)
    have same : last = m := by
      apply Magnitude.eq_of_units
      rw [← units, ← units', whole, whole', full]
    rw [Nat.min_eq_right (by decide), eq', same]

end

end Binary64

end CameraTelemetry.Number
