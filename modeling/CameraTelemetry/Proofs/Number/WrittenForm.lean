import CameraTelemetry.Number.Decimal
import CameraTelemetry.Number.Layout
import CameraTelemetry.Proofs.Number.RoundTrip
import Mathlib.Data.List.TakeWhile

/-!
# Written forms of whole numbers

A natural that agrees with a number in seventeen digits has that number next to it. The digits that
are found for a whole number are therefore those of such a natural, and what is written is this
natural in decimal. It is read as the number for which it was written.
-/
namespace CameraTelemetry.Number

open Binary64 (unitsPerOne)

namespace Digits

open Magnitude (unitsPerOne_pos)

/-- The digits stand for a whole number. -/
def StandFor (n : Nat) (d : Digits) : Prop := ∃ k, d.place = 400 + k ∧ d.coefficient * 10 ^ k = n

/-- The digits stand for a whole number with the magnitude next to it. -/
def LeadTo (m : Magnitude) (d : Digits) : Prop :=
  ∃ n, StandFor n d ∧ Binary64.ofNat n = .finite false m

theorem shift_pos : 0 < 10 ^ 400 := by
  decide +kernel

theorem pow_shift (s k : Nat) : 10 ^ (s + k) = 10 ^ k * 10 ^ s := by
  rw [Nat.add_comm, Nat.pow_add]

section

variable {m : Magnitude} {N n c k : Nat} {d : Digits} {tie : Tie}

theorem readsBack_iff :
    readsBack m ⟨c, 400 + k⟩ = true ↔ Binary64.ofNat (c * 10 ^ k) = .finite false m := by
  have scaled : c * 10 ^ (400 + k) * unitsPerOne = c * 10 ^ k * unitsPerOne * 10 ^ 400 := by
    rw [pow_shift, ← Nat.mul_assoc, Nat.mul_right_comm]
  rw [readsBack, beq_iff_eq, scaled, Magnitude.nearest?_mul_self shift_pos,
    Binary64.ofNat_eq_finite_iff]

theorem leadTo_of_readsBack (place : d.place = 400 + k) (reads : readsBack m d = true) :
    LeadTo m d := by
  obtain ⟨c, place⟩ := d
  subst place
  exact ⟨c * 10 ^ k, ⟨k, rfl, rfl⟩, readsBack_iff.1 reads⟩

/-- What is taken from a grid reads back, and something is taken if a neighbour reads back. -/
theorem onGrid?_cases (tie : Tie) (m : Magnitude) (place : Nat) {q : Nat}
    (below : m.units * 10 ^ 400 / (unitsPerOne * 10 ^ place) = q) :
    (onGrid? tie m place = none ∧
        readsBack m ⟨q, place⟩ = false ∧ readsBack m ⟨q + 1, place⟩ = false) ∨
      ∃ d, onGrid? tie m place = some d ∧ d.place = place ∧ readsBack m d = true := by
  -- The definition is unfolded on its own: in the place of a call of it, the kernel would work out
  -- what reads back before it compared anything.
  obtain ⟨body, unfolded, taken⟩ : ∃ body, onGrid? = body ∧
      ((body tie m place = none ∧
        readsBack m ⟨q, place⟩ = false ∧ readsBack m ⟨q + 1, place⟩ = false) ∨
      ∃ d, body tie m place = some d ∧ d.place = place ∧ readsBack m d = true) := by
    refine ⟨_, by delta onGrid?; rfl, ?_⟩
    dsimp only
    rw [below]
    cases low : readsBack m ⟨q, place⟩ <;> cases high : readsBack m ⟨q + 1, place⟩
    · exact .inl ⟨rfl, rfl, rfl⟩
    · exact .inr ⟨_, rfl, rfl, high⟩
    · exact .inr ⟨_, rfl, rfl, low⟩
    · right
      dsimp only
      split
      · exact ⟨_, rfl, rfl, low⟩
      · exact ⟨_, rfl, rfl, high⟩
  rw [unfolded]
  exact taken

/-- The search ends on the first grid on which something reads back. -/
theorem search_leadTo (hit : onGrid? tie m (400 + k) ≠ none) {tries j : Nat} (le : k ≤ j)
    (near : j ≤ k + tries) : LeadTo m (search tie m tries (400 + j)) := by
  induction tries generalizing j with
  | zero =>
    obtain rfl : k = j := Nat.le_antisymm le near
    rw [search]
    rcases onGrid?_cases tie m _ rfl with ⟨none, -⟩ | ⟨d, found, place, reads⟩
    · exact absurd none hit
    · rw [found]
      exact leadTo_of_readsBack place reads
  | succ tries ih =>
    rw [search]
    rcases onGrid?_cases tie m (400 + j) rfl with ⟨none, -⟩ | ⟨d, found, place, reads⟩
    · have later : k ≠ j := by
        rintro rfl
        exact hit none
      obtain ⟨j, rfl⟩ : ∃ i, j = i + 1 := Nat.exists_eq_succ_of_ne_zero (by omega)
      rw [none]
      exact ih (by omega) (by omega)
    · rw [found]
      exact leadTo_of_readsBack place reads

theorem stripZeros_standFor (stands : StandFor n d) : StandFor n (stripZeros d) := by
  induction d using stripZeros.induct with
  | case1 d strips ih =>
    obtain ⟨k, place, value⟩ := stands
    rw [stripZeros, dif_pos strips]
    refine ih ⟨k + 1, by rw [place]; rfl, ?_⟩
    have ten : d.coefficient / 10 * 10 = d.coefficient :=
      Nat.div_mul_cancel (Nat.dvd_of_mod_eq_zero strips.2)
    rw [Nat.pow_succ, Nat.mul_comm (10 ^ k), ← Nat.mul_assoc, ten, value]
  | case2 d stays =>
    rw [stripZeros, dif_neg stays]
    exact stands

/-! ## Seventeen digits -/

/-- A natural that is near to a whole magnitude has it next to it. -/
theorem ofNat_eq_of_near (whole : m.units = N * unitsPerOne)
    (near : (2 ^ 53 + 1) * (2 * Nat.dist n N) ≤ N) : Binary64.ofNat n = .finite false m := by
  apply Binary64.ofNat_eq_finite_iff.2
  apply Magnitude.nearest?_eq_some_iff.2
  refine ⟨Nat.one_pos, ?_⟩
  have precise := Magnitude.precise_roundedUnits Nat.one_pos (n * unitsPerOne)
  have rounded := Magnitude.roundedUnits_nearest Nat.one_pos (n * unitsPerOne) m.fits.1
  rw [Nat.mul_one, Nat.mul_one] at rounded
  generalize Magnitude.roundedUnits (n * unitsPerOne) 1 = r at precise rounded ⊢
  by_contra! apart
  have gap : m.units < (2 ^ 53 + 1) * Nat.dist m.units r :=
    Precise.lt_dist m.fits.1 precise apart.symm
  have reach : Nat.dist m.units r ≤ 2 * Nat.dist n N * unitsPerOne := by
    calc Nat.dist m.units r ≤ Nat.dist m.units (n * unitsPerOne) + Nat.dist (n * unitsPerOne) r :=
        Nat.dist.triangle_inequality ..
      _ ≤ Nat.dist m.units (n * unitsPerOne) + Nat.dist m.units (n * unitsPerOne) := by
        rw [Nat.dist_comm _ r]
        exact Nat.add_le_add_left rounded _
      _ = 2 * Nat.dist n N * unitsPerOne := by
        rw [← Nat.two_mul, whole, Nat.dist_mul_right, Nat.dist_comm, Nat.mul_assoc]
  have least : m.units < m.units := by
    calc m.units < (2 ^ 53 + 1) * Nat.dist m.units r := gap
      _ ≤ (2 ^ 53 + 1) * (2 * Nat.dist n N * unitsPerOne) := Nat.mul_le_mul_left _ reach
      _ = (2 ^ 53 + 1) * (2 * Nat.dist n N) * unitsPerOne := (Nat.mul_assoc ..).symm
      _ ≤ N * unitsPerOne := Nat.mul_le_mul_right _ near
      _ = m.units := whole.symm
  exact absurd least (Nat.lt_irrefl _)

/-- One of the two neighbours on a grid is at most half a step away. -/
theorem exists_neighbour (N k : Nat) :
    2 * Nat.dist (N / 10 ^ k * 10 ^ k) N ≤ 10 ^ k ∨
      2 * Nat.dist ((N / 10 ^ k + 1) * 10 ^ k) N ≤ 10 ^ k := by
  have split := Nat.div_add_mod' N (10 ^ k)
  have less : N % 10 ^ k < 10 ^ k := Nat.mod_lt N (Nat.pow_pos (by decide))
  rw [Nat.add_mul, Nat.one_mul]
  unfold Nat.dist
  omega

/-- On a grid of seventeen digits, or on that of the units, something reads back. -/
theorem onGrid?_ne_none (tie : Tie) (whole : m.units = N * unitsPerOne)
    (fine : k = 0 ∨ 10 ^ (16 + k) ≤ N) : onGrid? tie m (400 + k) ≠ none := by
  have below : m.units * 10 ^ 400 / (unitsPerOne * 10 ^ (400 + k)) = N / 10 ^ k := by
    have scale : 0 < unitsPerOne * 10 ^ 400 := Nat.mul_pos unitsPerOne_pos shift_pos
    rw [whole, pow_shift, Nat.mul_left_comm, Nat.mul_assoc, Nat.mul_div_mul_right _ _ scale]
  have reads (c : Nat) (half : 2 * Nat.dist (c * 10 ^ k) N ≤ 10 ^ k) :
      readsBack m ⟨c, 400 + k⟩ = true := by
    apply readsBack_iff.2
    apply ofNat_eq_of_near whole
    rcases fine with units | large
    · rw [units, Nat.pow_zero] at half
      have level : Nat.dist (c * 1) N = 0 := by omega
      rw [units, Nat.pow_zero, level]
      exact Nat.zero_le N
    · calc (2 ^ 53 + 1) * (2 * Nat.dist (c * 10 ^ k) N) ≤ 10 ^ 16 * 10 ^ k :=
          Nat.mul_le_mul (by decide) half
        _ = 10 ^ (16 + k) := (Nat.pow_add ..).symm
        _ ≤ N := large
  rcases onGrid?_cases tie m _ below with ⟨-, low, high⟩ | ⟨d, found, -⟩
  · rcases exists_neighbour N k with half | half
    · rw [reads _ half] at low
      cases low
    · rw [reads _ half] at high
      cases high
  · rw [found]
    exact Option.some_ne_none d

theorem toDigits_mul_pow (pos : 0 < c) (k : Nat) :
    Nat.toDigits 10 (c * 10 ^ k) = Nat.toDigits 10 c ++ List.replicate k '0' := by
  induction k with
  | zero => simp
  | succ k ih =>
    have large : 0 < c * 10 ^ k := Nat.mul_pos pos (Nat.pow_pos (by decide))
    have next : c * 10 ^ (k + 1) = 10 * (c * 10 ^ k) + 0 := by
      rw [Nat.pow_succ, ← Nat.mul_assoc, Nat.mul_comm, Nat.add_zero]
    rw [next, ← Nat.toDigits_append_toDigits (by decide) large (by decide), ih,
      List.append_assoc, List.replicate_succ']
    rfl

theorem leadingPlace_whole (whole : m.units = N * unitsPerOne) (pos : 0 < N) :
    leadingPlace m = 400 + ((Nat.toDigits 10 N).length - 1) := by
  have shifted : N * unitsPerOne * 10 ^ 400 / unitsPerOne = N * 10 ^ 400 := by
    rw [Nat.mul_right_comm, Nat.mul_div_cancel _ unitsPerOne_pos]
  have some : 0 < (Nat.toDigits 10 N).length := Nat.length_toDigits_pos
  rw [leadingPlace, whole, shifted, toDigits_mul_pow pos 400, List.length_append,
    List.length_replicate]
  omega

theorem pow_length_le (pos : 0 < N) : 10 ^ ((Nat.toDigits 10 N).length - 1) ≤ N := by
  by_cases one : (Nat.toDigits 10 N).length = 1
  · rw [one]
    exact pos
  · by_contra! less
    have some : 0 < (Nat.toDigits 10 N).length := Nat.length_toDigits_pos
    have fewer := (Nat.length_toDigits_le_iff (by decide) (by omega)).2 less
    omega

theorem shortest_leadTo (tie : Tie) (whole : m.units = N * unitsPerOne) (pos : 0 < N) :
    LeadTo m (shortest tie m) := by
  have leading := pow_length_le pos
  have hit : onGrid? tie m (400 + ((Nat.toDigits 10 N).length - 17)) ≠ none := by
    apply onGrid?_ne_none tie whole
    rcases Nat.lt_or_ge 17 (Nat.toDigits 10 N).length with many | few
    · right
      rwa [← Nat.add_sub_assoc (Nat.le_of_lt many), Nat.add_comm, Nat.add_sub_add_right]
    · left
      exact Nat.sub_eq_zero_of_le few
  rw [shortest, leadingPlace_whole whole pos]
  obtain ⟨n, stands, next⟩ :
      LeadTo m (search tie m 16 (400 + ((Nat.toDigits 10 N).length - 1))) :=
    search_leadTo hit (by omega) (by omega)
  exact ⟨n, stripZeros_standFor stands, next⟩

theorem write_plain (pos : 0 < n) (stands : StandFor n d) : d.write .plain = toString n := by
  obtain ⟨k, place, rfl⟩ := stands
  have nonzero : 0 < d.coefficient := Nat.pos_of_mul_pos_right pos
  have exponent : (d.place : Int) - 400 = k := by omega
  rw [Nat.toString_eq_ofList_toDigits, toDigits_mul_pow nonzero]
  simp [write, exponent, Layout.plain, positional, zeros]

end

end Digits

namespace Binary64

variable {n N : Nat} {m : Magnitude}

theorem exists_plain (whole : m.units = N * unitsPerOne) :
    ∃ n, (Binary64.finite false m).plain = toString n ∧ ofNat n = .finite false m := by
  by_cases zero : N = 0
  · refine ⟨0, ?_, ?_⟩
    · rw [plain, write, whole, zero, Nat.zero_mul, if_pos rfl]
      decide
    · exact ofNat_whole (zero ▸ whole)
  · have pos : 0 < N := Nat.pos_of_ne_zero zero
    have some : m.units ≠ 0 := whole ▸ Nat.mul_ne_zero zero (Nat.ne_of_gt Magnitude.unitsPerOne_pos)
    obtain ⟨n, stands, next⟩ := Digits.shortest_leadTo Layout.plain.tie whole pos
    have positive : 0 < n := by
      obtain ⟨z, eq, nought⟩ := exists_ofNat (Nat.zero_le maxCount)
      refine Nat.pos_of_ne_zero ?_
      rintro rfl
      rw [eq] at next
      cases next
      exact some (nought.2 rfl)
    refine ⟨n, ?_, next⟩
    rw [plain, write, if_neg some, Digits.write_plain positive stands]
    exact String.empty_append

/-- The plain written form of a whole number is its decimal one. -/
theorem plain_ofNat (small : n < 2 ^ 53) : (ofNat n).plain = toString n := by
  rw [ofNat_eq (Nat.le_of_lt small)]
  obtain ⟨n', written, next⟩ := exists_plain (Magnitude.whole_units (Nat.le_of_lt small))
  rw [ofNat_eq_finite_iff, Magnitude.nearest?_whole_iff small] at next
  rw [written, next]

end Binary64

/-! ## Reading -/

section

variable {cs : List Char}

theorem splitSign_of_digits (digits : ∀ c ∈ cs, c.isDigit = true) : splitSign cs = (false, cs) := by
  unfold splitSign
  split
  · exact absurd (digits '-' List.mem_cons_self) (by decide)
  · exact absurd (digits '+' List.mem_cons_self) (by decide)
  · rfl

theorem digitsValue_eq (cs : List Char) : digitsValue cs = Nat.ofDigitChars 10 cs 0 := rfl

theorem readUnsigned?_of_digits (negative : Bool) (some : cs ≠ [])
    (digits : ∀ c ∈ cs, c.isDigit = true) :
    readUnsigned? negative cs = .some ⟨negative, digitsValue cs, 0⟩ := by
  have whole : cs.takeWhile Char.isDigit = cs := List.takeWhile_eq_self_iff.2 digits
  have rest : cs.dropWhile Char.isDigit = [] := List.dropWhile_eq_nil_iff.2 digits
  rw [readUnsigned?, whole, rest]
  simp [some, readExponent?]

end

namespace Binary64

variable {n : Nat}

theorem toBinary64_natural (n : Nat) : Decimal.toBinary64 ⟨false, n, 0⟩ = ofNat n := by
  by_cases zero : n = 0
  · have nought : ofNat 0 = .finite false .zero := ofNat_whole (Nat.zero_mul _).symm
    rw [zero, nought]
    rfl
  · have small : ¬ (n = 0 ∨ (n.log2 : Int) + 1200 < -3 * 0) := by omega
    have fits : ¬ (400 : Int) < 0 := by decide
    rw [Decimal.toBinary64, if_neg small, if_neg fits]
    exact congrArg (ofRatio false · 1) (Nat.mul_one n)

theorem readReal?_toString (n : Nat) : readReal? (toString n).toList = some (ofNat n) := by
  have digits : ∀ c ∈ Nat.toDigits 10 n, c.isDigit = true :=
    fun c mem => Nat.isDigit_of_mem_toDigits (by decide) (by decide) mem
  have some : Nat.toDigits 10 n ≠ [] := List.ne_nil_of_length_pos Nat.length_toDigits_pos
  rw [Nat.toString_eq_ofList_toDigits, String.toList_ofList, readReal?, splitSign_of_digits digits]
  dsimp only
  rw [readUnsigned?_of_digits false some digits, digitsValue_eq, Nat.ofDigitChars_ten_toDigits]
  exact congrArg Option.some (toBinary64_natural n)

/-- The number next to a count is read off its plain written form. -/
theorem readReal?_plain (count : n ≤ maxCount) :
    readReal? (ofNat n).plain.toList = some (ofNat n) := by
  obtain ⟨m, eq, units⟩ := exists_rounded count
  obtain ⟨N, -, whole⟩ := exists_whole count
  obtain ⟨n', written, next⟩ := exists_plain (units.symm.trans whole)
  rw [eq, written, readReal?_toString, next]

end Binary64

end CameraTelemetry.Number
