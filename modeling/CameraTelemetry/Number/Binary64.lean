import CameraTelemetry.Number.Power

/-!
# Double-precision numbers

A finite number is a sign and a magnitude, and a magnitude is a whole number of the smallest
positive one, `2 ^ (-1074)`, with at most fifty-three significant bits. Every operation computes
the exact quotient of two naturals and rounds it once, to the nearest number, ties to even.
-/
namespace CameraTelemetry.Number

/-- `n` has at most fifty-three significant bits and lies below the first magnitude that overflows,
`2 ^ 2098` units. -/
def Fits (n : Nat) : Prop :=
  2 ^ (n.log2 - 52) ∣ n ∧ n.log2 < 2098

instance (n : Nat) : Decidable (Fits n) := by
  unfold Fits; infer_instance

/-- The nearest natural to `num / den`, ties to even. -/
def roundRatio (num den : Nat) : Nat :=
  if 2 * (num % den) < den ∨ (2 * (num % den) = den ∧ num / den % 2 = 0) then num / den
  else num / den + 1

theorem roundRatio_le {num den m : Nat} (h : num < m * den) :
    roundRatio num den ≤ m := by
  have hq : num / den < m := Nat.div_lt_of_lt_mul (by rwa [Nat.mul_comm] at h)
  unfold roundRatio
  split <;> omega

/-- A magnitude in units of the smallest positive one. -/
structure Magnitude where
  units : Nat
  fits : Fits units
deriving DecidableEq

namespace Magnitude

def zero : Magnitude := ⟨0, by simp [Fits]⟩

/-- How many low bits a magnitude near `num / den` units drops. -/
def dropped (num den : Nat) : Nat := (num / den).log2 - 52

/-- The rounded count of units, before the test for overflow. -/
def roundedUnits (num den : Nat) : Nat :=
  roundRatio num (den * 2 ^ dropped num den) * 2 ^ dropped num den

theorem roundRatio_dropped_le {num den : Nat} (hd : 0 < den) :
    roundRatio num (den * 2 ^ dropped num den) ≤ 2 ^ 53 := by
  refine roundRatio_le ?_
  have h1 : num / den < 2 ^ ((num / den).log2 + 1) := Nat.lt_log2_self
  have h2 : num < 2 ^ ((num / den).log2 + 1) * den := (Nat.div_lt_iff_lt_mul hd).1 h1
  have h3 : 2 ^ ((num / den).log2 + 1) ≤ 2 ^ 53 * 2 ^ dropped num den := by
    rw [← Nat.pow_add]
    exact Nat.pow_le_pow_right (by decide) (by unfold dropped; omega)
  calc num < 2 ^ ((num / den).log2 + 1) * den := h2
    _ ≤ 2 ^ 53 * 2 ^ dropped num den * den := Nat.mul_le_mul_right _ h3
    _ = 2 ^ 53 * (den * 2 ^ dropped num den) := by
      rw [Nat.mul_assoc, Nat.mul_comm den]

theorem dvd_of_le_pow {m k : Nat} (hm : m ≤ 2 ^ 53) :
    2 ^ ((m * 2 ^ k).log2 - 52) ∣ m * 2 ^ k := by
  by_cases h0 : m = 0
  · simp [h0]
  by_cases he : m = 2 ^ 53
  · subst he
    rw [← Nat.pow_add]
    exact Nat.pow_dvd_pow 2 (by rw [Nat.log2_two_pow]; omega)
  · have hne : m * 2 ^ k ≠ 0 := Nat.mul_ne_zero h0 (Nat.ne_of_gt (Nat.two_pow_pos k))
    have hlt : m * 2 ^ k < 2 ^ (53 + k) := by
      rw [Nat.pow_add]
      exact Nat.mul_lt_mul_of_pos_right (by omega) (Nat.two_pow_pos k)
    have hlog : (m * 2 ^ k).log2 < 53 + k := (Nat.log2_lt hne).2 hlt
    exact Nat.dvd_trans (Nat.pow_dvd_pow 2 (by omega)) (Nat.dvd_mul_left _ _)

/-- The nearest magnitude to `num / den` units, or none if that overflows. -/
def nearest? (num den : Nat) : Option Magnitude :=
  if h : 0 < den ∧ (roundedUnits num den).log2 < 2098 then
    some ⟨roundedUnits num den, dvd_of_le_pow (roundRatio_dropped_le h.1), h.2⟩
  else none

end Magnitude

inductive Binary64
  | nan
  | infinite (negative : Bool)
  | finite (negative : Bool) (magnitude : Magnitude)
deriving DecidableEq

namespace Binary64

def unitsPerOne : Nat := 2 ^ 1074

/-- The nearest number to the quotient `num / den`, with a sign. -/
def ofRatio (negative : Bool) (num den : Nat) : Binary64 :=
  match Magnitude.nearest? (num * unitsPerOne) den with
  | some m => .finite negative m
  | none => .infinite negative

def ofNat (n : Nat) : Binary64 := ofRatio false n 1

instance (n : Nat) : OfNat Binary64 n := ⟨ofNat n⟩

instance : Inhabited Binary64 := ⟨.finite false .zero⟩

def neg : Binary64 → Binary64
  | nan => nan
  | infinite s => infinite (!s)
  | finite s m => finite (!s) m

instance : Neg Binary64 := ⟨neg⟩

def isNaN : Binary64 → Bool
  | nan => true
  | _ => false

def isFinite : Binary64 → Bool
  | finite .. => true
  | _ => false

private def crossSign (a b : Bool) : Bool := a != b

def mul : Binary64 → Binary64 → Binary64
  | finite s a, finite t b =>
    ofRatio (crossSign s t) (a.units * b.units) (unitsPerOne * unitsPerOne)
  | infinite s, infinite t => infinite (crossSign s t)
  | infinite s, finite t m | finite s m, infinite t =>
    if m.units = 0 then nan else infinite (crossSign s t)
  | nan, _ | _, nan => nan

instance : Mul Binary64 := ⟨mul⟩

def div : Binary64 → Binary64 → Binary64
  | finite s a, finite t b =>
    if b.units = 0 then (if a.units = 0 then nan else infinite (crossSign s t))
    else ofRatio (crossSign s t) a.units b.units
  | infinite s, finite t _ => infinite (crossSign s t)
  | finite s _, infinite t => finite (crossSign s t) .zero
  | infinite _, infinite _ => nan
  | nan, _ | _, nan => nan

instance : Div Binary64 := ⟨div⟩

/-- The units of a finite number with their sign. -/
def signed (negative : Bool) (m : Magnitude) : Int :=
  if negative then -(m.units : Int) else m.units

/-- The order of numbers; a NaN is below and above nothing, and the two zeros are level. -/
def lt : Binary64 → Binary64 → Bool
  | finite s a, finite t b => signed s a < signed t b
  | infinite s, infinite t => s && !t
  | infinite s, finite .. => s
  | finite .., infinite t => !t
  | nan, _ | _, nan => false

instance : LT Binary64 := ⟨fun a b => lt a b = true⟩

instance (a b : Binary64) : Decidable (a < b) := inferInstanceAs (Decidable (lt a b = true))

theorem lt_iff {x y : Binary64} : x < y ↔ lt x y = true := Iff.rfl

section

variable {x y bound : Binary64}

/-- A number that is level with one below a bound, or lies lower still, is below the bound too. -/
theorem lt_of_not_lt_of_lt (number : y.isNaN = false) (level : ¬ x < y) (less : x < bound) :
    y < bound := by
  rw [lt_iff] at *
  cases x <;> cases y <;> cases bound <;> simp_all [lt, isNaN]
  omega

theorem lt_of_lt_of_not_lt (number : y.isNaN = false) (less : bound < x) (level : ¬ y < x) :
    bound < y := by
  rw [lt_iff] at *
  cases x <;> cases y <;> cases bound <;> simp_all [lt, isNaN]
  omega

end

/-- The number brought between two bounds; a NaN stays. -/
def clamp (low high x : Binary64) : Binary64 :=
  if x < low then low else if high < x then high else x

/-- The largest whole number not above, from zero up to the largest count of sixty-four bits;
nought for a NaN. -/
def toCount : Binary64 → Nat
  | nan => 0
  | infinite negative => if negative then 0 else 2 ^ 64 - 1
  | finite negative m => if negative then 0 else min (m.units / unitsPerOne) (2 ^ 64 - 1)

end Binary64

end CameraTelemetry.Number
