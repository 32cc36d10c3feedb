import CameraTelemetry.Number.Count

/-!
# Numerals

A numeral is what a count is written as. Reading accepts the numerals up to the limit and nothing
else, with the numbers that they denote. Of the two faults that a text may have the one further
left is told: a character that is no digit, or the digit with which the number has become too
large.
-/
namespace CameraTelemetry.Number

def withoutPlus : List Char → List Char
  | '+' :: rest => rest
  | cs => cs

/-- Apart from a plus sign the text consists of digits, at least one, of which the value is `n`. -/
structure Denotes (cs : List Char) (n : Nat) : Prop where
  some : withoutPlus cs ≠ []
  digits : ∀ c ∈ withoutPlus cs, c.isDigit = true
  value : Nat.ofDigitChars 10 (withoutPlus cs) 0 = n

/-- Digits at the front of a text lead from the number so far to one above the limit. -/
def Overruns (limit soFar : Nat) (cs : List Char) : Prop :=
  ∃ front rest, cs = front ++ rest ∧ (∀ c ∈ front, c.isDigit = true) ∧
    limit < Nat.ofDigitChars 10 front soFar

/-- Digits at the front of a text have a value above the limit. -/
def Exceeds (limit : Nat) (cs : List Char) : Prop := Overruns limit 0 (withoutPlus cs)

/-- What is the matter with a text that is no count. -/
def Faulty (limit : Nat) (cs : List Char) : CountError → Prop
  | .empty => cs = []
  | .tooLarge => Exceeds limit cs
  | .invalidDigit => cs ≠ [] ∧ ¬ Exceeds limit cs ∧ ∀ n, ¬ Denotes cs n

theorem withoutPlus_of_digits {cs : List Char} (digits : ∀ c ∈ cs, c.isDigit = true) :
    withoutPlus cs = cs := by
  unfold withoutPlus
  split
  · exact absurd (digits '+' List.mem_cons_self) (by decide)
  · rfl

theorem denotes_toDigits (n : Nat) : Denotes (Nat.toDigits 10 n) n := by
  have digits : ∀ c ∈ Nat.toDigits 10 n, c.isDigit = true :=
    fun c mem => Nat.isDigit_of_mem_toDigits (by decide) (by decide) mem
  have bare := withoutPlus_of_digits digits
  constructor
  · rw [bare]
    exact List.ne_nil_of_length_pos Nat.length_toDigits_pos
  · rwa [bare]
  · rw [bare]
    exact Nat.ofDigitChars_ten_toDigits

section

variable {limit soFar n : Nat} {c : Char} {cs : List Char}

/-! ## Runs of digits -/

theorem le_ofDigitChars (cs : List Char) (soFar : Nat) : soFar ≤ Nat.ofDigitChars 10 cs soFar := by
  have scaled : soFar ≤ 10 ^ cs.length * soFar :=
    Nat.le_mul_of_pos_left soFar (Nat.pow_pos (by decide))
  rw [Nat.ofDigitChars_eq_ofDigitChars_zero]
  omega

theorem readDigits_of_digit (digit : c.isDigit = true) :
    readDigits limit soFar (c :: cs) =
      if limit < 10 * soFar + (c.toNat - '0'.toNat) then .error .tooLarge
      else readDigits limit (10 * soFar + (c.toNat - '0'.toNat)) cs := by
  rw [Nat.mul_comm 10]
  simp only [readDigits, digit?, digit, if_true]

theorem readDigits_of_not_digit (other : ¬ c.isDigit = true) :
    readDigits limit soFar (c :: cs) = .error .invalidDigit := by
  simp [readDigits, digit?, other]

theorem readDigits_eq_ok_iff (le : soFar ≤ limit) :
    readDigits limit soFar cs = .ok n ↔
      (∀ c ∈ cs, c.isDigit = true) ∧ Nat.ofDigitChars 10 cs soFar = n ∧ n ≤ limit := by
  induction cs generalizing soFar with
  | nil =>
    simp only [readDigits, Except.ok.injEq, Nat.ofDigitChars_nil, List.not_mem_nil, false_implies,
      implies_true, true_and]
    omega
  | cons c cs ih =>
    rw [List.forall_mem_cons, Nat.ofDigitChars_cons]
    by_cases digit : c.isDigit = true
    · rw [readDigits_of_digit digit]
      split
      case isTrue above =>
        have grows := le_ofDigitChars cs (10 * soFar + (c.toNat - '0'.toNat))
        simp only [reduceCtorEq, false_iff, not_and]
        omega
      case isFalse within =>
        rw [ih (Nat.le_of_not_lt within)]
        simp only [digit, true_and]
    · simp only [readDigits_of_not_digit digit, digit, false_and, reduceCtorEq]

theorem not_overruns_nil (le : soFar ≤ limit) : ¬ Overruns limit soFar [] := by
  rintro ⟨front, rest, parts, -, above⟩
  obtain ⟨rfl, -⟩ := List.append_eq_nil_iff.1 parts.symm
  rw [Nat.ofDigitChars_nil] at above
  omega

/-- Without a digit nothing becomes too large, so that the first character is one. -/
theorem overruns_cons_iff (le : soFar ≤ limit) : Overruns limit soFar (c :: cs) ↔
    c.isDigit = true ∧ Overruns limit (10 * soFar + (c.toNat - '0'.toNat)) cs := by
  constructor
  · rintro ⟨front, rest, parts, digits, above⟩
    cases front with
    | nil =>
      rw [Nat.ofDigitChars_nil] at above
      omega
    | cons d front =>
      obtain ⟨rfl, rfl⟩ := List.cons.inj parts
      rw [List.forall_mem_cons] at digits
      rw [Nat.ofDigitChars_cons] at above
      exact ⟨digits.1, front, rest, rfl, digits.2, above⟩
  · rintro ⟨digit, front, rest, rfl, digits, above⟩
    rw [← Nat.ofDigitChars_cons] at above
    exact ⟨c :: front, rest, rfl, List.forall_mem_cons.2 ⟨digit, digits⟩, above⟩

theorem readDigits_eq_tooLarge_iff (le : soFar ≤ limit) :
    readDigits limit soFar cs = .error .tooLarge ↔ Overruns limit soFar cs := by
  induction cs generalizing soFar with
  | nil => simp [readDigits, not_overruns_nil le]
  | cons c cs ih =>
    rw [overruns_cons_iff le]
    by_cases digit : c.isDigit = true
    · rw [readDigits_of_digit digit]
      split
      case isTrue above => exact iff_of_true rfl ⟨digit, [], cs, rfl, by simp, above⟩
      case isFalse within =>
        rw [ih (Nat.le_of_not_lt within)]
        simp only [digit, true_and]
    · simp [readDigits_of_not_digit digit, digit]

theorem readDigits_ne_empty : readDigits limit soFar cs ≠ .error .empty := by
  induction cs generalizing soFar with
  | nil => simp [readDigits]
  | cons c cs ih =>
    by_cases digit : c.isDigit = true
    · rw [readDigits_of_digit digit]
      split
      · simp
      · exact ih
    · simp [readDigits_of_not_digit digit]

/-! ## Counts -/

theorem readCount_eq_readDigits (some : withoutPlus cs ≠ []) :
    readCount limit cs = readDigits limit 0 (withoutPlus cs) := by
  unfold readCount withoutPlus at *
  grind

theorem readCount_of_nothing (some : cs ≠ []) (none : withoutPlus cs = []) :
    readCount limit cs = .error .invalidDigit := by
  unfold readCount withoutPlus at *
  grind

/-- A text is read as the number that it denotes, if that is not too large, and as nothing else. -/
theorem readCount_eq_ok_iff : readCount limit cs = .ok n ↔ Denotes cs n ∧ n ≤ limit := by
  by_cases none : withoutPlus cs = []
  · have refused : ¬ Denotes cs n := fun denotes => denotes.some none
    by_cases empty : cs = []
    · subst empty
      simp [readCount, refused]
    · simp [readCount_of_nothing empty none, refused]
  · rw [readCount_eq_readDigits none, readDigits_eq_ok_iff (Nat.zero_le limit)]
    exact ⟨fun ⟨digits, value, le⟩ => ⟨⟨none, digits, value⟩, le⟩,
      fun ⟨denotes, le⟩ => ⟨denotes.digits, denotes.value, le⟩⟩

theorem readCount_eq_tooLarge_iff : readCount limit cs = .error .tooLarge ↔ Exceeds limit cs := by
  rw [Exceeds]
  by_cases none : withoutPlus cs = []
  · rw [none]
    refine iff_of_false ?_ (not_overruns_nil (Nat.zero_le limit))
    by_cases empty : cs = []
    · simp [empty, readCount]
    · simp [readCount_of_nothing empty none]
  · rw [readCount_eq_readDigits none, readDigits_eq_tooLarge_iff (Nat.zero_le limit)]

theorem readCount_eq_empty_iff : readCount limit cs = .error .empty ↔ cs = [] := by
  by_cases empty : cs = []
  · simp [empty, readCount]
  · refine iff_of_false ?_ empty
    by_cases none : withoutPlus cs = []
    · simp [readCount_of_nothing empty none]
    · rw [readCount_eq_readDigits none]
      exact readDigits_ne_empty

/-- The fault of a text that is no count is the one that is told. -/
theorem readCount_eq_error_iff {e : CountError} :
    readCount limit cs = .error e ↔ Faulty limit cs e := by
  cases e with
  | empty => exact readCount_eq_empty_iff
  | tooLarge => exact readCount_eq_tooLarge_iff
  | invalidDigit =>
    have empty : readCount limit cs = .error .empty ↔ cs = [] := readCount_eq_empty_iff
    rw [Faulty, ← readCount_eq_tooLarge_iff, ne_eq, ← empty]
    have accepted {n : Nat} (denotes : Denotes cs n) (within : ¬ Exceeds limit cs) :
        readCount limit cs = .ok n := by
      refine readCount_eq_ok_iff.2 ⟨denotes, Nat.le_of_not_lt fun above => within ?_⟩
      exact ⟨_, [], (List.append_nil _).symm, denotes.digits, denotes.value.symm ▸ above⟩
    constructor
    · intro read
      refine ⟨by simp [read], by simp [read], fun n denotes => ?_⟩
      have within : ¬ Exceeds limit cs := by simp [← readCount_eq_tooLarge_iff, read]
      rw [accepted denotes within] at read
      cases read
    · rintro ⟨some, within, nothing⟩
      match read : readCount limit cs with
      | .ok n => exact absurd (readCount_eq_ok_iff.1 read).1 (nothing n)
      | .error .empty => exact absurd read some
      | .error .tooLarge => exact absurd read within
      | .error .invalidDigit => rfl

end

end CameraTelemetry.Number
