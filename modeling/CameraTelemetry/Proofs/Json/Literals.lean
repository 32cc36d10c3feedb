import CameraTelemetry.Proofs.Json.Grammar
import Mathlib.Data.List.TakeWhile

/-!
# Reading literals

Strings and numbers are read as the grammar has them. A string is read up to its closing quote
whatever follows. A number has no end of its own, so that what follows must not go on with it.
-/
namespace CameraTelemetry.Json

/-! ## Strings -/

section

variable {n : Nat} {c : Char} {p : Piece} {ps : List Piece} {cs text rest : List Char}

theorem IsHexDigit.hexDigit? (isDigit : IsHexDigit n c) : hexDigit? c = some n := by
  have both : ∀ n < 16, Json.hexDigit? (Nat.digitChar n) = some n ∧
      Json.hexDigit? (Nat.digitChar n).toUpper = some n := by decide
  obtain ⟨small, rfl | rfl⟩ := isDigit
  · exact (both n small).1
  · exact (both n small).2

theorem SpellsUnit.lt (spells : SpellsUnit n text) : n < 0x10000 := by
  obtain ⟨⟨_, _⟩, ⟨_, _⟩, ⟨_, _⟩, ⟨_, _⟩⟩ := spells
  omega

theorem SpellsUnit.unitOf? (spells : SpellsUnit n text) :
    ∃ w x y z, text = [w, x, y, z] ∧ unitOf? w x y z = some n := by
  obtain ⟨first, second, third, fourth⟩ := spells
  refine ⟨_, _, _, _, rfl, ?_⟩
  simp only [Json.unitOf?, first.hexDigit?, second.hexDigit?, third.hexDigit?, fourth.hexDigit?,
    Option.some.injEq]
  omega

theorem scanString_piece (spells : SpellsPiece p text) (rest : List Char) :
    scanString (text ++ rest) = (p :: (scanString rest).1, (scanString rest).2) := by
  cases spells with
  | plain visible quote backslash =>
    rw [List.singleton_append, scanString.eq_def]
    simp only [if_neg quote, if_neg backslash, if_neg (Nat.not_lt.2 visible)]
    rfl
  | short escape =>
    have known : ∀ e ∈ shortEscapes, e.1 ≠ 'u' ∧ shortEscape? e.1 = some e.2 := by decide
    obtain ⟨letter, short⟩ := known _ escape
    rw [scanString.eq_def]
    simp only [List.cons_append, List.nil_append, reduceIte, Char.reduceEq, Char.reduceToNat,
      Nat.reduceLT, if_neg letter, short]
    rfl
  | unit spells =>
    obtain ⟨w, x, y, z, rfl, unit⟩ := spells.unitOf?
    rw [scanString.eq_def]
    simp only [List.cons_append, List.nil_append, reduceIte, Char.reduceEq, Char.reduceToNat,
      Nat.reduceLT, unit]
    rfl

theorem scanString_pieces (spells : SpellsPieces ps text) (rest : List Char) :
    scanString (text ++ '"' :: rest) = (ps, .ok rest) := by
  induction spells with
  | nil =>
    rw [List.nil_append, scanString.eq_def]
    rfl
  | cons head tail ih => rw [List.append_assoc, scanString_piece head, ih]

theorem isLead_iff : isLead n = true ↔ 0xd800 ≤ n ∧ n ≤ 0xdbff := by
  simp [isLead]

theorem isTrail_iff : isTrail n = true ↔ 0xdc00 ≤ n ∧ n ≤ 0xdfff := by
  simp [isTrail]

theorem toNat_ofNat (valid : n.isValidChar) : (Char.ofNat n).toNat = n := by
  rw [Char.ofNat, dif_pos valid]
  rfl

/-- What the pieces mean is what they are joined to. -/
theorem Means.joinPieces? (means : Means ps cs) : joinPieces? ps = some cs := by
  induction means with
  | nil => rfl
  | char _ ih => rw [Json.joinPieces?, ih, Option.map_some]
  | @unit c _ _ _ ih =>
    have plane := c.valid
    change c.toNat < 0xd800 ∨ 0xdfff < c.toNat ∧ c.toNat < 0x110000 at plane
    have notLead : ¬ isLead c.toNat = true := isLead_iff.not.2 (by omega)
    have notTrail : ¬ isTrail c.toNat = true := isTrail_iff.not.2 (by omega)
    rw [joinPieces?.eq_def]
    simp only [if_neg notLead, if_neg notTrail, ih, Option.map_some, Char.ofNat_toNat]
  | @pair c high low _ _ highest lowest number _ ih =>
    have joined : pairChar (0xd800 + high) (0xdc00 + low) = c := by
      rw [pairChar, Nat.add_sub_cancel_left, Nat.add_sub_cancel_left, Nat.mul_comm high, ← number,
        Char.ofNat_toNat]
    rw [Json.joinPieces?, if_pos (isLead_iff.2 (by omega)), if_pos (isTrail_iff.2 (by omega)), ih,
      Option.map_some, joined]

theorem means_of_joinPieces? (units : ∀ n, .unit n ∈ ps → n < 0x10000)
    (joined : joinPieces? ps = some cs) : Means ps cs := by
  fun_induction joinPieces? ps generalizing cs with
  | case1 =>
    cases joined
    exact .nil
  | case2 c ps ih =>
    obtain ⟨tail, found, rfl⟩ := Option.map_eq_some_iff.1 joined
    exact .char (ih (fun n mem => units n (List.mem_cons_of_mem _ mem)) found)
  | case3 n lead m ps trail ih =>
    obtain ⟨tail, found, rfl⟩ := Option.map_eq_some_iff.1 joined
    rw [isLead_iff] at lead
    rw [isTrail_iff] at trail
    have number : (pairChar n m).toNat = 0x10000 + 0x400 * (n - 0xd800) + (m - 0xdc00) := by
      rw [pairChar, toNat_ofNat (by unfold Nat.isValidChar; omega)]
      omega
    have means := @Means.pair _ (n - 0xd800) (m - 0xdc00) _ _ (by omega) (by omega) number
      (ih (fun k mem => units k (by simp [mem])) found)
    rwa [Nat.add_sub_cancel' lead.1, Nat.add_sub_cancel' trail.1] at means
  | case4 => cases joined
  | case5 => cases joined
  | case6 => cases joined
  | case7 n ps notLead notTrail ih =>
    obtain ⟨tail, found, rfl⟩ := Option.map_eq_some_iff.1 joined
    rw [isLead_iff] at notLead
    rw [isTrail_iff] at notTrail
    have small := units n List.mem_cons_self
    have means := Means.unit (c := Char.ofNat n)
      (ih (fun k mem => units k (List.mem_cons_of_mem _ mem)) found)
    rwa [toNat_ofNat (by unfold Nat.isValidChar; omega)] at means

theorem SpellsPieces.unit_lt (spells : SpellsPieces ps text) :
    ∀ n, .unit n ∈ ps → n < 0x10000 := by
  induction spells with
  | nil => simp
  | cons head _ ih =>
    intro n mem
    rcases List.mem_cons.1 mem with rfl | mem
    · obtain @⟨⟩ | @⟨⟩ | spells := head
      exact spells.lt
    · exact ih n mem

/-- A string literal is read as its text, or as none. -/
theorem readString_of_spells {s : Option String} (spells : SpellsString s text) :
    ∃ inside, text = '"' :: inside ∧
      ∀ rest, readString (inside ++ rest) = .ok (s, rest) := by
  cases spells with
  | text pieces means =>
    refine ⟨_, rfl, fun rest => ?_⟩
    rw [readString, List.append_assoc, List.singleton_append, scanString_pieces pieces]
    simp only [means.joinPieces?, Option.map_some, String.ofList_toList]
  | @meaningless ps inside pieces nothing =>
    refine ⟨_, rfl, fun rest => ?_⟩
    have apart : joinPieces? ps = none := Option.eq_none_iff_forall_ne_some.2 fun cs joined =>
      nothing cs (means_of_joinPieces? pieces.unit_lt joined)
    rw [readString, List.append_assoc, List.singleton_append, scanString_pieces pieces]
    simp only [apart, Option.map_none]

end

/-! ## Numbers -/

/-- Nothing stands at the front of the text that a number may go on with. -/
def Stops (cs : List Char) : Prop :=
  ∀ c, cs.head? = some c → isJsonBlank c = true ∨ c = ',' ∨ c = ']' ∨ c = '\x7d'

def NoDigit (cs : List Char) : Prop := ∀ c, cs.head? = some c → c.isDigit = false

section

variable {c : Char} {digits sign text rest : List Char} {l : NumberLiteral} {negative : Bool}

theorem Stops.other (stops : Stops rest) (head : rest.head? = some c) :
    c.isDigit = false ∧ c ≠ '.' ∧ c ≠ 'e' ∧ c ≠ 'E' := by
  have ender := stops c head
  simp only [isJsonBlank, Bool.or_eq_true, decide_eq_true_eq] at ender
  rcases ender with (((rfl | rfl) | rfl) | rfl) | rfl | rfl | rfl <;> decide

theorem Stops.noDigit (stops : Stops rest) : NoDigit rest := fun _ head => (stops.other head).1

theorem noDigit_cons (other : c.isDigit = false) : NoDigit (c :: rest) := by
  rintro _ ⟨⟩
  exact other

theorem NoDigit.any (ends : NoDigit rest) : rest.head?.any Char.isDigit = false := by
  cases rest with
  | nil => rfl
  | cons c rest => exact ends c rfl

theorem span_digits (isDigits : IsDigits digits) (ends : NoDigit rest) :
    (digits ++ rest).takeWhile Char.isDigit = digits ∧
      (digits ++ rest).dropWhile Char.isDigit = rest := by
  rw [List.takeWhile_append_of_pos isDigits.digits, List.dropWhile_append_of_pos isDigits.digits]
  cases rest with
  | nil => simp
  | cons c rest => simp [ends c rfl]

theorem IsDigits.exists_cons (isDigits : IsDigits digits) :
    ∃ d more, digits = d :: more ∧ d.isDigit = true := by
  obtain ⟨d, more, rfl⟩ := List.exists_cons_of_ne_nil isDigits.ne_nil
  exact ⟨d, more, rfl, isDigits.digits d List.mem_cons_self⟩

theorem ne_of_isDigit {d : Char} (digit : d.isDigit = true) (other : c.isDigit = false) :
    d ≠ c := by
  rintro rfl
  exact Bool.noConfusion (digit.symm.trans other)

theorem splitSign_digits (isDigits : IsDigits digits) (rest : List Char) :
    Number.splitSign (digits ++ rest) = (false, digits ++ rest) := by
  obtain ⟨d, more, rfl, digit⟩ := isDigits.exists_cons
  unfold Number.splitSign
  split
  case h_1 eq => exact absurd (List.cons.inj eq).1 (ne_of_isDigit digit (by decide))
  case h_2 eq => exact absurd (List.cons.inj eq).1 (ne_of_isDigit digit (by decide))
  case h_3 => rfl

theorem splitSign_spells (signed : SpellsSign negative sign ∨ negative = false ∧ sign = ['+'])
    (isDigits : IsDigits digits) (rest : List Char) :
    Number.splitSign (sign ++ (digits ++ rest)) = (negative, digits ++ rest) := by
  rcases signed with (⟨⟩ | ⟨⟩) | ⟨rfl, rfl⟩
  · rfl
  · exact splitSign_digits isDigits rest
  · rfl

theorem scanExponent_spells {exponent : Option (Bool × List Char)}
    (spells : SpellsExponent exponent text) (stops : Stops rest) (negative : Bool)
    (whole fraction : List Char) :
    scanExponent ⟨negative, whole, fraction, none⟩ (text ++ rest) =
      .literal ⟨negative, whole, fraction, exponent⟩ rest := by
  cases spells with
  | absent =>
    cases rest with
    | nil => rfl
    | cons c rest =>
      have other := stops.other rfl
      rw [List.nil_append, scanExponent, if_neg (not_or.2 other.2.2)]
  | @present e negative' sign digits letter signed isDigits =>
    rw [List.cons_append, List.append_assoc, scanExponent, if_pos letter,
      splitSign_spells signed isDigits]
    obtain ⟨taken, left⟩ := span_digits isDigits stops.noDigit
    simp only [taken, left]
    obtain ⟨d, more, rfl, digit⟩ := isDigits.exists_cons
    simp only [List.cons_append, digit, if_true]

theorem SpellsExponent.front {exponent : Option (Bool × List Char)}
    (spells : SpellsExponent exponent text) (stops : Stops rest) :
    NoDigit (text ++ rest) ∧ (text ++ rest).head? ≠ some '.' := by
  cases spells with
  | absent => exact ⟨stops.noDigit, fun head => (stops.other head).2.1 rfl⟩
  | present letter => rcases letter with rfl | rfl <;> exact ⟨noDigit_cons (by decide), by simp⟩

theorem SpellsFraction.noDigit (spells : SpellsFraction digits text) (ends : NoDigit rest) :
    NoDigit (text ++ rest) := by
  cases spells with
  | absent => exact ends
  | present => exact noDigit_cons (by decide)

/-- A number literal is read as it is. -/
theorem scanNumber_spells (spells : SpellsNumber l text) (stops : Stops rest) :
    scanNumber (text ++ rest) = .literal l rest := by
  obtain ⟨negative, whole, fraction, exponent⟩ := l
  obtain ⟨signed, isDigits, leading, fractional, exponential⟩ := spells
  rename_i sign fractionText exponentText
  dsimp only at *
  have front := exponential.front stops
  have ends := fractional.noDigit front.1
  obtain ⟨taken, left⟩ := span_digits isDigits ends
  obtain ⟨d, more, rfl, digit⟩ := isDigits.exists_cons
  have allowed : (!d.isDigit || (d = '0' &&
      (more ++ (fractionText ++ (exponentText ++ rest))).head?.any Char.isDigit)) = false := by
    by_cases nought : d = '0'
    · obtain rfl : more = [] := (List.cons.inj (leading (congrArg some nought))).2
      rw [List.nil_append, ends.any]
      simp [digit]
    · simp [digit, nought]
  simp only [List.append_assoc, List.cons_append] at *
  unfold scanNumber
  split
  rename_i negative' body front'
  obtain ⟨rfl, rfl⟩ : negative = negative' ∧
      d :: (more ++ (fractionText ++ (exponentText ++ rest))) = body := by
    cases signed with
    | minus => exact Prod.mk.inj front'
    | absent =>
      split at front'
      case h_1 eq => exact absurd (List.cons.inj eq).1 (ne_of_isDigit digit (by decide))
      case h_2 => exact Prod.mk.inj front'
  simp only [allowed, taken, left, Bool.false_eq_true, if_false]
  cases fractional with
  | absent =>
    split
    case h_1 eq => exact absurd (congrArg List.head? eq) front.2
    case h_2 => exact scanExponent_spells exponential stops negative (d :: more) []
  | present isDigits' =>
    obtain ⟨taken', left'⟩ := span_digits isDigits' front.1
    obtain ⟨f, more', rfl, digit'⟩ := isDigits'.exists_cons
    simp only [List.cons_append] at *
    simp only [taken', left', digit', if_true]
    exact scanExponent_spells exponential stops negative (d :: more) (f :: more')

end

end CameraTelemetry.Json
