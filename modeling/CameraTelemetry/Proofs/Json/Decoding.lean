import CameraTelemetry.Json.Decode
import CameraTelemetry.Proofs.Json.Reading
import CameraTelemetry.Proofs.Number.Whole
import Mathlib.Data.List.Forall2
import Mathlib.Data.List.Perm.Basic

/-!
# Decoding values

What decoders make of a value that a text holds. A field of an object is a slot: it takes the value
of a member of its name while it is empty, and nothing when it is full, so that it is full at the
end exactly if one member has the name.
-/
namespace CameraTelemetry.Json

open Number

section

variable {α κ : Type} {decode : Decoder α} {t : Tree}

theorem decodeText_holds {text : String} (holds : Holds t text) :
    decodeText decode text = decode t := by
  simp only [decodeText, readDocument_holds holds]
  cases decode t <;> rfl

theorem decodeItems_cons_iff {rest : List Tree} {as : List α} :
    decodeItems decode none (t :: rest) = .ok as ↔
      ∃ a more, decode t = .ok a ∧ decodeItems decode none rest = .ok more ∧ as = a :: more := by
  rw [decodeItems]
  cases decode t with
  | error fault => simp
  | ok a =>
    cases decodeItems decode none rest with
    | error fault => simp [Except.map]
    | ok more => simp [Except.map, eq_comm]

/-- All items are decoded, or there are none. -/
theorem decodeItems_iff {items : List Tree} {as : List α} :
    decodeItems decode none items = .ok as ↔
      List.Forall₂ (fun t a => decode t = .ok a) items as := by
  induction items generalizing as with
  | nil => simp [decodeItems, eq_comm]
  | cons t rest ih => simp only [decodeItems_cons_iff, List.forall₂_cons_left_iff, ih]

theorem exists_of_decodeItems {items : List Tree} {as : List α}
    (decoded : decodeItems decode none items = .ok as) (mem : t ∈ items) :
    ∃ a, decode t = .ok a := by
  induction items generalizing as with
  | nil => cases mem
  | cons first rest ih =>
    obtain ⟨a, more, item, later, rfl⟩ := decodeItems_cons_iff.1 decoded
    rcases List.mem_cons.1 mem with rfl | mem
    · exact ⟨a, item⟩
    · exact ih later mem

/-! ## Slots -/

/-- The values of the members with a name, in their order. -/
def valuesNamed [DecidableEq κ] (name : κ) (members : List (κ × Tree)) : List Tree :=
  (members.filter fun m => m.1 = name).map Prod.snd

section

variable [DecidableEq κ] {name : κ} {m : κ × Tree} {members : List (κ × Tree)}

@[simp] theorem valuesNamed_nil : valuesNamed name [] = [] := rfl

theorem valuesNamed_cons : valuesNamed name (m :: members) =
    if m.1 = name then m.2 :: valuesNamed name members else valuesNamed name members := by
  rw [valuesNamed, List.filter_cons, apply_ite (List.map Prod.snd)]
  simp only [decide_eq_true_eq, List.map_cons]
  rfl

theorem valuesNamed_append (name : κ) (members more : List (κ × Tree)) :
    valuesNamed name (members ++ more) = valuesNamed name members ++ valuesNamed name more := by
  simp [valuesNamed]

theorem valuesNamed_perm {permuted : List (κ × Tree)} (order : members.Perm permuted) :
    (valuesNamed name members).Perm (valuesNamed name permuted) :=
  (order.filter _).map _

theorem valuesNamed_eq_nil (others : ∀ m ∈ members, m.1 ≠ name) :
    valuesNamed name members = [] := by
  simpa [valuesNamed] using others

theorem mem_valuesNamed (mem : (name, t) ∈ members) : t ∈ valuesNamed name members :=
  List.mem_map.2 ⟨(name, t), List.mem_filter.2 ⟨mem, by simp⟩, rfl⟩

theorem length_valuesNamed (name : κ) (members : List (κ × Tree)) :
    (valuesNamed name members).length = members.countP fun m => m.1 = name := by
  rw [valuesNamed, List.length_map, List.countP_eq_length_filter]

end

/-- What a slot has before and after the values of its name. -/
inductive Slot (decode : Decoder α) : Option α → List Tree → Option α → Prop
  | kept (a : Option α) : Slot decode a [] a
  | filled {t : Tree} {a : α} (decoded : decode t = .ok a) : Slot decode none [t] (some a)

theorem slot_nil {a b : Option α} : Slot decode a [] b ↔ b = a :=
  ⟨fun slot => by cases slot; rfl, fun eq => eq ▸ .kept b⟩

/-- Only an empty slot has room for a value. -/
theorem slot_cons {a b : Option α} {ts : List Tree} : Slot decode a (t :: ts) b ↔
    ∃ x, a = none ∧ decode t = .ok x ∧ Slot decode (some x) ts b := by
  constructor
  · intro slot
    obtain _ | decoded := slot
    exact ⟨_, rfl, decoded, .kept _⟩
  · rintro ⟨x, rfl, decoded, slot⟩
    cases slot
    exact .filled decoded

def Only (decode : Decoder α) (ts : List Tree) (a : α) : Prop := ∃ t, ts = [t] ∧ decode t = .ok a

theorem slot_some_iff {ts : List Tree} {a : α} :
    Slot decode none ts (some a) ↔ Only decode ts a := by
  constructor
  · rintro (_ | decoded)
    exact ⟨_, rfl, decoded⟩
  · rintro ⟨t, rfl, decoded⟩
    exact .filled decoded

section

variable [DecidableEq κ] {name : κ} {members : List (κ × Tree)} {a : α}

theorem Only.decodes (only : Only decode (valuesNamed name members) a) (mem : (name, t) ∈ members) :
    decode t = .ok a := by
  obtain ⟨u, values, decoded⟩ := only
  have among := mem_valuesNamed mem
  rw [values, List.mem_singleton] at among
  exact among ▸ decoded

theorem Only.count (only : Only decode (valuesNamed name members) a) :
    (members.countP fun m => m.1 = name) = 1 := by
  obtain ⟨u, values, -⟩ := only
  rw [← length_valuesNamed, values]
  rfl

end

end

/-! ## Plain values -/

theorem decodeString_eq_ok {t : Tree} {s : String} (decoded : decodeString t = .ok s) :
    t = .string (some s) := by
  unfold decodeString at decoded
  split at decoded
  · obtain rfl := Except.ok.inj decoded
    rfl
  · cases decoded

theorem exists_number_of_decodeReal {t : Tree} {x : Binary64} (decoded : decodeReal t = .ok x) :
    ∃ l, t = .number l := by
  unfold decodeReal at decoded
  split at decoded
  · exact ⟨_, rfl⟩
  · cases decoded

def NumberLiteral.ofWhole (negative : Bool) (n : Nat) : NumberLiteral :=
  ⟨negative, Nat.toDigits 10 n, [], none⟩

theorem NumberLiteral.isDigits_ofWhole (negative : Bool) (n : Nat) :
    IsDigits (ofWhole negative n).whole :=
  ⟨List.ne_nil_of_length_pos Nat.length_toDigits_pos,
    fun _ mem => Nat.isDigit_of_mem_toDigits (by decide) (by decide) mem⟩

/-- A whole number up to `2 ^ 53` has itself as its value. Nought keeps its sign. -/
theorem exists_value_ofWhole (negative : Bool) {n : Nat} (small : n ≤ 2 ^ 53) :
    ∃ v, (NumberLiteral.ofWhole negative n).value? = some v ∧
      v.toBinary64 = .finite negative (Magnitude.whole n small) := by
  have digits : digitsValue (NumberLiteral.ofWhole negative n).whole = n :=
    Nat.ofDigitChars_ten_toDigits
  have plain : (NumberLiteral.ofWhole negative n).fraction.isEmpty ∧
      (NumberLiteral.ofWhole negative n).exponent.isNone ∧ n < 2 ^ 64 := ⟨rfl, rfl, by omega⟩
  have positive := Binary64.ofNat_eq small
  have negated : -Binary64.ofNat n = .finite true (Magnitude.whole n small) := by
    rw [positive]
    rfl
  simp only [NumberLiteral.value?, digits, plain, and_self, if_true]
  cases negative with
  | false => exact ⟨.whole n, rfl, by simp [NumberValue.toBinary64, positive]⟩
  | true =>
    -- Integers have no negative nought, so that this one is read as a real.
    by_cases nought : n = 0
    · exact ⟨.real (-Binary64.ofNat n), by simp [NumberLiteral.ofWhole, nought], negated⟩
    · have inRange : ¬ (n = 0 ∨ 2 ^ 63 < n) := by omega
      have below : ¬ (0 : Int) ≤ -(n : Int) := by omega
      refine ⟨.whole (-n), by simp only [NumberLiteral.ofWhole, inRange]; rfl, ?_⟩
      rw [NumberValue.toBinary64, if_neg below, Int.natAbs_neg, Int.natAbs_natCast, negated]

theorem decodeReal_ofWhole (negative : Bool) {n : Nat} (small : n ≤ 2 ^ 53) :
    decodeReal (.number (.ofWhole negative n)) =
      .ok (.finite negative (Magnitude.whole n small)) := by
  obtain ⟨v, value, exact'⟩ := exists_value_ofWhole negative small
  rw [decodeReal, value, ← exact']

end CameraTelemetry.Json
