import CameraTelemetry.Camera.Challenge
import CameraTelemetry.Proofs.Text.Separation

/-!
# The grammar of challenges

A header value holds one or more challenges with commas between them. A challenge is a scheme,
alone or with a code or with parameters after it, and the parameters too have commas between them.
The value of a parameter may be quoted and then has any characters in it. Every list of challenges
can be written in one value.
-/
namespace CameraTelemetry.Camera

open Text

/-! ## Challenges -/

def isTokenChar (c : Char) : Bool := c.isAlphanum || "!#$%&'*+-.^_`|~".toList.contains c

/-- A name: a scheme, or that of a parameter. -/
structure Token where
  text : String
  some : text.toList ≠ []
  plain : text.toList.all isTokenChar = true
deriving DecidableEq

/-- Letters, digits and a few signs, with equals signs at the end. -/
structure Code where
  front : String
  pads : Nat
  some : front.toList ≠ []
  plain : front.toList.all (fun c => c.isAlphanum || "-._~+/".toList.contains c) = true
deriving DecidableEq

structure Param where
  name : Token
  value : String
deriving DecidableEq

/-- What follows a scheme. -/
inductive Details
  | none
  | code (code : Code)
  | params (first : Param) (more : List Param)
deriving DecidableEq

structure Challenge where
  scheme : Token
  details : Details
deriving DecidableEq

/-- The challenge is one of the scheme, in whatever case that is written. -/
def Challenge.IsOf (scheme : String) (c : Challenge) : Prop := asciiLower c.scheme.text = scheme

instance (scheme : String) (c : Challenge) : Decidable (c.IsOf scheme) :=
  inferInstanceAs (Decidable (_ = _))

/-! ## How they are written -/

def IsGap (cs : List Char) : Prop := ∀ c ∈ cs, c = ' ' ∨ c = '\t'

/-- Items with commas between them, and gaps around the commas. -/
inductive Listed {α : Type} (Spells : α → List Char → Prop) : List α → List Char → Prop
  | one {a : α} {text : List Char} (item : Spells a text) : Listed Spells [a] text
  | cons {a : α} {text before after rest : List Char} {more : List α} (item : Spells a text)
    (left : IsGap before) (right : IsGap after) (tail : Listed Spells more rest) :
    Listed Spells (a :: more) (text ++ (before ++ ',' :: (after ++ rest)))

/-- Between quotes any character stands for itself or after a backslash, but a quote and a backslash
only after one. -/
inductive Quotes : List Char → List Char → Prop
  | nil : Quotes [] []
  | plain {c : Char} {cs text : List Char} (quote : c ≠ '"') (backslash : c ≠ '\\')
    (tail : Quotes cs text) : Quotes (c :: cs) (c :: text)
  | escaped {c : Char} {cs text : List Char} (tail : Quotes cs text) :
    Quotes (c :: cs) ('\\' :: c :: text)

/-- The text of a value, which is quoted unless it is a name. -/
inductive SpellsValue : String → List Char → Prop
  | bare (name : Token) : SpellsValue name.text name.text.toList
  | quoted {value : String} {text : List Char} (quotes : Quotes value.toList text) :
    SpellsValue value ('"' :: (text ++ ['"']))

inductive Param.Spells : Param → List Char → Prop
  | intro {name : Token} {value : String} {before after text : List Char} (left : IsGap before)
    (right : IsGap after) (spells : SpellsValue value text) :
    Spells ⟨name, value⟩ (name.text.toList ++ (before ++ '=' :: (after ++ text)))

inductive Details.Spells : Details → List Char → Prop
  | code (code : Code) :
    Spells (.code code) (code.front.toList ++ List.replicate code.pads '=')
  | params {first : Param} {more : List Param} {text : List Char}
    (listed : Listed Param.Spells (first :: more) text) : Spells (.params first more) text

inductive Challenge.Spells : Challenge → List Char → Prop
  | bare (scheme : Token) : Spells ⟨scheme, .none⟩ scheme.text.toList
  | detailed {scheme : Token} {details : Details} {between text : List Char} (some : between ≠ [])
    (gap : IsGap between) (spells : details.Spells text) :
    Spells ⟨scheme, details⟩ (scheme.text.toList ++ (between ++ text))

/-- The header value holds the challenges. -/
def Holds (value : List Challenge) (text : String) : Prop :=
  ∃ before listed after, IsGap before ∧ Listed Challenge.Spells value listed ∧ IsGap after ∧
    text.toList = before ++ (listed ++ after)

/-! ## Every list of challenges can be written -/

section

variable {α : Type} {Spells : α → List Char → Prop} {write : α → List Char}

theorem isGap_nil : IsGap [] := by simp [IsGap]

theorem isGap_space : IsGap [' '] := by simp [IsGap]

def writeList (write : α → List Char) : α → List α → List Char
  | a, [] => write a
  | a, b :: more => write a ++ ',' :: ' ' :: writeList write b more

theorem listed_writeList (spells : ∀ a, Spells a (write a)) (first : α) (more : List α) :
    Listed Spells (first :: more) (writeList write first more) := by
  induction more generalizing first with
  | nil => exact .one (spells first)
  | cons next more ih => exact .cons (spells first) isGap_nil isGap_space (ih next)

end

def quotes : List Char → List Char
  | [] => []
  | c :: cs => if c = '"' ∨ c = '\\' then '\\' :: c :: quotes cs else c :: quotes cs

theorem quotes_spec (cs : List Char) : Quotes cs (quotes cs) := by
  induction cs with
  | nil => exact .nil
  | cons c cs ih =>
    rw [quotes]
    split
    case isTrue => exact .escaped ih
    case isFalse plain =>
      rw [not_or] at plain
      exact .plain plain.1 plain.2 ih

def Param.write (p : Param) : List Char :=
  p.name.text.toList ++ '=' :: '"' :: (quotes p.value.toList ++ ['"'])

theorem Param.spells_write (p : Param) : p.Spells p.write :=
  .intro isGap_nil isGap_nil (.quoted (quotes_spec p.value.toList))

def Challenge.write (c : Challenge) : List Char :=
  match c.details with
  | .none => c.scheme.text.toList
  | .code code => c.scheme.text.toList ++ ' ' :: (code.front.toList ++ List.replicate code.pads '=')
  | .params first more => c.scheme.text.toList ++ ' ' :: writeList Param.write first more

theorem Challenge.spells_write (c : Challenge) : c.Spells c.write := by
  obtain ⟨scheme, details⟩ := c
  cases details with
  | none => exact .bare scheme
  | code code => exact .detailed (List.cons_ne_nil ' ' []) isGap_space (.code code)
  | params first more =>
    exact .detailed (List.cons_ne_nil ' ' []) isGap_space
      (.params (listed_writeList Param.spells_write first more))

def writeValue (first : Challenge) (more : List Challenge) : String :=
  String.ofList (writeList Challenge.write first more)

theorem holds_writeValue (first : Challenge) (more : List Challenge) :
    Holds (first :: more) (writeValue first more) :=
  ⟨[], _, [], isGap_nil, listed_writeList Challenge.spells_write first more, isGap_nil, by
    simp [writeValue]⟩

theorem holds_of_eq {first : Challenge} {more : List Challenge} {text : String}
    (written : writeValue first more = text) : Holds (first :: more) text :=
  written ▸ holds_writeValue first more

/-! ## How a value begins -/

section

variable {cs rest : List Char} {c : Challenge} {value : List Challenge}

theorem IsGap.blank (gap : IsGap cs) : ∀ c ∈ cs, isBlank c = true := by
  intro c mem
  rcases gap c mem with rfl | rfl <;> decide

theorem ends_append (some : cs ≠ []) (blank : ∀ c ∈ cs, isBlank c = true) : Ends (cs ++ rest) := by
  cases cs with
  | nil => exact absurd rfl some
  | cons c cs => exact ends_cons.2 (blank c List.mem_cons_self)

theorem ends_of_blank (blank : ∀ c ∈ cs, isBlank c = true) : Ends cs := by
  cases cs with
  | nil => exact ends_nil
  | cons c cs => exact ends_cons.2 (blank c List.mem_cons_self)

theorem isBlank_of_isTokenChar {c : Char} (plain : isTokenChar c = true) : isBlank c = false := by
  have signs : "!#$%&'*+-.^_`|~".toList.all (fun c => !isBlank c) = true := by decide
  rw [isTokenChar, Bool.or_eq_true, List.contains_iff_mem] at plain
  rcases plain with word | sign
  · change (decide (65 ≤ c.val ∧ c.val ≤ 90) || (decide (97 ≤ c.val) && decide (c.val ≤ 122)) ||
      (decide (48 ≤ c.val) && decide (c.val ≤ 57))) = true at word
    simp only [Bool.or_eq_true, Bool.and_eq_true, decide_eq_true_eq, UInt32.le_iff_toNat_le] at word
    have range : (65 ≤ c.toNat ∧ c.toNat ≤ 90 ∨ 97 ≤ c.toNat ∧ c.toNat ≤ 122) ∨
        48 ≤ c.toNat ∧ c.toNat ≤ 57 := word
    rw [Bool.eq_false_iff]
    simp only [isBlank, ne_eq, Bool.or_eq_true, Bool.and_eq_true, decide_eq_true_eq, beq_iff_eq]
    omega
  · simpa using List.all_eq_true.1 signs c sign

theorem Token.isWord (t : Token) : IsWord t.text.toList :=
  ⟨t.some, fun c mem => isBlank_of_isTokenChar (List.all_eq_true.1 t.plain c mem)⟩

/-- A challenge begins with its scheme, after which there is nothing or a blank. -/
theorem Challenge.Spells.begins {text : List Char} (spells : c.Spells text) :
    ∃ after, text = c.scheme.text.toList ++ after ∧
      (after = [] ∨ ∀ rest, Ends (after ++ rest)) := by
  cases spells with
  | bare scheme => exact ⟨[], (List.append_nil _).symm, .inl rfl⟩
  | detailed some gap spells =>
    refine ⟨_, rfl, .inr fun rest => ?_⟩
    rw [List.append_assoc]
    exact ends_append some gap.blank

/-- A value begins with its first challenge. Where there are others, a comma may follow at once. -/
theorem Holds.begins {text : String} (holds : Holds value text) :
    ∃ c more before after, value = c :: more ∧ IsGap before ∧
      text.toList = before ++ (c.scheme.text.toList ++ after) ∧
      (Ends after ∨ more ≠ [] ∧ ∃ rest, after = ',' :: rest) := by
  obtain ⟨before, listed, behind, gap, list, last, eq⟩ := holds
  cases list with
  | one item =>
    obtain ⟨after, rfl, follows⟩ := item.begins
    refine ⟨_, [], before, after ++ behind, rfl, gap, by rw [eq, List.append_assoc], .inl ?_⟩
    rcases follows with rfl | ends
    · exact ends_of_blank last.blank
    · exact ends behind
  | @cons c text left right rest more item leftGap rightGap tail =>
    obtain ⟨after, rfl, follows⟩ := item.begins
    have some : more ≠ [] := by
      rintro rfl
      cases tail
    refine ⟨c, more, before, after ++ (left ++ ',' :: (right ++ rest ++ behind)), rfl, gap, ?_, ?_⟩
    · rw [eq]
      simp only [List.append_assoc, List.cons_append]
    · rcases follows with rfl | ends
      · rw [List.nil_append]
        cases left with
        | nil => exact .inr ⟨some, _, rfl⟩
        | cons d left => exact .inl (ends_append (List.cons_ne_nil d left) leftGap.blank)
      · exact .inl (ends _)

end

end CameraTelemetry.Camera
