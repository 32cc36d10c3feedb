import CameraTelemetry.Json.Tree

/-!
# The grammar of JSON texts

Which texts write a value. Blanks may stand around every value and every name of a member. A
character of a string may be written as it is or behind a backslash, and by the numbers of its
units; a number has a sign, whole digits, a fraction and an exponent. The grammar says nothing
about how a text is read.
-/
namespace CameraTelemetry.Json

def IsBlanks (cs : List Char) : Prop := ∀ c ∈ cs, c = ' ' ∨ c = '\n' ∨ c = '\t' ∨ c = '\r'

theorem isBlanks_nil : IsBlanks [] := by simp [IsBlanks]

/-! ## Strings -/

/-- The digit of a number below sixteen, its letter in either case. -/
def IsHexDigit (n : Nat) (c : Char) : Prop :=
  n < 16 ∧ (c = Nat.digitChar n ∨ c = (Nat.digitChar n).toUpper)

inductive SpellsUnit : Nat → List Char → Prop
  | intro {a b c d : Nat} {w x y z : Char} (first : IsHexDigit a w) (second : IsHexDigit b x)
    (third : IsHexDigit c y) (fourth : IsHexDigit d z) :
    SpellsUnit (16 ^ 3 * a + 16 ^ 2 * b + 16 * c + d) [w, x, y, z]

/-- What may stand behind a backslash, with the character that it means. -/
def shortEscapes : List (Char × Char) :=
  [('"', '"'), ('\\', '\\'), ('/', '/'), ('b', '\x08'), ('f', '\x0c'), ('n', '\n'), ('r', '\r'),
    ('t', '\t')]

inductive SpellsPiece : Piece → List Char → Prop
  | plain {c : Char} (visible : 0x20 ≤ c.toNat) (quote : c ≠ '"') (backslash : c ≠ '\\') :
    SpellsPiece (.char c) [c]
  | short {letter c : Char} (escape : (letter, c) ∈ shortEscapes) :
    SpellsPiece (.char c) ['\\', letter]
  | unit {n : Nat} {digits : List Char} (spells : SpellsUnit n digits) :
    SpellsPiece (.unit n) ('\\' :: 'u' :: digits)

inductive SpellsPieces : List Piece → List Char → Prop
  | nil : SpellsPieces [] []
  | cons {p : Piece} {ps : List Piece} {text rest : List Char} (head : SpellsPiece p text)
    (tail : SpellsPieces ps rest) : SpellsPieces (p :: ps) (text ++ rest)

/-- The pieces stand for the characters. A unit is the number of a character, but a character beyond
the first plane has two. -/
inductive Means : List Piece → List Char → Prop
  | nil : Means [] []
  | char {c : Char} {ps : List Piece} {cs : List Char} (tail : Means ps cs) :
    Means (.char c :: ps) (c :: cs)
  | unit {c : Char} {ps : List Piece} {cs : List Char} (tail : Means ps cs) :
    Means (.unit c.toNat :: ps) (c :: cs)
  | pair {c : Char} {high low : Nat} {ps : List Piece} {cs : List Char} (highest : high < 0x400)
    (lowest : low < 0x400) (number : c.toNat = 0x10000 + 0x400 * high + low)
    (tail : Means ps cs) :
    Means (.unit (0xd800 + high) :: .unit (0xdc00 + low) :: ps) (c :: cs)

/-- The text with its quotes. It has no meaning if a unit of a pair stands alone. -/
inductive SpellsString : Option String → List Char → Prop
  | text {s : String} {ps : List Piece} {inside : List Char} (pieces : SpellsPieces ps inside)
    (means : Means ps s.toList) : SpellsString (some s) ('"' :: (inside ++ ['"']))
  | meaningless {ps : List Piece} {inside : List Char} (pieces : SpellsPieces ps inside)
    (nothing : ∀ cs, ¬ Means ps cs) : SpellsString none ('"' :: (inside ++ ['"']))

/-- Without quotes, backslashes and control characters. -/
def IsPlain (s : String) : Prop := ∀ c ∈ s.toList, 0x20 ≤ c.toNat ∧ c ≠ '"' ∧ c ≠ '\\'

theorem spellsString_plain {s : String} (plain : IsPlain s) :
    SpellsString (some s) ('"' :: (s.toList ++ ['"'])) := by
  suffices both : ∀ cs : List Char, (∀ c ∈ cs, 0x20 ≤ c.toNat ∧ c ≠ '"' ∧ c ≠ '\\') →
      SpellsPieces (cs.map .char) cs ∧ Means (cs.map .char) cs from
    .text (both s.toList plain).1 (both s.toList plain).2
  intro cs plain
  induction cs with
  | nil => exact ⟨.nil, .nil⟩
  | cons c cs ih =>
    obtain ⟨⟨visible, quote, backslash⟩, plain⟩ := List.forall_mem_cons.1 plain
    exact ⟨.cons (.plain visible quote backslash) (ih plain).1, .char (ih plain).2⟩

/-! ## Numbers -/

structure IsDigits (cs : List Char) : Prop where
  ne_nil : cs ≠ []
  digits : ∀ c ∈ cs, c.isDigit = true

inductive SpellsSign : Bool → List Char → Prop
  | minus : SpellsSign true ['-']
  | absent : SpellsSign false []

inductive SpellsFraction : List Char → List Char → Prop
  | absent : SpellsFraction [] []
  | present {digits : List Char} (isDigits : IsDigits digits) :
    SpellsFraction digits ('.' :: digits)

inductive SpellsExponent : Option (Bool × List Char) → List Char → Prop
  | absent : SpellsExponent none []
  | present {e : Char} {negative : Bool} {sign digits : List Char} (letter : e = 'e' ∨ e = 'E')
    (signed : SpellsSign negative sign ∨ negative = false ∧ sign = ['+'])
    (isDigits : IsDigits digits) : SpellsExponent (some (negative, digits)) (e :: (sign ++ digits))

/-- The text of a number. Its whole digits begin with a nought only if that is the only one. -/
inductive SpellsNumber : NumberLiteral → List Char → Prop
  | intro {l : NumberLiteral} {sign fraction exponent : List Char}
    (signed : SpellsSign l.negative sign) (isDigits : IsDigits l.whole)
    (leading : l.whole.head? = some '0' → l.whole = ['0'])
    (fractional : SpellsFraction l.fraction fraction)
    (exponential : SpellsExponent l.exponent exponent) :
    SpellsNumber l (sign ++ (l.whole ++ (fraction ++ exponent)))

/-! ## Values -/

section

variable {α : Type}

/-- Items with blanks around them and commas between them. -/
inductive Listed (Spells : α → List Char → Prop) : List α → List Char → Prop
  | one {a : α} {before text after : List Char} (left : IsBlanks before) (item : Spells a text)
    (right : IsBlanks after) : Listed Spells [a] (before ++ (text ++ after))
  | cons {a : α} {more : List α} {before text after rest : List Char} (left : IsBlanks before)
    (item : Spells a text) (right : IsBlanks after) (tail : Listed Spells more rest) :
    Listed Spells (a :: more) (before ++ (text ++ (after ++ ',' :: rest)))

/-- What stands between the brackets of a container. -/
inductive Contained (Spells : α → List Char → Prop) : List α → List Char → Prop
  | nothing {blanks : List Char} (isBlanks : IsBlanks blanks) : Contained Spells [] blanks
  | items {as : List α} {text : List Char} (listed : Listed Spells as text) :
    Contained Spells as text

end

inductive SpellsMember (Spells : Tree → List Char → Prop) :
    Option String × Tree → List Char → Prop
  | intro {name : Option String} {t : Tree} {key between before text : List Char}
    (named : SpellsString name key) (left : IsBlanks between) (right : IsBlanks before)
    (value : Spells t text) :
    SpellsMember Spells (name, t) (key ++ (between ++ ':' :: (before ++ text)))

/-- The text of a value, without blanks around it. -/
inductive Writes : Tree → List Char → Prop
  | null : Writes .null "null".toList
  | bool (b : Bool) : Writes (.bool b) (if b then "true".toList else "false".toList)
  | number {l : NumberLiteral} {text : List Char} (spells : SpellsNumber l text) :
    Writes (.number l) text
  | string {s : Option String} {text : List Char} (spells : SpellsString s text) :
    Writes (.string s) text
  | array {items : List Tree} {text : List Char} (contained : Contained Writes items text) :
    Writes (.array items none) ('[' :: (text ++ [']']))
  | object {members : List (Option String × Tree)} {text : List Char}
    (contained : Contained (SpellsMember Writes) members text) :
    Writes (.object members none) ('\x7b' :: (text ++ ['\x7d']))

theorem spellsMember_plain {name s : String} (plainName : IsPlain name) (plain : IsPlain s) :
    SpellsMember Writes (some name, .string (some s))
      ("\"" ++ name ++ "\":\"" ++ s ++ "\"").toList := by
  have member : SpellsMember Writes (some name, .string (some s)) _ :=
    .intro (spellsString_plain plainName) isBlanks_nil isBlanks_nil
      (.string (spellsString_plain plain))
  simpa using member

/-- The text is JSON and holds the value. -/
def Holds (t : Tree) (text : String) : Prop :=
  ∃ before value after, IsBlanks before ∧ Writes t value ∧ IsBlanks after ∧
    text.toList = before ++ (value ++ after)

end CameraTelemetry.Json
