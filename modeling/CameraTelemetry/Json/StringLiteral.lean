/-!
# String literals of JSON

What stands between two quotes falls into pieces: characters, some of them behind a backslash, and
sixteen-bit units given by number. Units stand for characters, in pairs for those beyond the first
plane; a unit of a pair that stands alone is harmless as long as nobody asks for the text.
-/
namespace CameraTelemetry.Json

inductive Break
  /-- It ends inside a value. -/
  | endOfText
  /-- It goes on with something that cannot follow. -/
  | grammar
deriving DecidableEq, Repr

inductive Piece
  | char (c : Char)
  | unit (n : Nat)
deriving DecidableEq, Repr

/-- The character of a backslash and a letter. -/
def shortEscape? (c : Char) : Option Char :=
  if c = '"' ∨ c = '\\' ∨ c = '/' then some c
  else if c = 'b' then some (Char.ofNat 8)
  else if c = 'f' then some (Char.ofNat 12)
  else if c = 'n' then some '\n'
  else if c = 'r' then some '\r'
  else if c = 't' then some '\t'
  else none

def hexDigit? (c : Char) : Option Nat :=
  if c.isDigit then some (c.toNat - '0'.toNat)
  else if 'a' ≤ c ∧ c ≤ 'f' then some (c.toNat - 'a'.toNat + 10)
  else if 'A' ≤ c ∧ c ≤ 'F' then some (c.toNat - 'A'.toNat + 10)
  else none

def unitOf? (a b c d : Char) : Option Nat :=
  match hexDigit? a, hexDigit? b, hexDigit? c, hexDigit? d with
  | some a, some b, some c, some d => some (((a * 16 + b) * 16 + c) * 16 + d)
  | _, _, _, _ => none

/-- A text too short for a unit breaks off, unless it has the bytes for one. -/
def shortUnitBreak (cs : List Char) : Break :=
  if 4 ≤ cs.foldl (fun n c => n + c.utf8Size) 0 then .grammar else .endOfText

private def push {α : Type} (p : Piece) (scan : List Piece × α) : List Piece × α :=
  (p :: scan.1, scan.2)

/-- The pieces of a literal whose opening quote has been taken, and what follows its closing quote.
-/
def scanString : List Char → List Piece × Except Break (List Char)
  | [] => ([], .error .endOfText)
  | c :: rest =>
    if c = '"' then ([], .ok rest)
    else if c.toNat < 32 then ([], .error .grammar)
    else if c = '\\' then
      match rest with
      | [] => ([], .error .endOfText)
      | e :: more =>
        if e = 'u' then
          match more with
          | h1 :: h2 :: h3 :: h4 :: tail =>
            match unitOf? h1 h2 h3 h4 with
            | some n => push (.unit n) (scanString tail)
            | none => ([], .error .grammar)
          | short => ([], .error (shortUnitBreak short))
        else
          match shortEscape? e with
          | some c => push (.char c) (scanString more)
          | none => ([], .error .grammar)
    else push (.char c) (scanString rest)

/-- The first unit of a pair. -/
def isLead (n : Nat) : Bool := 0xd800 ≤ n && n ≤ 0xdbff

/-- The second unit of a pair. -/
def isTrail (n : Nat) : Bool := 0xdc00 ≤ n && n ≤ 0xdfff

def pairChar (lead trail : Nat) : Char :=
  Char.ofNat (0x10000 + (lead - 0xd800) * 0x400 + (trail - 0xdc00))

/-- The characters of the pieces, unless a unit of a pair stands alone. -/
def joinPieces? : List Piece → Option (List Char)
  | [] => some []
  | .char c :: rest => (joinPieces? rest).map (c :: ·)
  | .unit n :: rest =>
    if isLead n then
      match rest with
      | .unit m :: rest => if isTrail m then (joinPieces? rest).map (pairChar n m :: ·) else none
      | _ => none
    else if isTrail n then none
    else (joinPieces? rest).map (Char.ofNat n :: ·)

/-- A unit stands alone whatever pieces may follow. -/
def hasLoneUnit : List Piece → Bool
  | [] => false
  | .char _ :: rest => hasLoneUnit rest
  | .unit n :: rest =>
    if isLead n then
      match rest with
      | [] => false
      | .unit m :: rest => if isTrail m then hasLoneUnit rest else true
      | .char _ :: _ => true
    else if isTrail n then true
    else hasLoneUnit rest

end CameraTelemetry.Json
