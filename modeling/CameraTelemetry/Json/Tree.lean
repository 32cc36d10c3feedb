import CameraTelemetry.Json.NumberLiteral

/-!
# Reading JSON text

A text is read into a tree that shows as much of a value as the text does: where it stops being
JSON the tree is broken, and what comes before that place is there all the same. So whoever takes
the tree apart from left to right meets the first fault of the text, be it one of grammar or of
meaning.
-/
namespace CameraTelemetry.Json

/-- The place where a text breaks. How it breaks depends on whether the value in it is wanted: a cut
number or a string with a lone unit is told apart only by those who want it. -/
structure BreakPoint where
  wanted : Break
  skipped : Break
deriving DecidableEq, Repr

def BreakPoint.plain (b : Break) : BreakPoint := ⟨b, b⟩

/-- As much of a value as a text shows. A string is missing if it has a lone unit; a container
without a break is closed. -/
inductive Tree
  | null
  | bool (b : Bool)
  | number (l : NumberLiteral)
  | string (s : Option String)
  | array (items : List Tree) (broken : Option BreakPoint)
  | object (members : List (Option String × Tree)) (broken : Option BreakPoint)
  | broken (b : BreakPoint)

def isJsonBlank (c : Char) : Bool := c = ' ' || c = '\n' || c = '\t' || c = '\r'

def skipBlanks (cs : List Char) : List Char := cs.dropWhile isJsonBlank

/-- The text of a string literal, or the place where it breaks, and what follows it. -/
def readString (cs : List Char) : Except BreakPoint (Option String × List Char) :=
  match scanString cs with
  | (pieces, .ok rest) => .ok ((joinPieces? pieces).map String.ofList, rest)
  | (pieces, .error b) => .error ⟨if hasLoneUnit pieces then .grammar else b, b⟩

/-- What follows a word, if the word stands there. -/
def readWord : List Char → List Char → Except Break (List Char)
  | [], cs => .ok cs
  | _, [] => .error .endOfText
  | w :: word, c :: rest => if w = c then readWord word rest else .error .grammar

private def readConstant (word : String) (t : Tree) (cs : List Char) : Tree × Option (List Char) :=
  match readWord word.toList cs with
  | .ok rest => (t, some rest)
  | .error b => (.broken (.plain b), none)

mutual

/-- The value that begins a text, and what follows it unless the value is broken. -/
def readTree : Nat → List Char → Tree × Option (List Char)
  | 0, _ => (.broken (.plain .endOfText), none)
  | fuel + 1, cs =>
    match skipBlanks cs with
    | [] => (.broken (.plain .endOfText), none)
    | c :: rest =>
      if c = 'n' then readConstant "ull" .null rest
      else if c = 't' then readConstant "rue" (.bool true) rest
      else if c = 'f' then readConstant "alse" (.bool false) rest
      else if c = '"' then
        match readString rest with
        | .ok (s, rest) => (.string s, some rest)
        | .error b => (.broken b, none)
      else if c = '[' then
        match skipBlanks rest with
        | ']' :: rest => (.array [] none, some rest)
        | rest =>
          if rest.isEmpty then (.array [] (some (.plain .endOfText)), none)
          else
            let (items, broken, rest) := readItems fuel rest
            (.array items broken, rest)
      else if c = '\x7b' then
        let (members, broken, rest) := readFirstMember fuel rest
        (.object members broken, rest)
      else if c = '-' ∨ c.isDigit then
        match scanNumber (c :: rest) with
        | .literal l rest => (.number l, some rest)
        | .cutOff => (.broken ⟨.endOfText, .grammar⟩, none)
        | .malformed => (.broken (.plain .grammar), none)
      else (.broken (.plain .grammar), none)

def readItems : Nat → List Char → List Tree × Option BreakPoint × Option (List Char)
  | 0, _ => ([], some (.plain .endOfText), none)
  | fuel + 1, cs =>
    match readTree fuel cs with
    | (t, none) => ([t], none, none)
    | (t, some rest) =>
      match skipBlanks rest with
      | [] => ([t], some (.plain .endOfText), none)
      | c :: rest =>
        if c = ']' then ([t], none, some rest)
        else if c = ',' then
          let (items, broken, rest) := readItems fuel rest
          (t :: items, broken, rest)
        else ([t], some (.plain .grammar), none)

def readFirstMember :
    Nat → List Char → List (Option String × Tree) × Option BreakPoint × Option (List Char)
  | 0, _ => ([], some (.plain .endOfText), none)
  | fuel + 1, cs =>
    match skipBlanks cs with
    | '\x7d' :: rest => ([], none, some rest)
    | rest => readMembers fuel rest

def readMembers :
    Nat → List Char → List (Option String × Tree) × Option BreakPoint × Option (List Char)
  | 0, _ => ([], some (.plain .endOfText), none)
  | fuel + 1, cs =>
    match skipBlanks cs with
    | [] => ([], some (.plain .endOfText), none)
    | c :: rest =>
      if c ≠ '"' then ([], some (.plain .grammar), none)
      else
        match readString rest with
        | .error b => ([], some b, none)
        | .ok (name, rest) =>
          match skipBlanks rest with
          | [] => ([(name, .broken (.plain .endOfText))], none, none)
          | c :: rest =>
            if c ≠ ':' then ([(name, .broken (.plain .grammar))], none, none)
            else
              match readTree fuel rest with
              | (t, none) => ([(name, t)], none, none)
              | (t, some rest) =>
                match skipBlanks rest with
                | [] => ([(name, t)], some (.plain .endOfText), none)
                | c :: rest =>
                  if c = '\x7d' then ([(name, t)], none, some rest)
                  else if c = ',' then
                    let (members, broken, rest) := readMembers fuel rest
                    ((name, t) :: members, broken, rest)
                  else ([(name, t)], some (.plain .grammar), none)

end

/-- The tree of a text, and how the text breaks after the value if it goes on. -/
def readDocument (text : String) : Tree × Option Break :=
  let cs := text.toList
  match readTree (2 * cs.length + 2) cs with
  | (t, none) => (t, none)
  | (t, some rest) => (t, if (skipBlanks rest).isEmpty then none else some .grammar)

end CameraTelemetry.Json
