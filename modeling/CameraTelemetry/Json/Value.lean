import CameraTelemetry.Number.Layout
import CameraTelemetry.Text.Quoted

/-!
# JSON values and their compact text

The documents that the agent serves. The text has no blanks between its parts, keeps the members of
an object in their order, and escapes only quotes, backslashes and control characters below the
space. A number that is not finite is written as null.
-/
namespace CameraTelemetry.Json

open Number

inductive Value
  | null
  | bool (b : Bool)
  | count (n : Nat)
  | number (x : Binary64)
  | string (s : String)
  | array (items : List Value)
  | object (members : List (String × Value))

namespace Value

def optional : Option String → Value
  | none => null
  | some s => string s

def optionalNumber : Option Binary64 → Value
  | none => null
  | some x => number x

end Value

def escapeChar (c : Char) : String :=
  if c = '"' then "\\\""
  else if c = '\\' then "\\\\"
  else if c = '\n' then "\\n"
  else if c = '\r' then "\\r"
  else if c = '\t' then "\\t"
  else if c.toNat = 8 then "\\b"
  else if c.toNat = 12 then "\\f"
  else if c.toNat < 16 then "\\u000" ++ Text.hexDigits c.toNat
  else if c.toNat < 32 then "\\u00" ++ Text.hexDigits c.toNat
  else c.toString

def stringText (s : String) : String :=
  "\"" ++ s.foldl (fun done c => done ++ escapeChar c) "" ++ "\""

def numberText (x : Binary64) : String :=
  if x.isFinite then x.write .json else "null"

mutual

def Value.compact : Value → String
  | .null => "null"
  | .bool b => if b then "true" else "false"
  | .count n => toString n
  | .number x => numberText x
  | .string s => stringText s
  | .array items => "[" ++ itemsText items ++ "]"
  | .object members => "\x7b" ++ membersText members ++ "\x7d"

def itemsText : List Value → String
  | [] => ""
  | [v] => v.compact
  | v :: w :: rest => v.compact ++ "," ++ itemsText (w :: rest)

def membersText : List (String × Value) → String
  | [] => ""
  | [(name, v)] => stringText name ++ ":" ++ v.compact
  | (name, v) :: m :: rest => stringText name ++ ":" ++ v.compact ++ "," ++ membersText (m :: rest)

end

end CameraTelemetry.Json
