import CameraTelemetry.Text.Shapeless

/-!
# Quoted text in messages

How a message shows a piece of foreign text: between double quotes, so that its ends are visible,
with a backslash before quotes and backslashes and with shapeless characters by name or number.
-/
namespace CameraTelemetry.Text

/-- A text of which each character is written as it is. -/
theorem foldl_verbatim {write : Char → String} {s : String}
    (verbatim : ∀ c ∈ s.toList, write c = c.toString) :
    s.foldl (fun done c => done ++ write c) "" = s := by
  have written (cs : List Char) (done : String) (verbatim : ∀ c ∈ cs, write c = c.toString) :
      cs.foldl (fun done c => done ++ write c) done = done ++ String.ofList cs := by
    induction cs generalizing done with
    | nil => simp
    | cons c cs ih =>
      obtain ⟨same, verbatim⟩ := List.forall_mem_cons.1 verbatim
      rw [List.foldl_cons, same, ih _ verbatim, String.append_assoc]
      simp
  rw [String.foldl_eq_foldl_toList, written _ _ verbatim]
  simp

def hexDigits (n : Nat) : String :=
  String.ofList (Nat.toDigits 16 n)

def quoteChar (c : Char) : String :=
  if c = '"' then "\\\""
  else if c = '\\' then "\\\\"
  else if c = '\n' then "\\n"
  else if c = '\r' then "\\r"
  else if c = '\t' then "\\t"
  else if c.toNat = 0 then "\\0"
  else if isShapeless c then "\\u\x7b" ++ hexDigits c.toNat ++ "\x7d"
  else c.toString

def quoted (s : String) : String :=
  "\"" ++ s.foldl (fun done c => done ++ quoteChar c) "" ++ "\""

/-- Text that may be missing, shown with its case. -/
def quotedOption : Option String → String
  | none => "None"
  | some s => "Some(" ++ quoted s ++ ")"

end CameraTelemetry.Text
