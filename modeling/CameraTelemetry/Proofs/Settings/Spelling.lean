import CameraTelemetry.Proofs.Text.Separation
import CameraTelemetry.Settings.Directive
import Mathlib.Data.List.TakeWhile

/-!
# Reading what is written

Arguments that write directives down do to the settings what these do, one after the other, whatever
follows them. Which texts are flags and which are values is decided by the grammar alone.
-/
namespace CameraTelemetry.Settings

open Directive

/-! ## One argument -/

theorem splitJoined_of_plain {text : String} (plain : '=' ∉ text.toList) :
    splitJoined text = (text, none) := by
  have nothing : text.toList.dropWhile (· ≠ '=') = [] := by
    rw [List.dropWhile_eq_nil_iff]
    intro c mem
    simpa using fun same : c = '=' => plain (same ▸ mem)
  rw [splitJoined, nothing]

theorem splitJoined_join {name : String} (dashes : "--".toList <+: name.toList)
    (plain : '=' ∉ name.toList) (value : String) :
    splitJoined (name ++ "=" ++ value) = (name, some value) := by
  have text : (name ++ "=" ++ value).toList = name.toList ++ '=' :: value.toList := by simp
  have starts : (name ++ "=" ++ value).startsWith "--" = true := by
    rw [String.startsWith_string_iff, text]
    exact dashes.trans (List.prefix_append ..)
  simp only [splitJoined, text, Text.takeWhile_append_cons plain, Text.dropWhile_append_cons plain,
    starts, if_true, String.ofList_toList]

theorem dashes_of_join {name rest : List Char} (dashes : "--".toList <+: name ++ '=' :: rest) :
    "--".toList <+: name := by
  match name with
  | [] => simp at dashes
  | [a] => simp at dashes
  | a :: b :: _ => simpa using dashes

theorem splitJoined_cases (argument : String) :
    splitJoined argument = (argument, none) ∨
      ∃ name value, argument = name ++ "=" ++ value ∧ "--".toList <+: name.toList ∧
        splitJoined argument = (name, some value) := by
  cases after : argument.toList.dropWhile (· ≠ '=') with
  | nil => exact .inl (by simp only [splitJoined, after])
  | cons c joined =>
    have equals : c = '=' := by
      have stop := List.head?_dropWhile_not (· ≠ '=') argument.toList
      rw [after] at stop
      simpa using stop
    have whole := List.takeWhile_append_dropWhile (p := (· ≠ '=')) (l := argument.toList)
    rw [after, equals] at whole
    by_cases dashes : argument.startsWith "--" = true
    · refine .inr ⟨String.ofList (argument.toList.takeWhile (· ≠ '=')), String.ofList joined,
        ?_, ?_, ?_⟩
      · apply String.toList_injective
        simpa using whole.symm
      · rw [String.startsWith_string_iff, ← whole] at dashes
        simpa using dashes_of_join dashes
      · simp only [splitJoined, after, dashes, if_true]
    · exact .inl (by simp only [splitJoined, after, dashes]; rfl)

/-! ## One directive -/

theorem dashes_name (flag : Flag) : "--".toList <+: flag.name.toList := by
  cases flag <;> simp [Flag.name]

theorem plain_of_spelling {flag : Flag} {spelling : String} (known : spelling ∈ flag.spellings) :
    '=' ∉ spelling.toList := by
  have all : ∀ text ∈ flag.spellings, '=' ∉ text.toList := by
    cases flag <;> simp [Flag.spellings, Flag.name]
  exact all spelling known

theorem ofText?_of_spelling {flag : Flag} {spelling : String} (known : spelling ∈ flag.spellings) :
    Request.ofText? spelling = some (.value flag) := by
  have all : ∀ text ∈ flag.spellings, Request.ofText? text = some (.value flag) := by
    cases flag <;> simp [Flag.spellings, Flag.name, Request.ofText?]
  exact all spelling known

theorem spelling_of_ofText? {flag : Flag} {text : String}
    (read : Request.ofText? text = some (.value flag)) : text ∈ flag.spellings := by
  simp only [Request.ofText?, ite_eq_iff, Option.some.injEq, reduceCtorEq, Request.value.injEq,
    and_false, false_or, or_false] at read
  grind [Flag.spellings, Flag.name]

/-- Of the spellings of a flag only its name has two dashes. -/
theorem eq_name_of_dashes {flag : Flag} {spelling : String} (known : spelling ∈ flag.spellings)
    (dashes : "--".toList <+: spelling.toList) : spelling = flag.name := by
  have all : ∀ text ∈ flag.spellings, "--".toList <+: text.toList → text = flag.name := by
    cases flag <;> simp [Flag.spellings, Flag.name]
  exact all spelling known dashes

theorem eq_of_ofText?_disable {text : String}
    (read : Request.ofText? text = some .disableCamera) : text = "--no-vapix" := by
  simp only [Request.ofText?, ite_eq_iff, Option.some.injEq, reduceCtorEq, and_false, false_or,
    or_false, and_true] at read
  exact read.2.2.2.2.2.2

/-- Written arguments at the front do to the settings what their directive does. -/
theorem applyArguments_written {d : Directive} {texts : List String} (written : Written d texts)
    (program : String) (rest : List String) (s : Settings) :
    applyArguments program (texts ++ rest) s = (d.apply s).bind (applyArguments program rest) := by
  cases written with
  | @apart flag spelling known value =>
    simp only [List.cons_append, List.nil_append, applyArguments,
      splitJoined_of_plain (plain_of_spelling known), ofText?_of_spelling known, Directive.apply]
    cases flag.set value s <;> rfl
  | joined flag value =>
    have known := flag.name_mem_spellings
    simp only [List.cons_append, List.nil_append, applyArguments,
      splitJoined_join (dashes_name flag) (plain_of_spelling known), ofText?_of_spelling known,
      Directive.apply]
    cases flag.set value s <;> rfl
  | bare =>
    have whole : splitJoined "--no-vapix" = ("--no-vapix", none) := splitJoined_of_plain (by simp)
    simp only [List.cons_append, List.nil_append, applyArguments, whole]
    rfl
  | bareJoined text =>
    have split : splitJoined ("--no-vapix" ++ "=" ++ text) = ("--no-vapix", some text) :=
      splitJoined_join (by simp) (by simp) text
    simp only [List.cons_append, List.nil_append, applyArguments, split]
    rfl

/-! ## A whole command line -/

theorem applyArguments_append {arguments : List String} {directives : List Directive}
    (spells : Spells arguments directives) (program : String) (rest : List String) (s : Settings) :
    applyArguments program (arguments ++ rest) s =
      (applyAll directives s).bind (applyArguments program rest) := by
  induction spells generalizing s with
  | nil => rfl
  | cons head tail ih =>
    rw [List.append_assoc, applyArguments_written head, applyAll]
    cases Directive.apply _ s with
    | error e => rfl
    | ok next => exact ih next

/-- Arguments that write directives down come to the settings that these leave. -/
theorem applyArguments_eq_of_spells {arguments : List String} {directives : List Directive}
    (spells : Spells arguments directives) (program : String) (s : Settings) :
    applyArguments program arguments s = (applyAll directives s).map .run := by
  have all := applyArguments_append spells program [] s
  rw [List.append_nil] at all
  rw [all]
  cases applyAll directives s <;> rfl

end CameraTelemetry.Settings
