import CameraTelemetry.Proofs.Settings.Stopping

/-!
# Spelling a flag another way

At the place of a flag, a flag and its value may be written apart, with either spelling of the flag,
or joined into one argument: the answer of the command line stays the same, be it settings, help or
an error. What stands before need not be sound, and the value may be any text at all.
-/
namespace CameraTelemetry.Settings

open Directive Number

/-- The argument after these stands at the place of a flag. A spelling of a flag takes the argument
behind it along, whatever that is; all other arguments stand by themselves. -/
inductive UpToFlag : List String → Prop
  | nil : UpToFlag []
  | valued {flag : Flag} {spelling : String} (known : spelling ∈ flag.spellings) (value : String)
    {arguments : List String} (later : UpToFlag arguments) :
    UpToFlag (spelling :: value :: arguments)
  | single {argument : String} (alone : ∀ flag : Flag, argument ∉ flag.spellings)
    {arguments : List String} (later : UpToFlag arguments) : UpToFlag (argument :: arguments)

/-- The arguments settle the answer by themselves, or they leave settings with which the ones that
follow are read. -/
def Passes (program : String) (before : List String) (s : Settings) : Prop :=
  (∃ answer, ∀ rest, applyArguments program (before ++ rest) s = answer) ∨
    ∃ s', ∀ rest, applyArguments program (before ++ rest) s = applyArguments program rest s'

theorem Passes.nil (program : String) (s : Settings) : Passes program [] s :=
  .inr ⟨s, fun _ => rfl⟩

theorem Passes.of_stops {program argument : String} {arguments : List String}
    {answer : Except SettingsError Invocation}
    (stops : ∀ rest, Stops program (argument :: (arguments ++ rest)) answer) (s : Settings) :
    Passes program (argument :: arguments) s :=
  .inl ⟨answer, fun rest => (stops rest).applyArguments_eq s⟩

theorem Passes.cons {program : String} {d : Directive} {texts arguments : List String}
    (head : Written d texts) (tail : ∀ s, Passes program arguments s) (s : Settings) :
    Passes program (texts ++ arguments) s := by
  have first (rest : List String) : applyArguments program (texts ++ arguments ++ rest) s =
      (d.apply s).bind (applyArguments program (arguments ++ rest)) := by
    rw [List.append_assoc, applyArguments_written head]
  cases applied : d.apply s with
  | error e =>
    refine .inl ⟨.error e, fun rest => ?_⟩
    rw [first, applied]
    rfl
  | ok next =>
    have step (rest : List String) : applyArguments program (texts ++ arguments ++ rest) s =
        applyArguments program (arguments ++ rest) next := by
      rw [first, applied]
      rfl
    rcases tail next with ⟨answer, settled⟩ | ⟨s', hands⟩
    · exact .inl ⟨answer, fun rest => (step rest).trans (settled rest)⟩
    · exact .inr ⟨s', fun rest => (step rest).trans (hands rest)⟩

/-- Nothing that stands before the place of a flag depends on what stands there. -/
theorem UpToFlag.passes {before : List String} (place : UpToFlag before) (program : String)
    (s : Settings) : Passes program before s := by
  induction place generalizing s with
  | nil => exact .nil program s
  | valued known value later ih => exact .cons (.apart known value) ih s
  | @single argument alone arguments later ih =>
    rcases argument_cases argument with asks | ⟨flag, known⟩ | ⟨d, written⟩ | foreign
    · exact .of_stops (fun rest => .help asks _) s
    · exact absurd known (alone flag)
    · exact .cons written ih s
    · exact .of_stops (fun rest => .unexpected foreign _) s

theorem applyArguments_respelled {d : Directive} {texts others before : List String}
    (one : Written d texts) (other : Written d others) (place : UpToFlag before) (program : String)
    (after : List String) (s : Settings) :
    applyArguments program (before ++ (texts ++ after)) s =
      applyArguments program (before ++ (others ++ after)) s := by
  rcases place.passes program s with ⟨answer, settled⟩ | ⟨s', hands⟩
  · rw [settled, settled]
  · calc applyArguments program (before ++ (texts ++ after)) s
        = applyArguments program (texts ++ after) s' := hands _
      _ = (d.apply s').bind (applyArguments program after) := applyArguments_written one ..
      _ = applyArguments program (others ++ after) s' := (applyArguments_written other ..).symm
      _ = applyArguments program (before ++ (others ++ after)) s := (hands _).symm

/-- However a flag and its value are written at the place of a flag, a command line comes to the
same in every environment. -/
theorem load_respelled {flag : Flag} {value : String} {texts others before : List String}
    (one : Written (.assign flag value) texts) (other : Written (.assign flag value) others)
    (place : UpToFlag before) (program : String) (after : List String) (env : Environment) :
    load (program :: (before ++ (texts ++ after))) env =
      load (program :: (before ++ (others ++ after))) env := by
  cases below : applyEnvironment env defaults with
  | error e => rw [load, load, below]
  | ok base =>
    rw [load, load, below]
    exact applyArguments_respelled one other place program after base

/-- The value reads like a flag and holds an equals sign, the flag before it is the value of another
one, and the answer is an error that quotes the value. -/
theorem load_respelled_of_quoted :
    let env : Environment := fun _ => none
    let answer := Except.error (SettingsError.invalidValue "--port" "-p=")
    load ["camwatch_agent", "--dependency", "--port", "-p", "-p=", "--help"] env = answer ∧
      load ["camwatch_agent", "--dependency", "--port", "--port", "-p=", "--help"] env = answer ∧
      load ["camwatch_agent", "--dependency", "--port", "--port=-p=", "--help"] env = answer := by
  intro env answer
  have known : "--dependency" ∈ Flag.dependency.spellings := by decide
  have place : UpToFlag ["--dependency", "--port"] := .valued known "--port" .nil
  have short : Written (.assign .port "-p=") ["-p", "-p="] := .apart (by decide) _
  have long : Written (.assign .port "-p=") ["--port", "-p="] := .apart (by decide) _
  have joined : Written (.assign .port "-p=") ["--port=-p="] := .joined .port "-p="
  have found : load ["camwatch_agent", "--dependency", "--port", "-p", "-p=", "--help"] env =
      answer := by
    decide +kernel
  refine ⟨found, ?_, ?_⟩
  · exact (load_respelled long short place "camwatch_agent" ["--help"] env).trans found
  · exact (load_respelled joined short place "camwatch_agent" ["--help"] env).trans found

end CameraTelemetry.Settings
