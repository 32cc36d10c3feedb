import CameraTelemetry.Settings.Arguments

/-!
# Directives

What a command line orders, as a list: a directive gives a flag its value, or switches the camera
off. The ways in which directives may be written down form a grammar of their own, which knows
nothing of how arguments are read.
-/
namespace CameraTelemetry.Settings

open Number

inductive Directive
  | assign (flag : Flag) (value : String)
  | disableCamera
deriving DecidableEq, Repr

def Flag.spellings : Flag → List String
  | port => ["-p", "--port"]
  | flag => [flag.name]

theorem Flag.name_mem_spellings (flag : Flag) : flag.name ∈ flag.spellings := by
  cases flag <;> simp [spellings, name]

/-- The values that a flag takes. A port and an address have a form of their own, with blanks around
it or without; to the other flags any text is good. -/
def Flag.Takes : Flag → String → Prop
  | port, value => ∃ n, readCount (2 ^ 16 - 1) (Text.trim value.toList) = .ok n
  | bind, value => ∃ a, Address.ofText? (Text.trim value.toList) = some a
  | _, _ => True

/-- What the settings are makes no difference to whether a flag takes a value. -/
theorem Flag.set_cases (flag : Flag) (value : String) :
    (flag.Takes value ∧ ∀ s, ∃ s', flag.set value s = .ok s') ∨
      ¬ flag.Takes value ∧ ∀ s, flag.set value s = .error (.invalidValue flag.name value) := by
  cases flag
  case port =>
    cases found : readCount (2 ^ 16 - 1) (Text.trim value.toList) with
    | ok n =>
      have read : readPort (name port) value = .ok (UInt16.ofNat n) :=
        readValue_of_some (by rw [found]; rfl)
      exact .inl ⟨⟨n, found⟩, fun s => ⟨_, by rw [set, read]; rfl⟩⟩
    | error e =>
      have read : readPort (name port) value = .error (.invalidValue (name port) value) :=
        readValue_of_none (by rw [found]; rfl)
      exact .inr ⟨by simp [Takes, found], fun s => by rw [set, read]; rfl⟩
  case bind =>
    cases found : Address.ofText? (Text.trim value.toList) with
    | some a =>
      have read : readAddress (name bind) value = .ok a := readValue_of_some found
      exact .inl ⟨⟨a, found⟩, fun s => ⟨_, by rw [set, read]; rfl⟩⟩
    | none =>
      have read : readAddress (name bind) value = .error (.invalidValue (name bind) value) :=
        readValue_of_none found
      exact .inr ⟨by simp [Takes, found], fun s => by rw [set, read]; rfl⟩
  all_goals exact .inl ⟨trivial, fun s => ⟨_, rfl⟩⟩

namespace Directive

def apply : Directive → Settings → Except SettingsError Settings
  | assign flag value, s => flag.set value s
  | disableCamera, s => .ok { s with cameraEnabled := false }

def applyAll : List Directive → Settings → Except SettingsError Settings
  | [], s => .ok s
  | d :: rest, s => (d.apply s).bind (applyAll rest)

/-- The value, if there is one, is of a form that its flag takes. -/
def WellFormed : Directive → Prop
  | assign flag value => flag.Takes value
  | disableCamera => True

theorem exists_apply_iff {d : Directive} {s : Settings} :
    (∃ s', d.apply s = .ok s') ↔ d.WellFormed := by
  cases d with
  | disableCamera => exact iff_of_true ⟨_, rfl⟩ trivial
  | assign flag value =>
    obtain ⟨takes, sets⟩ | ⟨refuses, fails⟩ := flag.set_cases value
    · exact iff_of_true (sets s) takes
    · refine iff_of_false ?_ refuses
      rintro ⟨s', applied⟩
      rw [apply, fails s] at applied
      cases applied

theorem applyAll_cons_eq_ok_iff {d : Directive} {rest : List Directive} {s s' : Settings} :
    applyAll (d :: rest) s = .ok s' ↔
      ∃ next, d.apply s = .ok next ∧ applyAll rest next = .ok s' := by
  cases applied : d.apply s <;> simp [applyAll, applied, Except.bind]

/-- Directives can be followed if each of them is well formed, whatever the settings are. -/
theorem exists_applyAll_iff {directives : List Directive} {s : Settings} :
    (∃ s', applyAll directives s = .ok s') ↔ ∀ d ∈ directives, d.WellFormed := by
  induction directives generalizing s with
  | nil => simp [applyAll]
  | cons d rest ih =>
    simp only [applyAll_cons_eq_ok_iff, List.forall_mem_cons]
    constructor
    · rintro ⟨s', next, here, later⟩
      exact ⟨exists_apply_iff.1 ⟨next, here⟩, ih.1 ⟨s', later⟩⟩
    · rintro ⟨here, later⟩
      obtain ⟨next, applied⟩ := (exists_apply_iff (s := s)).2 here
      obtain ⟨s', ends⟩ := (ih (s := next)).2 later
      exact ⟨s', next, applied, ends⟩

def value? (flag : Flag) : Directive → Option String
  | assign f value => if f = flag then some value else none
  | disableCamera => none

def switch? : Directive → Option Bool
  | assign flag _ => if flag = .cameraUrl then some true else none
  | disableCamera => some false

/-- The arguments write a directive down. A text that is joined to the flag that switches the camera
off does not count. -/
inductive Written : Directive → List String → Prop
  | apart {flag : Flag} {spelling : String} (known : spelling ∈ flag.spellings) (value : String) :
    Written (assign flag value) [spelling, value]
  | joined (flag : Flag) (value : String) :
    Written (assign flag value) [flag.name ++ "=" ++ value]
  | bare : Written disableCamera ["--no-vapix"]
  | bareJoined (text : String) : Written disableCamera ["--no-vapix" ++ "=" ++ text]

theorem Written.length_pos {d : Directive} {texts : List String} (written : Written d texts) :
    0 < texts.length := by
  cases written <;> simp

inductive Spells : List String → List Directive → Prop
  | nil : Spells [] []
  | cons {d : Directive} {texts arguments : List String} {directives : List Directive}
    (head : Written d texts) (tail : Spells arguments directives) :
    Spells (texts ++ arguments) (d :: directives)

theorem Written.spells {d : Directive} {texts : List String} (written : Written d texts) :
    Spells texts [d] :=
  List.append_nil texts ▸ .cons written .nil

end Directive

/-- What is ordered for each of the settings, in order. -/
structure Orders where
  /-- The values that a flag is given. -/
  values : Flag → List String
  /-- How the camera is switched. -/
  switches : List Bool

def Orders.of (directives : List Directive) : Orders where
  values := fun flag => directives.filterMap (Directive.value? flag)
  switches := directives.filterMap Directive.switch?

end CameraTelemetry.Settings
