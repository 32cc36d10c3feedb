import CameraTelemetry.Proofs.Settings.Layering
import Mathlib.Data.List.Forall2

/-!
# What decides a command line

The grammar of the reader is that of the usage text, but for a text that is joined to the flag that
switches the camera off. What is written in it comes to settings; any other command line comes to
the answer of the first argument at which it stops.
-/
namespace CameraTelemetry.Settings

open Directive Number

/-! ## The grammar of the usage text -/

/-- The forms that the usage text shows. Of those in which a directive may be written, the one that
joins a text to the flag that switches the camera off is left out. -/
inductive Shown : Directive → List String → Prop
  | apart {flag : Flag} {spelling : String} (known : spelling ∈ flag.spellings) (value : String) :
    Shown (.assign flag value) [spelling, value]
  | joined (flag : Flag) (value : String) : Shown (.assign flag value) [flag.name ++ "=" ++ value]
  | bare : Shown .disableCamera ["--no-vapix"]

def SpellsShown (arguments : List String) (directives : List Directive) : Prop :=
  ∃ groups, arguments = groups.flatten ∧ List.Forall₂ Shown directives groups

/-- At the place of a flag, a text is joined to the flag that switches the camera off. -/
def JoinsBare (arguments : List String) : Prop :=
  ∃ before directives text after, SpellsShown before directives ∧
    arguments = before ++ ("--no-vapix" ++ "=" ++ text) :: after

theorem Shown.written {d : Directive} {texts : List String} (shown : Shown d texts) :
    Written d texts := by
  cases shown with
  | apart known value => exact .apart known value
  | joined flag value => exact .joined flag value
  | bare => exact .bare

theorem SpellsShown.cons {d : Directive} {texts arguments : List String}
    {directives : List Directive} (head : Shown d texts)
    (tail : SpellsShown arguments directives) :
    SpellsShown (texts ++ arguments) (d :: directives) := by
  obtain ⟨groups, rfl, shown⟩ := tail
  exact ⟨texts :: groups, rfl, .cons head shown⟩

theorem SpellsShown.spells {arguments : List String} {directives : List Directive}
    (shown : SpellsShown arguments directives) : Spells arguments directives := by
  obtain ⟨groups, rfl, each⟩ := shown
  induction each with
  | nil => exact .nil
  | cons head tail ih => exact .cons head.written ih

theorem JoinsBare.cons {d : Directive} {texts arguments : List String} (head : Shown d texts)
    (tail : JoinsBare arguments) : JoinsBare (texts ++ arguments) := by
  obtain ⟨before, directives, text, after, shown, rfl⟩ := tail
  exact ⟨texts ++ before, d :: directives, text, after, shown.cons head, by simp⟩

/-- Whatever the grammar allows beyond the usage text comes of one joined text. -/
theorem shown_or_joinsBare {arguments : List String} {directives : List Directive}
    (spells : Spells arguments directives) :
    SpellsShown arguments directives ∨ JoinsBare arguments := by
  induction spells with
  | nil => exact .inl ⟨[], rfl, .nil⟩
  | @cons d texts arguments directives head tail ih =>
    have step (shown : Shown d texts) :
        SpellsShown (texts ++ arguments) (d :: directives) ∨ JoinsBare (texts ++ arguments) :=
      ih.imp (.cons shown) (.cons shown)
    cases head with
    | apart known value => exact step (.apart known value)
    | joined flag value => exact step (.joined flag value)
    | bare => exact step .bare
    | bareJoined text => exact .inr ⟨[], [], text, arguments, ⟨[], rfl, .nil⟩, rfl⟩

/-! ## The answer -/

theorem applyArguments_eq_run_iff {program : String} {arguments : List String} {s s' : Settings} :
    applyArguments program arguments s = .ok (.run s') ↔
      ∃ directives, Spells arguments directives ∧ applyAll directives s = .ok s' := by
  constructor
  · intro ran
    obtain ⟨directives, spells⟩ := exists_spells ran
    rw [applyArguments_eq_of_spells spells] at ran
    obtain ⟨_, applied, same⟩ := map_eq_ok_iff.1 ran
    exact ⟨directives, spells, Invocation.run.inj same ▸ applied⟩
  · rintro ⟨directives, spells, applied⟩
    rw [applyArguments_eq_of_spells spells, applied]
    rfl

theorem applyArguments_discards (program text : String) (rest : List String) (s : Settings) :
    applyArguments program (("--no-vapix" ++ "=" ++ text) :: rest) s =
      applyArguments program ("--no-vapix" :: rest) s :=
  (applyArguments_written (.bareJoined text) program rest s).trans
    (applyArguments_written .bare program rest s).symm

/-- What a command line comes to over the settings that it starts from. -/
structure Decided (program : String) (arguments : List String) (base : Settings)
    (answer : Except SettingsError Invocation) : Prop where
  /-- There are settings if the arguments are written in the grammar, with values of the right form,
  and in no other case. -/
  sound_iff : (∃ s, answer = .ok (.run s)) ↔ Sound arguments
  /-- The settings are what the directives leave, one after the other. -/
  followed : ∀ s, answer = .ok (.run s) ↔
    ∃ directives, Spells arguments directives ∧ applyAll directives base = .ok s
  /-- Any other answer is that of the first argument that is not sound. -/
  stopped_iff : ∀ other, (∀ s, other ≠ .ok (.run s)) → (answer = other ↔
    ∃ before rest, arguments = before ++ rest ∧ Sound before ∧ Stops program rest other)
  /-- The grammar is that of the usage text, if no text is joined to the flag that takes none. -/
  shown : ¬ JoinsBare arguments → ∀ directives,
    Spells arguments directives ↔ SpellsShown arguments directives
  /-- Such a text plays no part. -/
  discarded : ∀ before text after, Sound before →
    arguments = before ++ ("--no-vapix" ++ "=" ++ text) :: after →
    answer = applyArguments program (before ++ "--no-vapix" :: after) base

theorem decided (program : String) (arguments : List String) (base : Settings) :
    Decided program arguments base (applyArguments program arguments base) := by
  constructor
  case sound_iff => exact exists_run_iff_sound
  case followed => exact fun s => applyArguments_eq_run_iff
  case stopped_iff =>
    intro other unsettled
    constructor
    · intro answered
      rcases sound_or_stops program arguments with sound | ⟨before, rest, answer, rfl, sound, stops⟩
      · obtain ⟨s, ran⟩ := exists_run_iff_sound.2 sound
        exact absurd (answered.symm.trans ran) (unsettled s)
      · obtain rfl := (sound.applyArguments_of_stops stops base).symm.trans answered
        exact ⟨before, rest, rfl, sound, stops⟩
    · rintro ⟨before, rest, rfl, sound, stops⟩
      exact sound.applyArguments_of_stops stops base
  case shown =>
    intro apart directives
    exact ⟨fun spells => (shown_or_joinsBare spells).resolve_right apart, SpellsShown.spells⟩
  case discarded =>
    rintro before text after sound rfl
    obtain ⟨s, hands⟩ := sound.hands_over program base
    rw [hands, hands, applyArguments_discards]

/-- Over an environment that is accepted, the arguments after the name of the program decide. -/
theorem load_decided {env : Environment} {base : Settings}
    (accepted : applyEnvironment env defaults = .ok base) (arguments : List String) :
    Decided (arguments.head?.getD defaultProgram) (arguments.drop 1) base (load arguments env) := by
  have loaded : load arguments env =
      applyArguments (arguments.head?.getD defaultProgram) (arguments.drop 1) base := by
    rw [load, accepted]
  rw [loaded]
  exact decided ..

/-- The value of a flag is no request for help, though it reads like one. The port after it is the
first argument that is not sound, and what follows is not looked at. -/
theorem load_decided_by_first :
    let env : Environment := Function.update (fun _ => none) "CAMWATCH_PORT" (some "7000")
    applyEnvironment env defaults = .ok { defaults with port := 7000 } ∧
      load ["camwatch_agent", "--dependency", "--help", "--port=http", "--bogus"] env =
        .error (.invalidValue "--port" "http") := by
  intro env
  have accepted : applyEnvironment env defaults = .ok { defaults with port := 7000 } := by
    decide +kernel
  have decided := load_decided accepted
    ["camwatch_agent", "--dependency", "--help", "--port=http", "--bogus"]
  have bad : readCount (2 ^ 16 - 1) (Text.trim "http".toList) = .error .invalidDigit := by
    decide +kernel
  have refuses : ¬ Flag.port.Takes "http" := by
    rintro ⟨n, read⟩
    rw [bad] at read
    cases read
  have sound : Sound ["--dependency", "--help"] :=
    .cons (d := .assign .dependency "--help") (.apart (by decide) _) trivial .nil
  refine ⟨accepted, (decided.stopped_iff _ (by simp)).2 ⟨_, _, rfl, sound, ?_⟩⟩
  exact .malformed (.joined .port "http") refuses ["--bogus"]

/-- A text that says no is joined to the flag that switches the camera off, which is no form that
the usage text shows; the camera is off all the same. Help is given whatever is joined to the
request. -/
theorem joined_text_discarded :
    load ["camwatch_agent", "--no-vapix=false"] (fun _ => none) =
        .ok (.run { defaults with cameraEnabled := false }) ∧
      (¬ ∃ directives, SpellsShown ["--no-vapix=false"] directives) ∧
      load ["camwatch_agent", "--help=false"] (fun _ => none) =
        .ok (.help (usage "camwatch_agent")) := by
  refine ⟨by decide +kernel, ?_, by decide +kernel⟩
  rintro ⟨directives, groups, whole, each⟩
  cases each with
  | nil => simp at whole
  | cons head tail =>
    cases head with
    | apart known value => simp at whole
    | joined flag value =>
      have text := (List.cons.inj whole).1
      have split : splitJoined (flag.name ++ "=" ++ value) = ("--no-vapix", some "false") := by
        rw [← text]
        decide +kernel
      rw [splitJoined_join (dashes_name flag) (plain_of_spelling flag.name_mem_spellings)] at split
      cases flag <;> simp [Flag.name] at split
    | bare => simp at whole

end CameraTelemetry.Settings
