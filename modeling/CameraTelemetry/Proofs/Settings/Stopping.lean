import CameraTelemetry.Proofs.Settings.Spelling

/-!
# Where a command line stops

A command line is written in the grammar from end to end, with a value of the right form for every
flag that takes one, or there is a first argument at which it stops: a request for help, a bad or
missing value, or an argument that the grammar does not know. The grammar alone tells which. The
reader comes to settings in the one case, and to the answer of that argument in the other.
-/
namespace CameraTelemetry.Settings

open Directive

/-! ## By the grammar -/

/-- The argument asks for help. A text that is joined to it does not count. -/
inductive AsksHelp : String → Prop
  | short : AsksHelp "-h"
  | long : AsksHelp "--help"
  | joined (text : String) : AsksHelp ("--help" ++ "=" ++ text)

/-- The argument asks for no help, and no directive is written with it in front. -/
def Foreign (argument : String) : Prop :=
  ¬ AsksHelp argument ∧ ∀ d texts, ¬ Written d (argument :: texts)

/-- Whatever stands before them, the arguments end the command line here, with the answer. -/
inductive Stops (program : String) : List String → Except SettingsError Invocation → Prop
  | help {argument : String} (asks : AsksHelp argument) (rest : List String) :
    Stops program (argument :: rest) (.ok (.help (usage program)))
  | malformed {flag : Flag} {value : String} {texts : List String}
    (written : Written (.assign flag value) texts) (refuses : ¬ flag.Takes value)
    (rest : List String) : Stops program (texts ++ rest) (.error (.invalidValue flag.name value))
  | unvalued {flag : Flag} {spelling : String} (known : spelling ∈ flag.spellings) :
    Stops program [spelling] (.error (.missingValue flag.name))
  | unexpected {argument : String} (foreign : Foreign argument) (rest : List String) :
    Stops program (argument :: rest) (.error (.unexpectedArgument argument))

def Sound (arguments : List String) : Prop :=
  ∃ directives, Spells arguments directives ∧ ∀ d ∈ directives, d.WellFormed

theorem Sound.nil : Sound [] := ⟨[], .nil, by simp⟩

theorem Sound.cons {d : Directive} {texts arguments : List String} (head : Written d texts)
    (good : d.WellFormed) (tail : Sound arguments) : Sound (texts ++ arguments) := by
  obtain ⟨directives, spells, all⟩ := tail
  exact ⟨d :: directives, .cons head spells, List.forall_mem_cons.2 ⟨good, all⟩⟩

theorem argument_cases (argument : String) :
    AsksHelp argument ∨ (∃ flag : Flag, argument ∈ flag.spellings) ∨
      (∃ d, Written d [argument]) ∨ Foreign argument := by
  by_cases asks : AsksHelp argument
  · exact .inl asks
  by_cases known : ∃ flag : Flag, argument ∈ flag.spellings
  · exact .inr (.inl known)
  by_cases alone : ∃ d, Written d [argument]
  · exact .inr (.inr (.inl alone))
  refine .inr (.inr (.inr ⟨asks, fun d texts written => ?_⟩))
  cases written with
  | apart spelled value => exact known ⟨_, spelled⟩
  | joined flag value => exact alone ⟨_, .joined flag value⟩
  | bare => exact alone ⟨_, .bare⟩
  | bareJoined text => exact alone ⟨_, .bareJoined text⟩

/-- What is not empty begins with a directive, or it stops there. -/
theorem written_or_stops (program argument : String) (rest : List String) :
    (∃ d texts later, argument :: rest = texts ++ later ∧ Written d texts) ∨
      ∃ answer, Stops program (argument :: rest) answer := by
  rcases argument_cases argument with asks | ⟨flag, known⟩ | ⟨d, written⟩ | foreign
  · exact .inr ⟨_, .help asks rest⟩
  · cases rest with
    | nil => exact .inr ⟨_, .unvalued known⟩
    | cons value later => exact .inl ⟨_, [argument, value], later, rfl, .apart known value⟩
  · exact .inl ⟨d, [argument], rest, rfl, written⟩
  · exact .inr ⟨_, .unexpected foreign rest⟩

/-- A command line that is not sound is so up to an argument at which it stops. -/
theorem sound_or_stops (program : String) (arguments : List String) :
    Sound arguments ∨ ∃ before rest answer, arguments = before ++ rest ∧ Sound before ∧
      Stops program rest answer := by
  match arguments with
  | [] => exact .inl .nil
  | argument :: rest =>
    rcases written_or_stops program argument rest with
      ⟨d, texts, later, split, written⟩ | ⟨_, stops⟩
    · rw [split]
      by_cases good : d.WellFormed
      · have shorter : later.length < (argument :: rest).length := by
          have counted := congrArg List.length split
          have some := written.length_pos
          rw [List.length_append] at counted
          omega
        rcases sound_or_stops program later with sound | ⟨before, rest, answer, rfl, sound, stops⟩
        · exact .inl (sound.cons written good)
        · exact .inr ⟨texts ++ before, rest, answer, by simp, sound.cons written good, stops⟩
      · cases d with
        | disableCamera => exact absurd trivial good
        | assign flag value => exact .inr ⟨[], _, _, rfl, .nil, .malformed written good later⟩
    · exact .inr ⟨[], _, _, rfl, .nil, stops⟩
termination_by arguments.length
decreasing_by exact shorter

/-! ## What the reader makes of it -/

theorem ofText?_of_asksHelp {argument : String} (asks : AsksHelp argument) :
    Request.ofText? (splitJoined argument).1 = some .help := by
  cases asks with
  | short => rw [splitJoined_of_plain (by simp)]; rfl
  | long => rw [splitJoined_of_plain (by simp)]; rfl
  | joined text => rw [splitJoined_join (by simp) (by simp)]; rfl

theorem eq_of_ofText?_help {text : String} (read : Request.ofText? text = some .help) :
    text = "-h" ∨ text = "--help" := by
  simpa [Request.ofText?, ite_eq_iff, or_iff_not_imp_left] using read

theorem ofText?_of_foreign {argument : String} (foreign : Foreign argument) :
    Request.ofText? (splitJoined argument).1 = none := by
  rcases splitJoined_cases argument with whole | ⟨name, value, rfl, dashes, joined⟩
  · rw [whole]
    match read : Request.ofText? argument with
    | none => rfl
    | some .help =>
      rcases eq_of_ofText?_help read with rfl | rfl
      · exact absurd .short foreign.1
      · exact absurd .long foreign.1
    | some .disableCamera =>
      obtain rfl := eq_of_ofText?_disable read
      exact absurd .bare (foreign.2 _ [])
    | some (.value flag) => exact absurd (.apart (spelling_of_ofText? read) "") (foreign.2 _ [""])
  · rw [joined]
    match read : Request.ofText? name with
    | none => rfl
    | some .help =>
      rcases eq_of_ofText?_help read with rfl | rfl
      · simp at dashes
      · exact absurd (.joined value) foreign.1
    | some .disableCamera =>
      obtain rfl := eq_of_ofText?_disable read
      exact absurd (.bareJoined value) (foreign.2 _ [])
    | some (.value flag) =>
      obtain rfl := eq_name_of_dashes (spelling_of_ofText? read) dashes
      exact absurd (.joined flag value) (foreign.2 _ [])

theorem Stops.applyArguments_eq {program : String} {arguments : List String}
    {answer : Except SettingsError Invocation} (stops : Stops program arguments answer)
    (s : Settings) : applyArguments program arguments s = answer := by
  cases stops with
  | help asks rest => simp only [applyArguments, ofText?_of_asksHelp asks]
  | @malformed flag value texts written refuses rest =>
    have fails := ((flag.set_cases value).resolve_left fun taken => refuses taken.1).2 s
    rw [applyArguments_written written, Directive.apply, fails]
    rfl
  | unvalued known =>
    simp only [applyArguments, splitJoined_of_plain (plain_of_spelling known),
      ofText?_of_spelling known]
  | unexpected foreign rest => simp only [applyArguments, ofText?_of_foreign foreign]

theorem Stops.ne_run {program : String} {arguments : List String}
    {answer : Except SettingsError Invocation} (stops : Stops program arguments answer)
    (s : Settings) : answer ≠ .ok (.run s) := by
  cases stops <;> simp

theorem Sound.hands_over {before : List String} (sound : Sound before) (program : String)
    (s : Settings) :
    ∃ s', ∀ rest, applyArguments program (before ++ rest) s = applyArguments program rest s' := by
  obtain ⟨directives, spells, all⟩ := sound
  obtain ⟨s', applied⟩ := exists_applyAll_iff.2 all
  refine ⟨s', fun rest => ?_⟩
  rw [applyArguments_append spells, applied]
  rfl

/-- Where a command line stops, its answer is that of the argument there. -/
theorem Sound.applyArguments_of_stops {program : String} {before rest : List String}
    (sound : Sound before) {answer : Except SettingsError Invocation}
    (stops : Stops program rest answer) (s : Settings) :
    applyArguments program (before ++ rest) s = answer := by
  obtain ⟨s', hands⟩ := sound.hands_over program s
  rw [hands, stops.applyArguments_eq]

theorem exists_run_iff_sound {program : String} {arguments : List String} {s : Settings} :
    (∃ s', applyArguments program arguments s = .ok (.run s')) ↔ Sound arguments := by
  constructor
  · rintro ⟨s', ran⟩
    rcases sound_or_stops program arguments with sound | ⟨before, rest, answer, rfl, sound, stops⟩
    · exact sound
    · rw [sound.applyArguments_of_stops stops] at ran
      exact absurd ran (stops.ne_run s')
  · rintro ⟨directives, spells, all⟩
    obtain ⟨s', applied⟩ := exists_applyAll_iff.2 all
    refine ⟨s', ?_⟩
    rw [applyArguments_eq_of_spells spells, applied]
    rfl

/-- Arguments that come to settings write directives down. -/
theorem exists_spells {program : String} {arguments : List String} {s s' : Settings}
    (ran : applyArguments program arguments s = .ok (.run s')) :
    ∃ directives, Spells arguments directives :=
  (exists_run_iff_sound.1 ⟨s', ran⟩).imp fun _ => And.left

end CameraTelemetry.Settings
