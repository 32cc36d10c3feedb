import CameraTelemetry.Proofs.Json.Decoding
import CameraTelemetry.Settings.Thresholds

/-!
# What a thresholds file says

The name of a check has its own way through the decoder, and the bounds and the direction are
looked for later among the members that are left. Both ways fill slots, so that an object is a
check exactly if each of the four fields has one value of its kind, wherever the members stand and
whatever else there is.
-/
namespace CameraTelemetry.Settings

open Health Json Number

section

variable {members : List (Option String × Tree)} {kept : List (String × Tree)} {c : Check}

/-! ## Decoding a check -/

theorem decodeParts_iff {found found' : Partial} : decodeParts found kept = .ok found' ↔
    Slot decodeReal found.warning (valuesNamed "warning" kept) found'.warning ∧
      Slot decodeReal found.critical (valuesNamed "critical" kept) found'.critical ∧
      Slot decodeDirection found.direction (valuesNamed "direction" kept) found'.direction := by
  induction kept generalizing found with
  | nil =>
    obtain ⟨w, c, d⟩ := found
    obtain ⟨w', c', d'⟩ := found'
    simp [decodeParts, slot_nil, eq_comm]
  | cons m rest ih =>
    obtain ⟨name, t⟩ := m
    obtain ⟨w, c, d⟩ := found
    rw [decodeParts]
    simp only [valuesNamed_cons]
    -- A member fills the slot of its name, or none. The other two slots see the rest as before.
    split
    case isTrue warning =>
      subst warning
      cases w with
      | some x => simp [slot_cons]
      | none => cases decoded : decodeReal t <;> simp [ih, slot_cons, decoded]
    case isFalse =>
      split
      case isTrue critical =>
        subst critical
        cases c with
        | some x => simp [slot_cons]
        | none => cases decoded : decodeReal t <;> simp [ih, slot_cons, decoded]
      case isFalse =>
        split
        case isTrue direction =>
          subst direction
          cases d with
          | some x => simp [slot_cons]
          | none => cases decoded : decodeDirection t <;> simp [ih, slot_cons, decoded]
        case isFalse => exact ih

/-- The members of a check that are looked at when the name has been read. -/
def others : List (Option String × Tree) → List (String × Tree)
  | [] => []
  | (none, _) :: rest => others rest
  | (some key, t) :: rest => if key = "name" then others rest else (key, t) :: others rest

theorem decodeCheckMembers_iff {name name' : Option String} {kept' : List (String × Tree)} :
    decodeCheckMembers none name kept members = .ok (name', kept') ↔
      Slot decodeString name (valuesNamed (some "name") members) name' ∧
        (∀ m ∈ members, m.1.isSome) ∧ (∀ m ∈ others members, m.2.keep memberDepth = none) ∧
        kept' = kept ++ others members := by
  induction members generalizing name kept with
  | nil =>
    simp only [decodeCheckMembers, valuesNamed_nil, slot_nil, others, List.append_nil,
      List.not_mem_nil, false_implies, implies_true, true_and, Except.ok.injEq, Prod.mk.injEq]
    exact and_congr eq_comm eq_comm
  | cons m rest ih =>
    obtain ⟨_ | key, t⟩ := m
    · simp [decodeCheckMembers]
    · rw [decodeCheckMembers, valuesNamed_cons]
      split
      case isTrue named =>
        subst named
        cases name with
        | some s => simp [slot_cons]
        | none => cases decoded : decodeString t <;> simp [ih, slot_cons, decoded, others]
      case isFalse notNamed =>
        cases keep : t.keep memberDepth with
        | some b => simp [others, notNamed, keep]
        | none => simp [ih, others, notNamed, keep]

theorem decodeThreshold_iff {t : Threshold} : decodeThreshold kept = .ok t ↔
    Only decodeReal (valuesNamed "warning" kept) t.warning ∧
      Only decodeReal (valuesNamed "critical" kept) t.critical ∧
      Only decodeDirection (valuesNamed "direction" kept) t.direction := by
  have parts := @decodeParts_iff kept ⟨none, none, none⟩
    ⟨some t.warning, some t.critical, some t.direction⟩
  simp only [slot_some_iff] at parts
  rw [← parts, decodeThreshold]
  cases decodeParts ⟨none, none, none⟩ kept with
  | error fault => simp
  | ok found =>
    obtain ⟨w, c, d⟩ := t
    obtain ⟨_ | w', _ | c', _ | d'⟩ := found <;> simp

theorem mem_others {key : String} {t : Tree} :
    (key, t) ∈ others members ↔ key ≠ "name" ∧ (some key, t) ∈ members := by
  induction members with
  | nil => simp [others]
  | cons m rest ih =>
    obtain ⟨_ | key', t'⟩ := m
    · simp [others, ih]
    · rw [others]
      split
      case isTrue named =>
        subst named
        rw [ih]
        simp +contextual
      case isFalse notNamed => grind

theorem valuesNamed_others {key : String} (other : key ≠ "name") :
    valuesNamed key (others members) = valuesNamed (some key) members := by
  induction members with
  | nil => rfl
  | cons m rest ih =>
    obtain ⟨_ | key', t⟩ := m
    · simp [others, valuesNamed_cons, ih]
    · rw [others, valuesNamed_cons]
      split
      case isTrue named =>
        subst named
        simp [ih, other.symm]
      case isFalse => simp [valuesNamed_cons, ih]

theorem decodeCheck_eq_ok : decodeCheck (.object members none) = .ok c ↔
    ∃ kept, decodeCheckMembers none none [] members = .ok (some c.name, kept) ∧
      decodeThreshold kept = .ok c.threshold := by
  obtain ⟨name, threshold⟩ := c
  rw [decodeCheck]
  rcases decodeCheckMembers none none [] members with fault | ⟨_ | found, kept⟩
  · simp
  · simp
  · cases decoded : decodeThreshold kept <;> simp [Except.map, decoded]

/-- What is asked of the members of a check. -/
structure Decoded (members : List (Option String × Tree)) (c : Check) : Prop where
  keys : ∀ m ∈ members, m.1.isSome
  keeps : ∀ m ∈ others members, m.2.keep memberDepth = none
  name : Only decodeString (valuesNamed (some "name") members) c.name
  warning : Only decodeReal (valuesNamed (some "warning") members) c.threshold.warning
  critical : Only decodeReal (valuesNamed (some "critical") members) c.threshold.critical
  direction : Only decodeDirection (valuesNamed (some "direction") members) c.threshold.direction

theorem decodeCheck_iff : decodeCheck (.object members none) = .ok c ↔ Decoded members c := by
  have warning := @valuesNamed_others members "warning" (by decide)
  have critical := @valuesNamed_others members "critical" (by decide)
  have direction := @valuesNamed_others members "direction" (by decide)
  rw [decodeCheck_eq_ok]
  simp only [decodeCheckMembers_iff, decodeThreshold_iff, slot_some_iff, List.nil_append]
  constructor
  · rintro ⟨_, ⟨name, keys, keeps, rfl⟩, found⟩
    rw [warning, critical, direction] at found
    exact ⟨keys, keeps, name, found.1, found.2.1, found.2.2⟩
  · intro decoded
    refine ⟨others members, ⟨decoded.name, decoded.keys, decoded.keeps, rfl⟩, ?_⟩
    rw [warning, critical, direction]
    exact ⟨decoded.warning, decoded.critical, decoded.direction⟩

/-! ## What a file shows -/

def checkFields : List String := ["name", "warning", "critical", "direction"]

inductive ShowsBound : NumberLiteral → Binary64 → Prop
  | intro (negative : Bool) {n : Nat} (small : n ≤ 2 ^ 53) :
    ShowsBound (.ofWhole negative n) (.finite negative (Magnitude.whole n small))

/-- A member that is none of the fields. -/
inductive Unknown : Option String × Tree → Prop
  | string {key : String} (other : key ∉ checkFields) (s : String) :
    Unknown (some key, .string (some s))
  | bool {key : String} (other : key ∉ checkFields) (b : Bool) : Unknown (some key, .bool b)
  | null {key : String} (other : key ∉ checkFields) : Unknown (some key, .null)

def fieldsOf (name : String) (warning critical : NumberLiteral) (direction : Direction) :
    List (Option String × Tree) :=
  [(some "name", .string (some name)), (some "warning", .number warning),
    (some "critical", .number critical), (some "direction", .string (some direction.name))]

/-- The object has the members of the check, in any order and among others. -/
inductive ShowsCheck : Tree → Check → Prop
  | intro {name : String} {warning critical : Binary64} {direction : Direction}
    {w c : NumberLiteral} {unknown members : List (Option String × Tree)}
    (warns : ShowsBound w warning) (alarms : ShowsBound c critical)
    (others : ∀ m ∈ unknown, Unknown m)
    (order : members.Perm (fieldsOf name w c direction ++ unknown)) :
    ShowsCheck (.object members none) ⟨name, warning, critical, direction⟩

/-- The text is an array of the checks. -/
def HoldsChecks (text : String) (checks : List Check) : Prop :=
  ∃ items, Holds (.array items none) text ∧ List.Forall₂ ShowsCheck items checks

/-- What makes an object no check. -/
inductive SpoiltMembers (members : List (Option String × Tree)) : Prop
  /-- A field is missing, or there is more than one of it. -/
  | notOnce {key : String} (field : key ∈ checkFields)
    (count : (members.countP fun m => m.1 = some key) ≠ 1)
  | name {t : Tree} (mem : (some "name", t) ∈ members) (noString : ∀ s, t ≠ .string (some s))
  | bound {key : String} {t : Tree} (field : key = "warning" ∨ key = "critical")
    (mem : (some key, t) ∈ members) (noNumber : ∀ l, t ≠ .number l)
  | direction {t : Tree} (mem : (some "direction", t) ∈ members)
    (noWord : ∀ d : Direction, t ≠ .string (some d.name))
    (noObject : ∀ inner broken, t ≠ .object inner broken)

/-- What is no check: another value than an object, or an object with something wrong in it. -/
inductive Spoilt : Tree → Prop
  | shapeless {t : Tree} (noObject : ∀ members broken, t ≠ .object members broken) : Spoilt t
  | members {members : List (Option String × Tree)} (spoilt : SpoiltMembers members) :
    Spoilt (.object members none)

/-! ## What is shown is loaded -/

theorem ShowsBound.decodes {l : NumberLiteral} {x : Binary64} (bound : ShowsBound l x) :
    decodeReal (.number l) = .ok x := by
  obtain ⟨negative, small⟩ := bound
  exact decodeReal_ofWhole negative small

theorem ShowsBound.keep {l : NumberLiteral} {x : Binary64} (bound : ShowsBound l x) (depth : Nat) :
    (Tree.number l).keep depth = none := by
  obtain ⟨negative, small⟩ := bound
  obtain ⟨v, value, -⟩ := exists_value_ofWhole negative small
  simp [Tree.keep, value]

theorem decodeDirection_name (d : Direction) : decodeDirection (.string (some d.name)) = .ok d := by
  cases d <;> rfl

theorem Unknown.key_ne {m : Option String × Tree} (unknown : Unknown m) {key : String}
    (field : key ∈ checkFields) : m.1 ≠ some key := by
  rintro eq
  cases unknown <;> exact absurd (Option.some.inj eq ▸ field) ‹_›

theorem Unknown.keeps {m : Option String × Tree} (unknown : Unknown m) (depth : Nat) :
    m.1.isSome ∧ m.2.keep depth = none := by
  cases unknown <;> exact ⟨rfl, by simp [Tree.keep]⟩

/-- A field is found wherever it stands. -/
theorem valuesNamed_shown {fields unknown : List (Option String × Tree)} {key : String} {t : Tree}
    (order : members.Perm (fields ++ unknown)) (others : ∀ m ∈ unknown, Unknown m)
    (field : key ∈ checkFields) (once : valuesNamed (some key) fields = [t]) :
    valuesNamed (some key) members = [t] := by
  have values :
      (valuesNamed (some key) members).Perm (valuesNamed (some key) (fields ++ unknown)) :=
    valuesNamed_perm order
  rw [valuesNamed_append, once, valuesNamed_eq_nil fun m mem => (others m mem).key_ne field,
    List.append_nil] at values
  exact List.perm_singleton.1 values

theorem fieldsOf_keeps {name : String} {warning critical : Binary64} {direction : Direction}
    {w c : NumberLiteral} (warns : ShowsBound w warning) (alarms : ShowsBound c critical)
    (depth : Nat) :
    ∀ m ∈ fieldsOf name w c direction, m.1.isSome ∧ m.2.keep depth = none := by
  intro m mem
  simp only [fieldsOf, List.mem_cons, List.not_mem_nil, or_false] at mem
  rcases mem with rfl | rfl | rfl | rfl
  · exact ⟨rfl, by simp [Tree.keep]⟩
  · exact ⟨rfl, warns.keep depth⟩
  · exact ⟨rfl, alarms.keep depth⟩
  · exact ⟨rfl, by simp [Tree.keep]⟩

theorem ShowsCheck.decodes {t : Tree} (check : ShowsCheck t c) : decodeCheck t = .ok c := by
  cases check with
  | @intro name warning critical direction w c unknown members warns alarms extra order =>
    have keeps : ∀ m ∈ members, m.1.isSome ∧ m.2.keep memberDepth = none := by
      intro m mem
      rcases List.mem_append.1 (order.mem_iff.1 mem) with field | other
      · exact fieldsOf_keeps warns alarms memberDepth m field
      · exact (extra m other).keeps memberDepth
    have value : ∀ key ∈ checkFields, ∀ t,
        valuesNamed (some key) (fieldsOf name w c direction) = [t] →
          valuesNamed (some key) members = [t] :=
      fun key field t => valuesNamed_shown order extra field
    exact decodeCheck_iff.2
      { keys := fun m mem => (keeps m mem).1
        keeps := fun m mem => (keeps (some m.1, m.2) (mem_others.1 mem).2).2
        name := ⟨_, value "name" (by decide) _ rfl, rfl⟩
        warning := ⟨_, value "warning" (by decide) _ rfl, warns.decodes⟩
        critical := ⟨_, value "critical" (by decide) _ rfl, alarms.decodes⟩
        direction := ⟨_, value "direction" (by decide) _ rfl, decodeDirection_name direction⟩ }

/-! ## What is spoilt is not -/

theorem name_of_ofName? {s : String} {d : Direction} (named : Direction.ofName? s = some d) :
    s = d.name := by
  unfold Direction.ofName? at named
  split at named
  case isTrue word => exact Option.some.inj named ▸ word
  case isFalse =>
    split at named
    case isTrue word => exact Option.some.inj named ▸ word
    case isFalse => cases named

theorem decodeDirection_eq_ok {t : Tree} {d : Direction} (decoded : decodeDirection t = .ok d) :
    t = .string (some d.name) ∨ ∃ members broken, t = .object members broken := by
  unfold decodeDirection at decoded
  split at decoded
  case h_1 =>
    split at decoded
    case h_1 named =>
      obtain rfl := Except.ok.inj decoded
      exact .inl (by rw [name_of_ofName? named])
    case h_2 => cases decoded
  case h_2 inner broken => exact .inr ⟨inner, broken, rfl⟩
  case h_3 => cases decoded

theorem SpoiltMembers.not_decoded (spoilt : SpoiltMembers members) : ¬ Decoded members c := by
  intro decoded
  cases spoilt with
  | notOnce field count =>
    simp only [checkFields, List.mem_cons, List.not_mem_nil, or_false] at field
    rcases field with rfl | rfl | rfl | rfl
    · exact count decoded.name.count
    · exact count decoded.warning.count
    · exact count decoded.critical.count
    · exact count decoded.direction.count
  | name mem noString => exact noString c.name (decodeString_eq_ok (decoded.name.decodes mem))
  | bound field mem noNumber =>
    rcases field with rfl | rfl
    · obtain ⟨l, number⟩ := exists_number_of_decodeReal (decoded.warning.decodes mem)
      exact noNumber l number
    · obtain ⟨l, number⟩ := exists_number_of_decodeReal (decoded.critical.decodes mem)
      exact noNumber l number
  | direction mem noWord noObject =>
    rcases decodeDirection_eq_ok (decoded.direction.decodes mem) with word | ⟨inner, broken, object⟩
    · exact noWord c.threshold.direction word
    · exact noObject inner broken object

theorem Spoilt.not_decodes {t : Tree} (spoilt : Spoilt t) : decodeCheck t ≠ .ok c := by
  cases spoilt with
  | shapeless noObject =>
    intro decoded
    unfold decodeCheck at decoded
    split at decoded
    case h_1 members broken => exact noObject members broken rfl
    case h_2 => cases decoded
  | members spoilt => exact fun decoded => spoilt.not_decoded (decodeCheck_iff.1 decoded)

/-- A file that shows checks is loaded as these, in their order. A file with a spoilt item among
others is not loaded at all. -/
theorem loadChecks_told {read : String → FileText} {path text : String} (wording : Wording)
    (file : read path = .ok text) :
    (∀ checks, HoldsChecks text checks → loadChecks read (some path) wording = .ok checks) ∧
      ∀ items, Holds (.array items none) text → (∃ t ∈ items, Spoilt t) →
        ∃ fault, loadChecks read (some path) wording = .error (.malformed path fault) := by
  simp only [loadChecks, file]
  constructor
  · rintro checks ⟨items, holds, shown⟩
    have decoded : decodeItems decodeCheck none items = .ok checks :=
      decodeItems_iff.2 (shown.imp fun _ _ => ShowsCheck.decodes)
    rw [decodeText_holds holds, decodeList, decoded]
    rfl
  · rintro items holds ⟨t, mem, spoilt⟩
    rw [decodeText_holds holds, decodeList]
    cases decoded : decodeItems decodeCheck none items with
    | error fault => exact ⟨⟨fault, wording.message text fault⟩, rfl⟩
    | ok checks =>
      obtain ⟨c, decoded⟩ := exists_of_decodeItems decoded mem
      exact absurd decoded spoilt.not_decodes

def chill : Check :=
  ⟨"chill", .finite false (Magnitude.whole 0 (by decide)),
    .finite true (Magnitude.whole 7 (by decide)), .lowerIsWorse⟩

/-- The check with its members in another order, one of their names with an escape, and a note. -/
def chillText : String :=
  "[\x7b\"direction\":\"lower_is_worse\", \"note\" : null,\n\t\"n\\u0061me\":\"chill\","
    ++ "\"warning\":0,\"critical\":-7\x7d]\n"

theorem chillText_holds : HoldsChecks chillText [chill] := by
  have bare := isBlanks_nil
  have space : IsBlanks [' '] := by simp [IsBlanks]
  have indent : IsBlanks ['\n', '\t'] := by simp [IsBlanks]
  have direction : SpellsMember Writes (some "direction", .string (some "lower_is_worse"))
      "\"direction\":\"lower_is_worse\"".toList :=
    spellsMember_plain (s := "lower_is_worse") (by simp [IsPlain]) (by simp [IsPlain])
  have note : SpellsMember Writes (some "note", .null) "\"note\" : null".toList :=
    .intro (spellsString_plain (s := "note") (by simp [IsPlain])) space space .null
  have name : SpellsMember Writes (some "name", .string (some "chill"))
      "\"n\\u0061me\":\"chill\"".toList := by
    have letter : SpellsUnit 0x61 "0061".toList :=
      .intro (a := 0) (b := 0) (c := 6) (d := 1) ⟨by decide, by decide⟩ ⟨by decide, by decide⟩
        ⟨by decide, by decide⟩ ⟨by decide, by decide⟩
    have pieces : SpellsPieces [.char 'n', .unit 0x61, .char 'm', .char 'e'] "n\\u0061me".toList :=
      .cons (.plain (by decide) (by decide) (by decide)) (.cons (.unit letter)
        (.cons (.plain (by decide) (by decide) (by decide))
          (.cons (.plain (by decide) (by decide) (by decide)) .nil)))
    exact .intro (.text pieces (.char (.unit (c := 'a') (.char (.char .nil))))) bare bare
      (.string (spellsString_plain (s := "chill") (by simp [IsPlain])))
  have warning : SpellsMember Writes (some "warning", .number (.ofWhole false 0))
      "\"warning\":0".toList :=
    .intro (spellsString_plain (s := "warning") (by simp [IsPlain])) bare bare
      (.number (@SpellsNumber.intro (.ofWhole false 0) [] [] [] .absent
        (NumberLiteral.isDigits_ofWhole false 0) (by decide) .absent .absent))
  have critical : SpellsMember Writes (some "critical", .number (.ofWhole true 7))
      "\"critical\":-7".toList :=
    .intro (spellsString_plain (s := "critical") (by simp [IsPlain])) bare bare
      (.number (@SpellsNumber.intro (.ofWhole true 7) ['-'] [] [] .minus
        (NumberLiteral.isDigits_ofWhole true 7) (by decide) .absent .absent))
  have object := Writes.object (.items (.cons bare direction bare (.cons space note bare
    (.cons indent name bare (.cons bare warning bare (.one bare critical bare))))))
  have holds : Holds (.array [.object ([(some "direction", .string (some "lower_is_worse")),
      (some "note", .null)] ++ [(some "name", .string (some "chill")),
      (some "warning", .number (.ofWhole false 0)), (some "critical", .number (.ofWhole true 7))])
      none] none) chillText :=
    ⟨[], _, ['\n'], bare, .array (.items (.one bare object bare)), by simp [IsBlanks], rfl⟩
  have others : ∀ m ∈ [((some "note", .null) : Option String × Tree)], Unknown m := by
    simpa using Unknown.null (by decide)
  refine ⟨_, holds, .cons ?_ .nil⟩
  exact .intro (.intro false (by decide)) (.intro true (by decide)) others List.perm_append_comm

theorem loadChecks_chill :
    loadChecks (fun _ => .ok chillText) (some "thresholds.json") = .ok [chill] ∧
      ∃ fault, loadChecks (fun _ => .ok "[\x7b\x7d]") (some "thresholds.json") =
        .error (.malformed "thresholds.json" fault) := by
  have bare := isBlanks_nil
  have empty : Holds (.array [.object [] none] none) "[\x7b\x7d]" :=
    ⟨[], _, [], bare, .array (.items (.one bare (.object (.nothing bare)) bare)), bare, rfl⟩
  have spoilt : Spoilt (.object [] none) :=
    .members (.notOnce (List.mem_cons_self : "name" ∈ checkFields) (by decide))
  have told := fun text => @loadChecks_told (fun _ => .ok text) "thresholds.json" text .bare rfl
  exact ⟨(told chillText).1 [chill] chillText_holds,
    (told "[\x7b\x7d]").2 _ empty ⟨_, List.mem_cons_self, spoilt⟩⟩

end

end CameraTelemetry.Settings
