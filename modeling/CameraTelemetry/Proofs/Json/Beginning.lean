import CameraTelemetry.Proofs.Json.Decoding

/-!
# Texts that fail at their beginning

A reader stops at the first fault, so a text can be lost before its end: at the bracket of a
container that stands where a string should, whatever the container holds and whatever follows it.
The library cannot have met the fault later than there.
-/
namespace CameraTelemetry.Json

section

variable {α : Type}

/-- With this beginning a text has the fault, however it goes on. -/
def Certain (decode : Decoder α) (front : String) (fault : Fault) : Prop :=
  ∀ rest, decodeText decode (front ++ rest) = .error fault

/-- A value of another kind than expected is complained about where it is met: once that is certain,
the rest of the text does not move the place. -/
def Wording.Prompt (w : Wording) (decode : Decoder α) : Prop :=
  ∀ front found expected, Certain decode front (.wrongType found expected) →
    ∀ rest rest', w.place? (front ++ rest) (.wrongType found expected) =
      w.place? (front ++ rest') (.wrongType found expected)

theorem Wording.Prompt.message_eq {w : Wording} {decode : Decoder α} (prompt : w.Prompt decode)
    {front found expected : String} (certain : Certain decode front (.wrongType found expected))
    (rest rest' : String) :
    w.message (front ++ rest) (.wrongType found expected) =
      w.message (front ++ rest') (.wrongType found expected) := by
  unfold Wording.message
  rw [prompt front found expected certain rest rest']
  rfl

theorem certain_of_decode {decode : Decoder α} {front : String} {fault : Fault}
    (fails : ∀ rest, decode (readDocument (front ++ rest)).1 = .error fault) :
    Certain decode front fault := by
  intro rest
  simp only [decodeText, fails rest]

end

section

variable {fuel : Nat} {bracket : Char} {kind name : String} {prior : List (Option String × Tree)}
  {t : Tree} {cs rest text : List Char}

/-! ## Brackets -/

/-- The bracket that opens a container of this kind. -/
inductive Bracket : Char → String → Prop
  | array : Bracket '[' "sequence"
  | object : Bracket '\x7b' "map"

/-- Behind a bracket there is a container of its kind, of which no string can be made. -/
theorem Bracket.decodeString (opens : Bracket bracket kind) (fuel : Nat) (rest : List Char) :
    decodeString (readTree (fuel + 1) (bracket :: rest)).1 =
      .error (.wrongType kind "a string") := by
  cases opens with
  | array =>
    rw [readTree, skipBlanks_cons (by decide)]
    simp only [Char.reduceEq, if_false, if_true]
    split
    · rfl
    · split <;> rfl
  | object =>
    rw [readTree, skipBlanks_cons (by decide)]
    simp only [Char.reduceEq, if_false, if_true]
    rfl

/-! ## Members in front -/

/-- Members of an object, each with a comma behind it. -/
inductive Leading : List (Option String × Tree) → List Char → Prop
  | nil : Leading [] []
  | cons {m : Option String × Tree} {members : List (Option String × Tree)}
    {before member after later : List Char} (left : IsBlanks before)
    (item : SpellsMember Writes m member) (right : IsBlanks after) (tail : Leading members later) :
    Leading (m :: members) (before ++ (member ++ (after ++ ',' :: later)))

/-- Members in front are read, and what is behind them is read with the fuel that is left. -/
theorem readMembers_leading (leading : Leading prior text) (enough : 2 * text.length ≤ fuel)
    (cs : List Char) : ∃ less, fuel ≤ less + 2 * text.length ∧ readMembers fuel (text ++ cs) =
      (prior ++ (readMembers less cs).1, (readMembers less cs).2) := by
  induction leading generalizing fuel with
  | nil => exact ⟨fuel, by simp, rfl⟩
  | @cons m members before member after later left item right tail ih =>
    simp only [List.length_append, List.length_cons] at enough ⊢
    obtain _ | fuel := fuel
    · omega
    have next : skipBlanks (after ++ ',' :: (later ++ cs)) = ',' :: (later ++ cs) := by
      rw [skipBlanks_append right, skipBlanks_cons (by decide)]
    have stops : Stops (after ++ ',' :: (later ++ cs)) := right.stops (stops_cons (by simp))
    obtain ⟨less, left', read⟩ := @ih fuel (by omega)
    refine ⟨less, by omega, ?_⟩
    simp only [List.append_assoc, List.cons_append]
    rw [readMembers_member left item stops (by omega) (reads fuel) next, if_neg (by decide),
      if_pos rfl, read]

/-- A member is there as soon as its value begins, whatever becomes of the value. -/
theorem readMembers_begun {before key between gap : List Char} (left : IsBlanks before)
    (named : SpellsString (some name) key) (right : IsBlanks between) (blanks : IsBlanks gap)
    (fuel : Nat) (cs : List Char) : ∃ more, (readMembers (fuel + 1)
      (before ++ (key ++ (between ++ ':' :: (gap ++ cs))))).1 =
        (some name, (readTree fuel cs).1) :: more := by
  obtain ⟨inside, rfl, read⟩ := readString_of_spells named
  simp only [List.cons_append]
  rw [readMembers_blanks left, readMembers, skipBlanks_cons (by decide)]
  simp only [ne_eq, not_true_eq_false, if_false, read, skipBlanks_append right,
    skipBlanks_cons (c := ':') (by decide), readTree_blanks blanks]
  split
  case h_1 value => exact ⟨[], by rw [value]⟩
  case h_2 value =>
    rw [value]
    split
    · exact ⟨[], rfl⟩
    · split
      · exact ⟨[], rfl⟩
      · split
        · exact ⟨_, rfl⟩
        · exact ⟨[], rfl⟩

/-- The beginning of an object, up to the bracket of a value: the members in front of it, and the
name that the value has. -/
inductive Begins (prior : List (Option String × Tree)) (name : String) (bracket : Char) :
    List Char → Prop
  | intro {outer leading before key between gap : List Char} (around : IsBlanks outer)
    (members : Leading prior leading) (left : IsBlanks before)
    (named : SpellsString (some name) key) (right : IsBlanks between) (blanks : IsBlanks gap) :
    Begins prior name bracket (outer ++ '\x7b' ::
      (leading ++ (before ++ (key ++ (between ++ ':' :: (gap ++ [bracket]))))))

theorem Leading.exists_quote {before key : List Char} (leading : Leading prior text)
    (left : IsBlanks before) (named : SpellsString (some name) key) (cs : List Char) :
    ∃ more, skipBlanks (text ++ (before ++ (key ++ cs))) = '"' :: more := by
  cases leading with
  | nil =>
    obtain ⟨inside, rfl, -⟩ := readString_of_spells named
    exact ⟨inside ++ cs, by
      rw [List.nil_append, skipBlanks_append left, List.cons_append, skipBlanks_cons (by decide)]⟩
  | cons left' item _ _ =>
    obtain ⟨named', -, -, -⟩ := item
    obtain ⟨inside, rfl, -⟩ := readString_of_spells named'
    simp only [List.append_assoc, List.cons_append]
    exact ⟨_, by rw [skipBlanks_append left', skipBlanks_cons (by decide)]⟩

theorem readFirstMember_quote (quote : skipBlanks cs = '"' :: rest) (fuel : Nat) :
    readFirstMember (fuel + 1) cs = readMembers fuel cs := by
  have solid : skipBlanks ('"' :: rest) = '"' :: rest := skipBlanks_cons (by decide) rest
  rw [readFirstMember, quote]
  change readMembers fuel ('"' :: rest) = _
  cases fuel with
  | zero => simp only [readMembers]
  | succ fuel => simp only [readMembers, quote, solid]

theorem readTree_begins (begins : Begins prior name bracket text) (opens : Bracket bracket kind)
    (enough : 2 * text.length ≤ fuel) (cs : List Char) :
    ∃ t more broken, decodeString t = .error (.wrongType kind "a string") ∧
      (readTree fuel (text ++ cs)).1 = .object (prior ++ (some name, t) :: more) broken := by
  obtain ⟨around, members, left, named, right, blanks⟩ := begins
  rename_i outer leading before key between gap
  simp only [List.length_append, List.length_cons, List.length_nil] at enough
  obtain ⟨fuel, rfl⟩ : ∃ n, fuel = n + 2 := ⟨fuel - 2, by omega⟩
  simp only [List.append_assoc, List.cons_append, List.nil_append]
  obtain ⟨rest, quote⟩ := members.exists_quote left named (between ++ ':' :: (gap ++ bracket :: cs))
  obtain ⟨less, remain, read⟩ := @readMembers_leading fuel prior leading members (by omega)
    (before ++ (key ++ (between ++ ':' :: (gap ++ bracket :: cs))))
  obtain ⟨less, rfl⟩ : ∃ n, less = n + 2 := ⟨less - 2, by omega⟩
  obtain ⟨more, begun⟩ := readMembers_begun left named right blanks (less + 1) (bracket :: cs)
  generalize before ++ (key ++ (between ++ ':' :: (gap ++ bracket :: cs))) = tail
    at quote read begun ⊢
  refine ⟨_, more, (readMembers (less + 2) tail).2.1, opens.decodeString less cs, ?_⟩
  rw [readTree_blanks around, readTree, skipBlanks_cons (by decide)]
  simp only [Char.reduceEq, if_false, if_true]
  rw [readFirstMember_quote quote, read, begun]

end

section

variable {α : Type} {fields : List String} {decode : Decoder α} {broken : Option BreakPoint}

/-- Fields found in front are found first. -/
theorem decodeMembers_append {members : List (Option String × Tree)} {found found' : Found α}
    (front : decodeMembers fields decode none found members = .ok found')
    (more : List (Option String × Tree)) :
    decodeMembers fields decode broken found (members ++ more) =
      decodeMembers fields decode broken found' more := by
  induction members generalizing found with
  | nil =>
    obtain rfl := Except.ok.inj front
    rfl
  | cons m members ih =>
    obtain ⟨_ | name, t⟩ := m
    · cases front
    rw [List.cons_append]
    simp only [decodeMembers] at front ⊢
    split at front
    case isTrue field =>
      split at front
      case isTrue => cases front
      case isFalse fresh =>
        split at front
        case h_1 => cases front
        case h_2 a decoded =>
          rw [if_pos field, if_neg fresh]
          simpa only [decoded] using ih front
    case isFalse other =>
      split at front
      case h_1 => cases front
      case h_2 skipped =>
        rw [if_neg other]
        simpa only [skipped] using ih front

end

theorem readDocument_fst (text : String) :
    (readDocument text).1 = (readTree (2 * text.toList.length + 2) text.toList).1 := by
  simp only [readDocument]
  split <;> simp [*]

/-- A container in the place of a field that is a string is met at its bracket. -/
theorem Begins.decodeStruct {fields : List String} {structName name front kind : String}
    {bracket : Char} {prior : List (Option String × Tree)} {found : Found String}
    (begins : Begins prior name bracket front.toList) (opens : Bracket bracket kind)
    (before : decodeMembers fields decodeString none [] prior = .ok found) (known : name ∈ fields)
    (fresh : found.get? name = none) (rest : String) :
    decodeStruct structName fields decodeString (readDocument (front ++ rest)).1 =
      .error (.wrongType kind "a string") := by
  have enough : 2 * front.toList.length ≤ 2 * (front ++ rest).toList.length + 2 := by
    rw [String.toList_append, List.length_append]
    omega
  obtain ⟨t, more, broken, refused, read⟩ := readTree_begins begins opens enough rest.toList
  rw [← String.toList_append] at read
  have document : (readDocument (front ++ rest)).1 =
      .object (prior ++ (some name, t) :: more) broken := by
    rw [readDocument_fst, read]
  rw [document, Json.decodeStruct, decodeMembers_append before, decodeMembers,
    if_pos (List.contains_iff_mem.2 known)]
  simp only [fresh, refused, Option.isSome_none, Bool.false_eq_true, if_false]

end CameraTelemetry.Json
