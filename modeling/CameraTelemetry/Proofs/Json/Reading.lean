import CameraTelemetry.Proofs.Json.Literals

/-!
# Reading values

A text that the grammar has for a value is read as that value, with nothing left over.
-/
namespace CameraTelemetry.Json

section

variable {fuel : Nat} {c : Char} {before text cs rest : List Char} {t : Tree}

/-! ## Blanks -/

theorem isJsonBlank_iff : isJsonBlank c = true ↔ c = ' ' ∨ c = '\n' ∨ c = '\t' ∨ c = '\r' := by
  simp only [isJsonBlank, Bool.or_eq_true, decide_eq_true_eq, or_assoc]

theorem IsBlanks.blank (blanks : IsBlanks before) : ∀ c ∈ before, isJsonBlank c = true :=
  fun c mem => isJsonBlank_iff.2 (blanks c mem)

theorem skipBlanks_append (blanks : IsBlanks before) (cs : List Char) :
    skipBlanks (before ++ cs) = skipBlanks cs :=
  List.dropWhile_append_of_pos blanks.blank

theorem skipBlanks_cons (solid : isJsonBlank c = false) (cs : List Char) :
    skipBlanks (c :: cs) = c :: cs := by
  rw [skipBlanks, List.dropWhile_cons_of_neg (by simp [solid])]

theorem skipBlanks_blanks (blanks : IsBlanks before) : skipBlanks before = [] := by
  rw [← List.append_nil before, skipBlanks_append blanks]
  rfl

theorem stops_cons (ends : isJsonBlank c = true ∨ c = ',' ∨ c = ']' ∨ c = '\x7d') :
    Stops (c :: rest) := by
  rintro _ ⟨⟩
  exact ends

theorem IsBlanks.stops (blanks : IsBlanks before) (stops : Stops rest) :
    Stops (before ++ rest) := by
  cases before with
  | nil => exact stops
  | cons c before => exact stops_cons (.inl (blanks.blank c List.mem_cons_self))

theorem readTree_blanks (blanks : IsBlanks before) (cs : List Char) :
    readTree fuel (before ++ cs) = readTree fuel cs := by
  cases fuel with
  | zero => simp only [readTree]
  | succ fuel => simp only [readTree, skipBlanks_append blanks]

theorem readItems_blanks (blanks : IsBlanks before) (cs : List Char) :
    readItems fuel (before ++ cs) = readItems fuel cs := by
  cases fuel with
  | zero => simp only [readItems]
  | succ fuel => simp only [readItems, readTree_blanks blanks]

theorem readMembers_blanks (blanks : IsBlanks before) (cs : List Char) :
    readMembers fuel (before ++ cs) = readMembers fuel cs := by
  cases fuel with
  | zero => simp only [readMembers]
  | succ fuel => simp only [readMembers, skipBlanks_append blanks]

/-! ## Values -/

theorem SpellsNumber.exists_cons {l : NumberLiteral} (spells : SpellsNumber l text) :
    ∃ c more, text = c :: more ∧ (c = '-' ∨ c.isDigit = true) := by
  obtain ⟨negative, whole, fraction, exponent⟩ := l
  obtain ⟨signed, isDigits, -, -, -⟩ := spells
  dsimp only at *
  cases signed with
  | minus => exact ⟨'-', _, rfl, .inl rfl⟩
  | absent =>
    obtain ⟨d, more, eq, digit⟩ := isDigits.exists_cons
    rw [eq]
    exact ⟨d, _, rfl, .inr digit⟩

/-- Neither a sign nor a digit begins anything but a number. -/
theorem first_of_number (first : c = '-' ∨ c.isDigit = true) : isJsonBlank c = false ∧
    ∀ d ∈ ['n', 't', 'f', '"', '[', ']', '\x7b'], c ≠ d := by
  rcases first with rfl | digit
  · simp [isJsonBlank]
  · have others : ∀ d ∈ ['n', 't', 'f', '"', '[', ']', '\x7b', ' ', '\n', '\t', '\r'],
        d.isDigit = false := by simp
    refine ⟨Bool.eq_false_iff.2 fun blank => ?_,
      fun d mem => ne_of_isDigit digit (others d (List.mem_append_left _ mem))⟩
    rcases isJsonBlank_iff.1 blank with rfl | rfl | rfl | rfl <;> cases digit

/-- A value begins with a character that is neither blank nor a bracket that closes. -/
theorem Writes.exists_cons (writes : Writes t text) :
    ∃ c more, text = c :: more ∧ isJsonBlank c = false ∧ c ≠ ']' := by
  cases writes with
  | null => exact ⟨'n', _, rfl, by decide, by decide⟩
  | bool b => cases b <;> exact ⟨_, _, rfl, by decide, by decide⟩
  | number spells =>
    obtain ⟨c, more, rfl, first⟩ := spells.exists_cons
    obtain ⟨solid, others⟩ := first_of_number first
    exact ⟨c, more, rfl, solid, others ']' (by decide)⟩
  | string spells =>
    obtain ⟨inside, rfl, -⟩ := readString_of_spells spells
    exact ⟨'"', _, rfl, by decide, by decide⟩
  | array => exact ⟨'[', _, rfl, by decide, by decide⟩
  | object => exact ⟨'\x7b', _, rfl, by decide, by decide⟩

/-- With so much fuel every value is read that is not too long for it. -/
def Reads (fuel : Nat) : Prop :=
  ∀ {t : Tree} {text rest : List Char}, Writes t text → Stops rest → 2 * text.length ≤ fuel →
    readTree fuel (text ++ rest) = (t, some rest)

theorem readItems_listed {items : List Tree} (listed : Listed Writes items text)
    (enough : 2 * text.length + 1 ≤ fuel) (reads : ∀ less < fuel, Reads less) (rest : List Char) :
    readItems fuel (text ++ ']' :: rest) = (items, none, some rest) := by
  induction listed generalizing fuel with
  | @one t before value after left item right =>
    obtain _ | fuel := fuel
    · omega
    simp only [List.length_append] at enough
    have stops : Stops (after ++ ']' :: rest) := right.stops (stops_cons (by simp))
    rw [List.append_assoc, readItems_blanks left, List.append_assoc, readItems,
      reads fuel (Nat.lt_succ_self fuel) item stops (by omega)]
    simp only [skipBlanks_append right, skipBlanks_cons (c := ']') (by decide), if_true]
  | @cons t more before value after later left item right tail ih =>
    obtain _ | fuel := fuel
    · omega
    simp only [List.length_append, List.length_cons] at enough
    have stops : Stops (after ++ ',' :: (later ++ ']' :: rest)) :=
      right.stops (stops_cons (by simp))
    simp only [List.append_assoc, List.cons_append]
    rw [readItems_blanks left, readItems,
      reads fuel (Nat.lt_succ_self fuel) item stops (by omega)]
    have onward := @ih fuel (by omega) fun less lt => reads less (Nat.lt_succ_of_lt lt)
    simp only [skipBlanks_append right, skipBlanks_cons (c := ',') (by decide), Char.reduceEq,
      if_false, if_true, onward]

/-- A member is read, and then the character behind it is looked at. -/
theorem readMembers_member {m : Option String × Tree} {tail : List Char} (left : IsBlanks before)
    (member : SpellsMember Writes m text) (stops : Stops tail) (enough : 2 * text.length ≤ fuel)
    (reads : Reads fuel) (next : skipBlanks tail = c :: rest) :
    readMembers (fuel + 1) (before ++ (text ++ tail)) =
      if c = '\x7d' then ([m], none, some rest)
      else if c = ',' then (m :: (readMembers fuel rest).1, (readMembers fuel rest).2)
      else ([m], some (.plain .grammar), none) := by
  obtain ⟨named, between, gap, writes⟩ := member
  obtain ⟨inside, rfl, read⟩ := readString_of_spells named
  simp only [List.length_append, List.length_cons] at enough
  simp only [List.append_assoc, List.cons_append]
  rw [readMembers_blanks left, readMembers, skipBlanks_cons (by decide)]
  simp only [ne_eq, not_true_eq_false, if_false, read, skipBlanks_append between,
    skipBlanks_cons (c := ':') (by decide), readTree_blanks gap,
    reads writes stops (by omega), next]

theorem readMembers_listed {members : List (Option String × Tree)}
    (listed : Listed (SpellsMember Writes) members text) (enough : 2 * text.length + 1 ≤ fuel)
    (reads : ∀ less < fuel, Reads less) (rest : List Char) :
    readMembers fuel (text ++ '\x7d' :: rest) = (members, none, some rest) := by
  induction listed generalizing fuel with
  | @one m before member after left item right =>
    obtain _ | fuel := fuel
    · omega
    simp only [List.length_append] at enough
    have stops : Stops (after ++ '\x7d' :: rest) := right.stops (stops_cons (by simp))
    simp only [List.append_assoc]
    have next : skipBlanks (after ++ '\x7d' :: rest) = '\x7d' :: rest := by
      rw [skipBlanks_append right, skipBlanks_cons (by decide)]
    rw [readMembers_member left item stops (by omega) (reads fuel (Nat.lt_succ_self fuel)) next,
      if_pos rfl]
  | @cons m more before member after later left item right tail ih =>
    obtain _ | fuel := fuel
    · omega
    simp only [List.length_append, List.length_cons] at enough
    have stops : Stops (after ++ ',' :: (later ++ '\x7d' :: rest)) :=
      right.stops (stops_cons (by simp))
    simp only [List.append_assoc, List.cons_append]
    have next : skipBlanks (after ++ ',' :: (later ++ '\x7d' :: rest)) =
        ',' :: (later ++ '\x7d' :: rest) := by
      rw [skipBlanks_append right, skipBlanks_cons (by decide)]
    have onward := @ih fuel (by omega) fun less lt => reads less (Nat.lt_succ_of_lt lt)
    rw [readMembers_member left item stops (by omega) (reads fuel (Nat.lt_succ_self fuel)) next,
      if_neg (by decide), if_pos rfl, onward]

theorem Listed.exists_append {α : Type} {Spells : α → List Char → Prop} {as : List α}
    (listed : Listed Spells as text) :
    ∃ before a item after, IsBlanks before ∧ Spells a item ∧ text = before ++ (item ++ after) := by
  cases listed with
  | one left item right => exact ⟨_, _, _, _, left, item, rfl⟩
  | cons left item right tail => exact ⟨_, _, _, _, left, item, rfl⟩

theorem readTree_array {items : List Tree} (contained : Contained Writes items text)
    (enough : 2 * text.length + 1 ≤ fuel) (reads : ∀ less < fuel, Reads less) (rest : List Char) :
    readTree (fuel + 1) ('[' :: (text ++ ']' :: rest)) = (.array items none, some rest) := by
  rw [readTree, skipBlanks_cons (by decide)]
  simp only [Char.reduceEq, if_false, if_true]
  cases contained with
  | nothing blanks =>
    simp only [skipBlanks_append blanks, skipBlanks_cons (c := ']') (by decide)]
  | items listed =>
    obtain ⟨before, t, value, after, left, writes, rfl⟩ := listed.exists_append
    obtain ⟨c, more, rfl, solid, open'⟩ := writes.exists_cons
    have read := readItems_listed listed enough reads rest
    simp only [List.append_assoc, List.cons_append, readItems_blanks left] at read
    simp only [List.append_assoc, List.cons_append, skipBlanks_append left, skipBlanks_cons solid]
    split
    case h_1 eq => exact absurd (List.cons.inj eq).1 open'
    case h_2 => simp only [List.isEmpty_cons, Bool.false_eq_true, if_false, read]

theorem readFirstMember_contained {members : List (Option String × Tree)}
    (contained : Contained (SpellsMember Writes) members text)
    (enough : 2 * text.length + 1 ≤ fuel) (reads : ∀ less < fuel, Reads less) (rest : List Char) :
    readFirstMember (fuel + 1) (text ++ '\x7d' :: rest) = (members, none, some rest) := by
  rw [readFirstMember]
  cases contained with
  | nothing blanks =>
    simp only [skipBlanks_append blanks, skipBlanks_cons (c := '\x7d') (by decide)]
  | items listed =>
    obtain ⟨before, m, member, after, left, ⟨named, -, -, -⟩, rfl⟩ := listed.exists_append
    obtain ⟨inside, rfl, -⟩ := readString_of_spells named
    have read := readMembers_listed listed enough reads rest
    simp only [List.append_assoc, List.cons_append, readMembers_blanks left] at read
    simp only [List.append_assoc, List.cons_append, skipBlanks_append left,
      skipBlanks_cons (c := '"') (by decide)]
    exact read

theorem readTree_object {members : List (Option String × Tree)}
    (contained : Contained (SpellsMember Writes) members text)
    (enough : 2 * text.length + 2 ≤ fuel) (reads : ∀ less < fuel, Reads less) (rest : List Char) :
    readTree (fuel + 1) ('\x7b' :: (text ++ '\x7d' :: rest)) =
      (.object members none, some rest) := by
  obtain _ | fuel := fuel
  · omega
  have read : readFirstMember (fuel + 1) (text ++ '\x7d' :: rest) = (members, none, some rest) :=
    readFirstMember_contained contained (by omega)
      (fun less lt => reads less (Nat.lt_succ_of_lt lt)) rest
  rw [readTree, skipBlanks_cons (by decide)]
  simp only [Char.reduceEq, if_false, if_true, read]

theorem readTree_number {l : NumberLiteral} (spells : SpellsNumber l text) (stops : Stops rest) :
    readTree (fuel + 1) (text ++ rest) = (.number l, some rest) := by
  have scan := scanNumber_spells spells stops
  obtain ⟨c, more, rfl, first⟩ := spells.exists_cons
  obtain ⟨solid, others⟩ := first_of_number first
  simp only [List.forall_mem_cons] at others
  rw [List.cons_append] at scan ⊢
  rw [readTree, skipBlanks_cons solid]
  simp only [others, first, if_false, if_true, scan]

theorem readTree_string {s : Option String} (spells : SpellsString s text) (rest : List Char) :
    readTree (fuel + 1) (text ++ rest) = (.string s, some rest) := by
  obtain ⟨inside, rfl, read⟩ := readString_of_spells spells
  rw [List.cons_append, readTree, skipBlanks_cons (by decide)]
  simp only [Char.reduceEq, if_false, if_true, read]

theorem reads (fuel : Nat) : Reads fuel := by
  induction fuel using Nat.strongRecOn with
  | ind fuel ih =>
    intro t text rest writes stops enough
    obtain ⟨c, more, eq, solid, -⟩ := writes.exists_cons
    obtain _ | fuel := fuel
    · rw [eq, List.length_cons] at enough
      omega
    have below : ∀ less < fuel, Reads less := fun less lt => ih less (Nat.lt_succ_of_lt lt)
    cases writes with
    | null =>
      rw [readTree]
      rfl
    | bool b =>
      rw [readTree]
      cases b <;> rfl
    | number spells => exact readTree_number spells stops
    | string spells => exact readTree_string spells rest
    | array contained =>
      simp only [List.length_cons, List.length_append] at enough
      rw [List.cons_append, List.append_assoc, List.singleton_append]
      exact readTree_array contained (by omega) below rest
    | object contained =>
      simp only [List.length_cons, List.length_append] at enough
      rw [List.cons_append, List.append_assoc, List.singleton_append]
      exact readTree_object contained (by omega) below rest

/-- A text that holds a value is read as the value, to its end. -/
theorem readDocument_holds {text : String} (holds : Holds t text) :
    readDocument text = (t, none) := by
  obtain ⟨before, value, after, left, writes, right, eq⟩ := holds
  have nothing : Stops ([] : List Char) := by simp [Stops]
  have stops : Stops after := by simpa using right.stops nothing
  have read := reads (2 * text.toList.length + 2) writes stops
    (by simp only [eq, List.length_append]; omega)
  rw [eq] at read
  rw [readDocument, eq, readTree_blanks left]
  simp only [read, skipBlanks_blanks right, List.isEmpty_nil, if_true]

end

end CameraTelemetry.Json
