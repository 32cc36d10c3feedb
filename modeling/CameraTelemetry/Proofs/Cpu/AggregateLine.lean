import CameraTelemetry.Cpu.Ticks
import CameraTelemetry.Proofs.Number.Numerals
import CameraTelemetry.Proofs.Text.Separation
import Mathlib.Data.List.Forall2
import Mathlib.Data.List.TakeWhile

/-!
# The aggregate line

Of the file with the tick counters only the first line matters, and of its words only the first
nine. Reading accepts exactly the lines in which the word `cpu` is followed by seven counts or
more, and tells the leftmost of the words that is not one before it looks at how many there are.
-/
namespace CameraTelemetry.Cpu

open Number Text

/-- The word denotes the count. -/
def Counts (word : String) (count : UInt64) : Prop := Denotes word.toList count.toNat

/-- The word denotes a number of sixty-four bits. -/
def IsCount (word : String) : Prop := ∃ n < 2 ^ 64, Denotes word.toList n

theorem isCount_iff {word : String} : IsCount word ↔ ∃ count, Counts word count := by
  constructor
  · rintro ⟨n, small, denotes⟩
    exact ⟨.ofNat n, by rwa [Counts, UInt64.toNat_ofNat_of_lt' small]⟩
  · exact fun ⟨count, counts⟩ => ⟨count.toNat, count.toNat_lt, counts⟩

/-- What a line yields. -/
inductive Yields (line : String) : Except StatLineError Ticks → Prop
  | foreign {ws : List String} (made : IsMadeOf ws line) (other : ws.head? ≠ some "cpu") :
    Yields line (.error (.notAggregate ws.head?))
  /-- The word is the leftmost of the first eight that is no count. -/
  | bad {before after : List String} {word : String} {cause : CountError}
    (made : IsMadeOf ("cpu" :: (before ++ word :: after)) line) (among : before.length < 8)
    (counts : ∀ w ∈ before, IsCount w) (other : ¬ IsCount word)
    (faulty : Faulty maxCount word.toList cause) :
    Yields line (.error (.badField before.length word cause))
  | short {fields : List String} (made : IsMadeOf ("cpu" :: fields) line)
    (counts : ∀ w ∈ fields, IsCount w) (few : fields.length < 7) :
    Yields line (.error (.tooFewFields fields.length))
  /-- The counters are the counts, in order; the eighth is nought if there is none. -/
  | sample {fields : List String} {t : Ticks} (made : IsMadeOf ("cpu" :: fields) line)
    (enough : 7 ≤ fields.length)
    (counts : List.Forall₂ Counts (fields.take 8) (t.toList.take fields.length))
    (absent : fields.length = 7 → t.steal = 0) : Yields line (.ok t)

/-! ## Fields -/

section

variable {word : String} {ws before after : List String} {index : Nat} {counts : List UInt64}
  {cause : CountError}

theorem readCount_of_counts {count : UInt64} (denotes : Counts word count) :
    readCount maxCount word.toList = .ok count.toNat := by
  have small := count.toNat_lt
  exact readCount_eq_ok_iff.2 ⟨denotes, by unfold maxCount; omega⟩

/-- A word is a count or has a fault. -/
theorem isCount_or_faulty (word : String) :
    IsCount word ∨ ¬ IsCount word ∧ ∃ cause, Faulty maxCount word.toList cause := by
  cases read : readCount maxCount word.toList with
  | ok n =>
    obtain ⟨denotes, le⟩ := readCount_eq_ok_iff.1 read
    exact .inl ⟨n, by unfold maxCount at le; omega, denotes⟩
  | error cause =>
    refine .inr ⟨fun isCount => ?_, cause, readCount_eq_error_iff.1 read⟩
    obtain ⟨count, denotes⟩ := isCount_iff.1 isCount
    rw [readCount_of_counts denotes] at read
    cases read

theorem readFields_of_counts (denote : List.Forall₂ Counts ws counts) :
    readFields index ws = .ok counts := by
  induction denote generalizing index with
  | nil => rfl
  | @cons word count ws counts head tail ih =>
    have value : UInt64.ofNat count.toNat = count := UInt64.ofNat_toNat
    simp only [readFields, readCount_of_counts head, ih, value]
    rfl

theorem readFields_of_bad (denote : List.Forall₂ Counts before counts)
    (faulty : Faulty maxCount word.toList cause) :
    readFields index (before ++ word :: after) =
      .error (.badField (index + before.length) word cause) := by
  induction denote generalizing index with
  | nil =>
    have read : readCount maxCount word.toList = .error cause := readCount_eq_error_iff.2 faulty
    simp only [List.nil_append, readFields, read]
    rfl
  | @cons first count before counts head tail ih =>
    simp only [List.cons_append, readFields, readCount_of_counts head, ih, List.length_cons]
    rw [Nat.add_right_comm, Nat.add_assoc]
    rfl

theorem exists_counts (isCount : ∀ w ∈ ws, IsCount w) :
    ∃ counts, List.Forall₂ Counts ws counts := by
  induction ws with
  | nil => exact ⟨[], .nil⟩
  | cons word ws ih =>
    rw [List.forall_mem_cons] at isCount
    obtain ⟨count, head⟩ := isCount_iff.1 isCount.1
    obtain ⟨counts, tail⟩ := ih isCount.2
    exact ⟨count :: counts, .cons head tail⟩

/-- Of words that are not all counts one is the leftmost that is none. -/
theorem counts_or_bad (ws : List String) :
    (∀ w ∈ ws, IsCount w) ∨ ∃ before word after cause, ws = before ++ word :: after ∧
      (∀ w ∈ before, IsCount w) ∧ ¬ IsCount word ∧ Faulty maxCount word.toList cause := by
  induction ws with
  | nil => exact .inl (by simp)
  | cons word ws ih =>
    obtain isCount | ⟨other, cause, faulty⟩ := isCount_or_faulty word
    · obtain all | ⟨before, bad, after, cause, rfl, counts, other, faulty⟩ := ih
      · exact .inl (List.forall_mem_cons.2 ⟨isCount, all⟩)
      · exact .inr ⟨word :: before, bad, after, cause, rfl,
          List.forall_mem_cons.2 ⟨isCount, counts⟩, other, faulty⟩
    · exact .inr ⟨[], word, ws, cause, rfl, by simp, other, faulty⟩

end

/-! ## Samples from counts -/

namespace Ticks

theorem toList_ofList {counts : List UInt64} (atMost : counts.length ≤ 8) :
    (ofList counts).toList.take counts.length = counts := by
  have fields : (ofList counts).toList = (List.range 8).map fun i => counts.getD i 0 := rfl
  rw [fields, ← List.map_take, List.take_range, Nat.min_eq_left atMost]
  apply List.ext_getElem
  · simp
  · intro i _ inside
    simp [inside]

/-- The eighth counter may be left out if it is nought. -/
theorem ofList_take {t : Ticks} {n : Nat} (enough : 7 ≤ n) (absent : n = 7 → t.steal = 0) :
    ofList (t.toList.take n) = t := by
  by_cases seven : n = 7
  · cases t
    cases absent seven
    rw [seven]
    rfl
  · have all : t.toList.take n = t.toList :=
      List.take_of_length_le (by simp only [toList, List.length_cons, List.length_nil]; omega)
    rw [all]
    rfl

end Ticks

/-- The counters in decimal. -/
def Ticks.written (t : Ticks) : List String := t.toList.map fun count => toString count.toNat

/-! ## Lines -/

section

variable {line : String}

theorem ofLine_of_cpu {fields : List String} (made : IsMadeOf ("cpu" :: fields) line) :
    Ticks.ofLine line = match readFields 0 (fields.take 8) with
      | .error e => .error e
      | .ok counts =>
        if counts.length < 7 then .error (.tooFewFields counts.length)
          else .ok (.ofList counts) := by
  rw [Ticks.ofLine, wordsOf_eq_iff.2 made]
  rfl

theorem Yields.ofLine_eq {result : Except StatLineError Ticks} (yields : Yields line result) :
    Ticks.ofLine line = result := by
  cases yields with
  | @foreign ws made other =>
    rw [Ticks.ofLine, wordsOf_eq_iff.2 made]
    split
    · exact absurd rfl other
    · rfl
  | @bad before after word cause made among counts other faulty =>
    obtain ⟨values, denote⟩ := exists_counts counts
    obtain ⟨k, room⟩ : ∃ k, 8 - before.length = k + 1 :=
      Nat.exists_eq_succ_of_ne_zero (by omega)
    have first : (before ++ word :: after).take 8 = before ++ word :: after.take k := by
      rw [List.take_append, List.take_of_length_le (Nat.le_of_lt among), room, List.take_succ_cons]
    rw [ofLine_of_cpu made, first, readFields_of_bad denote faulty, Nat.zero_add]
  | @short fields made counts few =>
    obtain ⟨values, denote⟩ := exists_counts counts
    have all : fields.take 8 = fields := List.take_of_length_le (by omega)
    simp only [ofLine_of_cpu made, all, readFields_of_counts denote, ← denote.length_eq, few,
      if_true]
  | @sample fields t made enough counts absent =>
    have many : ¬ (t.toList.take fields.length).length < 7 := by
      rw [← counts.length_eq, List.length_take]
      omega
    simp only [ofLine_of_cpu made, readFields_of_counts counts, many, if_false,
      Ticks.ofList_take enough absent]

theorem exists_sample {fields : List String} (made : IsMadeOf ("cpu" :: fields) line)
    (enough : 7 ≤ fields.length) (counts : ∀ w ∈ fields.take 8, IsCount w) :
    ∃ t, Yields line (.ok t) := by
  obtain ⟨values, denote⟩ := exists_counts counts
  have length : values.length = min 8 fields.length := by
    rw [← denote.length_eq, List.length_take]
  have eight : (Ticks.ofList values).toList.length = 8 := rfl
  have read : (Ticks.ofList values).toList.take fields.length = values := by
    have same : (Ticks.ofList values).toList.take fields.length =
        (Ticks.ofList values).toList.take values.length := by
      rw [List.take_eq_take_iff, eight]
      omega
    rw [same, Ticks.toList_ofList (by omega)]
  have absent (seven : fields.length = 7) : (Ticks.ofList values).steal = 0 := by
    have field : (Ticks.ofList values).steal = values.getD 7 0 := rfl
    rw [field, List.getD_eq_getElem?_getD, List.getElem?_eq_none (by omega)]
    rfl
  exact ⟨_, .sample made enough (read.symm ▸ denote) absent⟩

/-- Every line yields something. -/
theorem exists_yields (line : String) : ∃ result, Yields line result := by
  have made : IsMadeOf (wordsOf line) line := wordsOf_eq_iff.1 rfl
  by_cases cpu : (wordsOf line).head? = some "cpu"
  · obtain ⟨fields, words⟩ := List.head?_eq_some_iff.1 cpu
    rw [words] at made
    obtain all | ⟨before, word, after, cause, parts, counts, other, faulty⟩ :=
      counts_or_bad (fields.take 8)
    · by_cases few : fields.length < 7
      · have whole : fields.take 8 = fields := List.take_of_length_le (by omega)
        exact ⟨_, .short made (whole ▸ all) few⟩
      · obtain ⟨t, sample⟩ := exists_sample made (Nat.le_of_not_lt few) all
        exact ⟨_, sample⟩
    · have whole : fields = before ++ word :: (after ++ fields.drop 8) := by
        rw [← List.cons_append, ← List.append_assoc, ← parts, List.take_append_drop]
      have among : before.length < 8 := by
        have atMost := List.length_take_le 8 fields
        rw [parts, List.length_append, List.length_cons] at atMost
        omega
      exact ⟨_, .bad (whole ▸ made) among counts other faulty⟩
  · exact ⟨_, .foreign made cpu⟩

/-- A line is read as what it yields, and as nothing else. -/
theorem ofLine_eq_iff {result : Except StatLineError Ticks} :
    Ticks.ofLine line = result ↔ Yields line result := by
  constructor
  · rintro rfl
    obtain ⟨result, yields⟩ := exists_yields line
    rwa [yields.ofLine_eq]
  · exact Yields.ofLine_eq

theorem exists_ofLine_eq_ok_iff : (∃ t, Ticks.ofLine line = .ok t) ↔
    ∃ fields, IsMadeOf ("cpu" :: fields) line ∧ 7 ≤ fields.length ∧
      ∀ w ∈ fields.take 8, IsCount w := by
  constructor
  · rintro ⟨t, read⟩
    cases ofLine_eq_iff.1 read with
    | @sample fields _ made enough counts absent =>
      refine ⟨fields, made, enough, fun w mem => ?_⟩
      obtain ⟨i, inside, rfl⟩ := List.mem_iff_getElem.1 mem
      exact isCount_iff.2 ⟨_, counts.get inside (counts.length_eq ▸ inside)⟩
  · rintro ⟨fields, made, enough, counts⟩
    obtain ⟨t, sample⟩ := exists_sample made enough counts
    exact ⟨t, sample.ofLine_eq⟩

/-- A sample that is written down is read as itself, whatever the blanks between its counters are
and whatever comes after them. -/
theorem ofLine_of_written {t : Ticks} {more : List String}
    (made : IsMadeOf ("cpu" :: (t.written ++ more)) line) : Ticks.ofLine line = .ok t := by
  have length : t.written.length = 8 := rfl
  have first : (t.written ++ more).take 8 = t.written := List.take_left' length
  have many : 8 ≤ (t.written ++ more).length := by
    rw [List.length_append, length]
    omega
  have counts : List.Forall₂ Counts t.written t.toList := by
    rw [Ticks.written, List.forall₂_map_left_iff, List.forall₂_same]
    intro count _
    rw [Counts, Nat.toString_eq_ofList_toDigits, String.toList_ofList]
    exact denotes_toDigits count.toNat
  apply ofLine_eq_iff.2
  apply Yields.sample made
  · omega
  · rwa [first, List.take_of_length_le many]
  · omega

end

/-! ## Files -/

/-- The line is what stands before the first line break of a text: a line feed, perhaps with a
carriage return before it. Without a break it is the whole text, if that is not empty. -/
inductive FirstLine (line : String) : String → Prop
  | only (some : line ≠ "") : FirstLine line line
  | feed (rest : String) : FirstLine line (line ++ "\n" ++ rest)
  | returned (rest : String) : FirstLine line (line ++ "\r\n" ++ rest)

section

variable {line text : String}

/-- A carriage return at the end is as good as none. -/
theorem ofLine_returned (line : String) : Ticks.ofLine (line ++ "\r") = Ticks.ofLine line := by
  have made : IsMadeOf (wordsOf line) line := wordsOf_eq_iff.1 rfl
  have longer : IsMadeOf (wordsOf line) (line ++ "\r") := by
    rw [IsMadeOf, String.toList_append]
    exact Separated.append_blank made (by decide)
  rw [Ticks.ofLine, Ticks.ofLine, wordsOf_eq_iff.2 longer]

theorem firstLine?_feed (plain : '\n' ∉ line.toList) (rest : String) :
    firstLine? (line ++ "\n" ++ rest) = some line := by
  have text : (line ++ "\n" ++ rest).toList = line.toList ++ '\n' :: rest.toList := by simp
  have some : (line ++ "\n" ++ rest).isEmpty = false := by simp
  rw [firstLine?, some, text, takeWhile_append_cons plain]
  simp

theorem firstLine?_only (plain : '\n' ∉ line.toList) (some : line ≠ "") :
    firstLine? line = .some line := by
  have whole : line.toList.takeWhile (· ≠ '\n') = line.toList := by
    rw [List.takeWhile_eq_self_iff]
    intro c mem
    simpa using fun same : c = '\n' => plain (same ▸ mem)
  have nonempty : line.isEmpty = false := by simpa using some
  rw [firstLine?, nonempty, whole]
  simp

theorem ofFile_of_firstLine {path : String} (plain : '\n' ∉ line.toList)
    (first : FirstLine line text) :
    Ticks.ofFile path (.ok text) =
      (Ticks.ofLine line).mapError fun e => .malformed .cpu e.message := by
  cases first with
  | only some => simp only [Ticks.ofFile, firstLine?_only plain some]
  | feed rest => simp only [Ticks.ofFile, firstLine?_feed plain rest]
  | returned rest =>
    have longer : '\n' ∉ (line ++ "\r").toList := by simpa using plain
    have text : line ++ "\r\n" ++ rest = line ++ "\r" ++ "\n" ++ rest := by
      apply String.toList_injective
      simp
    rw [text]
    simp only [Ticks.ofFile, firstLine?_feed longer rest, ofLine_returned]

theorem exists_firstLine (some : text ≠ "") :
    ∃ line : String, '\n' ∉ line.toList ∧ FirstLine line text := by
  have parts := List.takeWhile_append_dropWhile (p := (· ≠ '\n')) (l := text.toList)
  have plain : '\n' ∉ text.toList.takeWhile (· ≠ '\n') := by
    intro mem
    simpa using List.mem_takeWhile_imp mem
  have stop := List.head?_dropWhile_not (· ≠ '\n') text.toList
  generalize text.toList.takeWhile (· ≠ '\n') = front at parts plain
  cases after : text.toList.dropWhile (· ≠ '\n') with
  | nil =>
    rw [after, List.append_nil] at parts
    exact ⟨text, parts ▸ plain, .only some⟩
  | cons c rest =>
    have feed : c = '\n' := by
      rw [after] at stop
      simpa using stop
    have whole : text = String.ofList front ++ "\n" ++ String.ofList rest := by
      apply String.toList_injective
      rw [after, feed] at parts
      simpa using parts.symm
    exact ⟨String.ofList front, by rwa [String.toList_ofList], whole ▸ .feed _⟩

end

/-- What is read from the file of the tick counters. -/
structure StatTold (path : String) : Prop where
  /-- Texts with the same first line are read alike, namely by that line. -/
  first : ∀ line text, '\n' ∉ line.toList → FirstLine line text → Ticks.ofFile path (.ok text) =
    (Ticks.ofLine line).mapError fun e => .malformed .cpu e.message
  /-- Only a text without anything in it has no first line. -/
  empty : ∀ text, (∃ line : String, '\n' ∉ line.toList ∧ FirstLine line text) ∨
    text = "" ∧ Ticks.ofFile path (.ok text) = .error (.malformed .cpu "empty stat file")
  /-- A line is a sample just if its first word is `cpu`, at least seven others follow, and the
  first eight of these are counts. -/
  accepted : ∀ line, (∃ t, Ticks.ofLine line = .ok t) ↔
    ∃ fields, IsMadeOf ("cpu" :: fields) line ∧ 7 ≤ fields.length ∧ ∀ w ∈ fields.take 8, IsCount w
  /-- The counters are these counts. On any other line the first thing that is wrong is told:
  another word in front, the leftmost of the eight that is no count, and only then too few of them.
  -/
  yields : ∀ line result, Ticks.ofLine line = result ↔ Yields line result
  written : ∀ (t : Ticks) more line, IsMadeOf ("cpu" :: (t.written ++ more)) line →
    Ticks.ofLine line = .ok t

/-- The tick counters are read from the aggregate line, and from nothing else. -/
theorem stat_told (path : String) : StatTold path where
  first := fun _ _ plain first => ofFile_of_firstLine plain first
  empty := by
    intro text
    by_cases some : text = ""
    · subst some
      exact .inr ⟨rfl, rfl⟩
    · exact .inl (exists_firstLine some)
  accepted := fun _ => exists_ofLine_eq_ok_iff
  yields := fun _ _ => ofLine_eq_iff
  written := fun _ _ _ made => ofLine_of_written made

end CameraTelemetry.Cpu
