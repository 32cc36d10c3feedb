import CameraTelemetry.Text.Words

/-!
# Texts made of words

Any word without blanks may stand in a text, with blanks of any kind and number before and after
it, as long as two words are apart. Every text is made of words in this way, of which the reader
finds exactly the ones that are there. What stands before a character is read up to it.
-/
namespace CameraTelemetry.Text

structure IsWord (word : List Char) : Prop where
  some : word ≠ []
  solid : ∀ c ∈ word, isBlank c = false

def Ends (rest : List Char) : Prop := ∀ c ∈ rest.head?, isBlank c = true

/-- The text is made of the words, with blanks around them. -/
inductive Separated : List (List Char) → List Char → Prop
  | nil {blanks : List Char} (blank : ∀ c ∈ blanks, isBlank c = true) : Separated [] blanks
  | cons {before word rest : List Char} {others : List (List Char)}
    (blank : ∀ c ∈ before, isBlank c = true) (isWord : IsWord word) (ends : Ends rest)
    (tail : Separated others rest) : Separated (word :: others) (before ++ word ++ rest)

/-! ## Reading what is written -/

section

variable {c : Char} {word rest : List Char}

theorem ends_nil : Ends [] := by
  simp [Ends]

theorem ends_cons : Ends (c :: rest) ↔ isBlank c = true := by
  simp [Ends]

-- The brackets around the proof keep it from being tried as a reduction rule too, which takes long.
theorem words_cons_cons (c d : Char) (rest : List Char) : words (c :: d :: rest) =
    if isBlank c then words (d :: rest)
    else if isBlank d then [c] :: words (d :: rest)
    else match words (d :: rest) with
      | [] => [[c]]
      | word :: others => (c :: word) :: others := (rfl)

theorem words_cons_of_blank (blank : isBlank c = true) : words (c :: rest) = words rest := by
  cases rest with
  | nil => exact if_pos blank
  | cons d rest => rw [words_cons_cons, if_pos blank]

theorem words_append_of_blank {blanks : List Char} (blank : ∀ c ∈ blanks, isBlank c = true) :
    words (blanks ++ rest) = words rest := by
  induction blanks with
  | nil => rfl
  | cons c blanks ih =>
    rw [List.forall_mem_cons] at blank
    rw [List.cons_append, words_cons_of_blank blank.1, ih blank.2]

theorem words_cons_of_ends (solid : isBlank c = false) (ends : Ends rest) :
    words (c :: rest) = [c] :: words rest := by
  have goesOn : ¬ isBlank c = true := Bool.eq_false_iff.1 solid
  cases rest with
  | nil => exact if_neg goesOn
  | cons d rest => rw [words_cons_cons, if_neg goesOn, if_pos (ends_cons.1 ends)]

theorem words_cons_of_solid {d : Char} {others : List (List Char)} (solid : isBlank c = false)
    (next : isBlank d = false) (found : words (d :: rest) = word :: others) :
    words (c :: d :: rest) = (c :: word) :: others := by
  simp only [words_cons_cons, solid, next, found, Bool.false_eq_true, if_false]

theorem words_append_of_ends (isWord : IsWord word) (ends : Ends rest) :
    words (word ++ rest) = word :: words rest := by
  induction word with
  | nil => exact absurd rfl isWord.some
  | cons c word ih =>
    have solid := List.forall_mem_cons.1 isWord.solid
    cases word with
    | nil => exact words_cons_of_ends solid.1 ends
    | cons d word =>
      have later : IsWord (d :: word) := ⟨List.cons_ne_nil d word, solid.2⟩
      have next : isBlank d = false := solid.2 d List.mem_cons_self
      exact words_cons_of_solid solid.1 next (ih later)

end

theorem Separated.words_eq {ws : List (List Char)} {cs : List Char} (separated : Separated ws cs) :
    words cs = ws := by
  induction separated with
  | @nil blanks blank =>
    have none : words (blanks ++ []) = words [] := words_append_of_blank blank
    rwa [List.append_nil] at none
  | cons blank isWord ends tail ih =>
    rw [List.append_assoc, words_append_of_blank blank, words_append_of_ends isWord ends, ih]

/-! ## Every text is made of its words -/

namespace Separated

variable {c : Char} {rest : List Char} {ws : List (List Char)}

theorem cons_blank (separated : Separated ws rest) (blank : isBlank c = true) :
    Separated ws (c :: rest) := by
  cases separated with
  | nil others => exact .nil (List.forall_mem_cons.2 ⟨blank, others⟩)
  | @cons before word rest _ others isWord ends tail =>
    exact @cons (c :: before) _ _ _ (List.forall_mem_cons.2 ⟨blank, others⟩) isWord ends tail

theorem cons_ends (separated : Separated ws rest) (solid : isBlank c = false) (ends : Ends rest) :
    Separated ([c] :: ws) (c :: rest) :=
  @cons [] _ _ _ (by simp) ⟨by simp, by simpa using solid⟩ ends separated

/-- A character before another one that is no blank belongs to the word of that one. -/
theorem cons_solid {d : Char} (separated : Separated ws (d :: rest)) (solid : isBlank c = false)
    (next : isBlank d = false) :
    ∃ word others, ws = word :: others ∧ Separated ((c :: word) :: others) (c :: d :: rest) := by
  generalize text : d :: rest = cs at separated
  cases separated with
  | nil blank =>
    subst text
    simp [next] at blank
  | @cons before word rest others blank isWord ends tail =>
    cases before with
    | nil =>
      have longer : IsWord (c :: word) :=
        ⟨List.cons_ne_nil c word, List.forall_mem_cons.2 ⟨solid, isWord.solid⟩⟩
      exact ⟨word, others, rfl, @cons [] _ _ _ (by simp) longer ends tail⟩
    | cons b before =>
      obtain ⟨rfl, -⟩ := List.cons.inj text
      simp [next] at blank

theorem append_blank (separated : Separated ws rest) (blank : isBlank c = true) :
    Separated ws (rest ++ [c]) := by
  induction separated with
  | nil others =>
    apply Separated.nil
    simpa [or_imp, forall_and, blank] using others
  | @cons before word rest others between isWord ends tail ih =>
    have later : Ends (rest ++ [c]) := by
      cases rest with
      | nil => exact ends_cons.2 blank
      | cons d rest => exact ends_cons.2 (ends_cons.1 ends)
    rw [List.append_assoc]
    exact .cons between isWord later ih

end Separated

theorem separated_words (cs : List Char) : Separated (words cs) cs := by
  induction cs with
  | nil => exact .nil (by simp)
  | cons c rest ih =>
    cases solid : isBlank c with
    | true =>
      rw [words_cons_of_blank solid]
      exact ih.cons_blank solid
    | false =>
      by_cases ends : Ends rest
      · rw [words_cons_of_ends solid ends]
        exact ih.cons_ends solid ends
      · obtain _ | ⟨d, rest⟩ := rest
        · exact absurd ends_nil ends
        · have next : isBlank d = false := by
            rwa [ends_cons, Bool.not_eq_true] at ends
          obtain ⟨word, others, found, separated⟩ := ih.cons_solid solid next
          rwa [words_cons_of_solid solid next found]

/-- The words of a text are those that it is made of. -/
theorem words_eq_iff {cs : List Char} {ws : List (List Char)} :
    words cs = ws ↔ Separated ws cs := by
  constructor
  · rintro rfl
    exact separated_words cs
  · exact Separated.words_eq

def IsMadeOf (ws : List String) (s : String) : Prop := Separated (ws.map String.toList) s.toList

theorem wordsOf_eq_iff {s : String} {ws : List String} : wordsOf s = ws ↔ IsMadeOf ws s := by
  rw [IsMadeOf, ← words_eq_iff, wordsOf]
  constructor
  · rintro rfl
    simp [Function.comp_def]
  · intro found
    rw [found]
    simp [Function.comp_def]

/-! ## What stands before a character -/

section

variable {c : Char} {front rest : List Char}

theorem takeWhile_append_cons (plain : c ∉ front) :
    (front ++ c :: rest).takeWhile (· ≠ c) = front := by
  rw [List.takeWhile_append_of_pos]
  · simp
  · intro d mem
    simpa using fun same : d = c => plain (same ▸ mem)

theorem dropWhile_append_cons (plain : c ∉ front) :
    (front ++ c :: rest).dropWhile (· ≠ c) = c :: rest := by
  rw [List.dropWhile_append_of_pos]
  · simp
  · intro d mem
    simpa using fun same : d = c => plain (same ▸ mem)

end

end CameraTelemetry.Text
