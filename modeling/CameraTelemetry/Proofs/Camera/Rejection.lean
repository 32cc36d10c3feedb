import CameraTelemetry.Proofs.Camera.ChallengeGrammar
import Mathlib.Data.List.Forall2
import Mathlib.Data.List.TakeWhile

/-!
# What a rejection is put down to

The reason names Digest if a header value begins with a Digest challenge and none begins with a
Basic one. Where each value holds one challenge, these are the challenges that are offered. A
challenge behind another one in its value is not seen, and neither is one with a comma right after
its name.
-/
namespace CameraTelemetry.Camera

open Text

def digestReason (status : Nat) : String :=
  "HTTP " ++ Http.statusText status
    ++ ": camera requires Digest authentication, which is not supported; allow Basic on the camera"

def plainReason (status : Nat) : String := "HTTP " ++ Http.statusText status

def Offers (scheme : String) (challenges : List Challenge) : Prop := ∃ c ∈ challenges, c.IsOf scheme

instance (scheme : String) (challenges : List Challenge) : Decidable (Offers scheme challenges) :=
  inferInstanceAs (Decidable (∃ c ∈ challenges, c.IsOf scheme))

/-- Nothing that is offered can be answered, and Digest is among it. -/
def OnlyDigest (challenges : List Challenge) : Prop :=
  Offers "digest" challenges ∧ ¬ Offers "basic" challenges

instance (challenges : List Challenge) : Decidable (OnlyDigest challenges) :=
  inferInstanceAs (Decidable (_ ∧ _))

/-- The reason names Digest if the challenges ask for it and do not offer Basic. -/
def Diagnosed (status : Nat) (values : List (List Challenge)) (texts : List String) : Prop :=
  unauthorizedReason status texts = digestReason status ↔ OnlyDigest values.flatten

/-- A value begins with a challenge of the scheme, and a blank follows its name unless the value
ends. -/
def Leads (scheme : String) (value : List Challenge) (text : String) : Prop :=
  ∃ c more before after, value = c :: more ∧ c.IsOf scheme ∧ IsGap before ∧ Ends after ∧
    text.toList = before ++ (c.scheme.text.toList ++ after)

/-- What the reason depends on. -/
structure ReasonTold (status : Nat) (values : List (List Challenge))
    (texts : List String) : Prop where
  named : unauthorizedReason status texts = digestReason status ↔
    (∃ item ∈ values.zip texts, Leads "digest" item.1 item.2) ∧
      ¬ ∃ item ∈ values.zip texts, Leads "basic" item.1 item.2
  plain : unauthorizedReason status texts = plainReason status ↔
    unauthorizedReason status texts ≠ digestReason status
  /-- It is right where each value with a Digest or a Basic challenge begins with it. -/
  upfront : (∀ item ∈ values.zip texts, ∀ scheme ∈ ["digest", "basic"],
    Offers scheme item.1 → Leads scheme item.1 item.2) → Diagnosed status values texts
  /-- It is right where each value holds one challenge. -/
  single : (∀ value ∈ values, value.length = 1) → Diagnosed status values texts

/-! ## Schemes -/

section

variable {before word after : List Char} {value : List Challenge} {text scheme : String}

theorem schemeOf_of_front (gap : IsGap before) (isWord : IsWord word) (ends : Ends after)
    (eq : text.toList = before ++ (word ++ after)) :
    schemeOf text = asciiLower (String.ofList word) := by
  rw [schemeOf, wordsOf, eq, words_append_of_blank gap.blank, words_append_of_ends isWord ends]
  rfl

/-- A comma that follows the name at once becomes part of it. -/
theorem comma_mem_schemeOf (gap : IsGap before) (isWord : IsWord word)
    (eq : text.toList = before ++ (word ++ ',' :: after)) : ',' ∈ (schemeOf text).toList := by
  have longer : IsWord (word ++ ',' :: after.takeWhile fun c => !isBlank c) := by
    refine ⟨by simp,
      List.forall_mem_append.2 ⟨isWord.solid, List.forall_mem_cons.2 ⟨by decide, ?_⟩⟩⟩
    intro c mem
    simpa using List.mem_takeWhile_imp mem
  have ends : Ends (after.dropWhile fun c => !isBlank c) := by
    intro c head
    have stops := List.head?_dropWhile_not (fun c => !isBlank c) after
    rw [head] at stops
    simpa using stops
  have split : text.toList = before ++ ((word ++ ',' :: after.takeWhile fun c => !isBlank c) ++
      after.dropWhile fun c => !isBlank c) := by
    rw [eq, List.append_assoc, List.cons_append, List.takeWhile_append_dropWhile]
  rw [schemeOf_of_front gap longer ends split, asciiLower]
  simp only [String.toList_ofList, List.mem_map, List.mem_append, List.mem_cons]
  exact ⟨',', .inr (.inl rfl), by decide⟩

theorem Holds.schemeOf_eq_iff (holds : Holds value text) (bare : ',' ∉ scheme.toList) :
    schemeOf text = scheme ↔ Leads scheme value text := by
  constructor
  · intro found
    obtain ⟨c, more, before, after, rfl, gap, eq, ends | ⟨-, rest, rfl⟩⟩ := holds.begins
    · refine ⟨c, more, before, after, rfl, ?_, gap, ends, eq⟩
      rw [schemeOf_of_front gap c.scheme.isWord ends eq, String.ofList_toList] at found
      exact found
    · rw [← found] at bare
      exact absurd (comma_mem_schemeOf gap c.scheme.isWord eq) bare
  · rintro ⟨c, more, before, after, rfl, isOf, gap, ends, eq⟩
    rw [schemeOf_of_front gap c.scheme.isWord ends eq, String.ofList_toList]
    exact isOf

/-- A value with one challenge begins with it. -/
theorem Holds.leads_of_single (holds : Holds value text) (single : value.length = 1)
    (offers : Offers scheme value) : Leads scheme value text := by
  obtain ⟨c, more, before, after, rfl, gap, eq, ends⟩ := holds.begins
  obtain rfl : more = [] := by simpa using single
  obtain ⟨c', mem, isOf⟩ := offers
  obtain rfl := List.mem_singleton.1 mem
  exact ⟨c', [], before, after, rfl, isOf, gap, ends.resolve_right (absurd rfl ·.1), eq⟩

theorem Leads.offers (leads : Leads scheme value text) : Offers scheme value := by
  obtain ⟨c, more, -, -, rfl, isOf, -⟩ := leads
  exact ⟨c, List.mem_cons_self, isOf⟩

end

/-! ## Reasons -/

theorem digestReason_ne_plainReason (status : Nat) : digestReason status ≠ plainReason status := by
  intro same
  have lengths := congrArg String.length same
  simp [digestReason, plainReason] at lengths

theorem unauthorizedReason_eq (status : Nat) (texts : List String) :
    unauthorizedReason status texts =
      if asksOnlyDigest texts then digestReason status else plainReason status := rfl

section

variable {status : Nat} {values : List (List Challenge)} {texts : List String}

theorem exists_zip_iff {α β : Type} {R : α → β → Prop} {p : β → Prop} {q : α → β → Prop}
    {as : List α} {bs : List β} (related : List.Forall₂ R as bs)
    (agree : ∀ a b, R a b → (p b ↔ q a b)) :
    (∃ b ∈ bs, p b) ↔ ∃ item ∈ as.zip bs, q item.1 item.2 := by
  induction related with
  | nil => simp
  | cons here _ ih => simp [agree _ _ here, ih]

theorem asksOnlyDigest_iff (written : List.Forall₂ Holds values texts) :
    asksOnlyDigest texts = true ↔
      (∃ item ∈ values.zip texts, Leads "digest" item.1 item.2) ∧
        ¬ ∃ item ∈ values.zip texts, Leads "basic" item.1 item.2 := by
  rw [← exists_zip_iff written fun _ _ holds => holds.schemeOf_eq_iff (by decide),
    ← exists_zip_iff written fun _ _ holds => holds.schemeOf_eq_iff (by decide)]
  simp [asksOnlyDigest]

theorem offers_append {scheme : String} {first rest : List Challenge} :
    Offers scheme (first ++ rest) ↔ Offers scheme first ∨ Offers scheme rest := by
  simp only [Offers, List.mem_append, or_and_right, exists_or]

theorem offers_flatten_iff {scheme : String} (written : List.Forall₂ Holds values texts)
    (upfront : ∀ item ∈ values.zip texts, Offers scheme item.1 → Leads scheme item.1 item.2) :
    Offers scheme values.flatten ↔ ∃ item ∈ values.zip texts, Leads scheme item.1 item.2 := by
  induction written with
  | nil => simp [Offers]
  | @cons value text values texts holds written ih =>
    rw [List.zip_cons_cons, List.forall_mem_cons] at upfront
    simp only [List.flatten_cons, offers_append, List.zip_cons_cons, List.mem_cons,
      exists_eq_or_imp, ih upfront.2]
    exact or_congr_left ⟨upfront.1, Leads.offers⟩

theorem named_iff (written : List.Forall₂ Holds values texts) :
    unauthorizedReason status texts = digestReason status ↔
      (∃ item ∈ values.zip texts, Leads "digest" item.1 item.2) ∧
        ¬ ∃ item ∈ values.zip texts, Leads "basic" item.1 item.2 := by
  rw [← asksOnlyDigest_iff written, unauthorizedReason_eq]
  cases asksOnlyDigest texts with
  | false => simp [(digestReason_ne_plainReason status).symm]
  | true => simp

theorem diagnosed_of_upfront (written : List.Forall₂ Holds values texts)
    (upfront : ∀ item ∈ values.zip texts, ∀ scheme ∈ ["digest", "basic"],
      Offers scheme item.1 → Leads scheme item.1 item.2) : Diagnosed status values texts := by
  rw [Diagnosed, named_iff written, OnlyDigest,
    offers_flatten_iff written fun item mem => upfront item mem "digest" (by simp),
    offers_flatten_iff written fun item mem => upfront item mem "basic" (by simp)]

theorem upfront_of_single (written : List.Forall₂ Holds values texts)
    (single : ∀ value ∈ values, value.length = 1) {item : List Challenge × String}
    (mem : item ∈ values.zip texts) {scheme : String} (offers : Offers scheme item.1) :
    Leads scheme item.1 item.2 :=
  (List.forall₂_zip written mem).leads_of_single (single _ (List.of_mem_zip mem).1) offers

/-- The reason depends on the challenges with which the header values begin. -/
theorem unauthorizedReason_told (status : Nat) (written : List.Forall₂ Holds values texts) :
    ReasonTold status values texts where
  named := named_iff written
  plain := by
    rw [unauthorizedReason_eq]
    cases asksOnlyDigest texts with
    | false => simp [(digestReason_ne_plainReason status).symm]
    | true => simp [digestReason_ne_plainReason status]
  upfront := diagnosed_of_upfront written
  single := fun single =>
    diagnosed_of_upfront written fun _ mem _ _ => upfront_of_single written single mem

end

/-! ## Values with several challenges -/

def challengeFor (scheme : Token) (realm : String) : Challenge :=
  ⟨scheme, .params ⟨⟨"realm", by decide, by decide⟩, realm⟩ []⟩

def negotiate : Token := ⟨"Negotiate", by decide, by decide⟩

def digest : Token := ⟨"Digest", by decide, by decide⟩

def basic : Token := ⟨"Basic", by decide, by decide⟩

/-- A realm may have commas in it, and quotes. -/
theorem unauthorizedReason_told_of_two :
    ReasonTold 401 [[challengeFor digest "the \"roof\", north"], [challengeFor basic "gate"]]
      ["Digest realm=\"the \\\"roof\\\", north\"", "Basic realm=\"gate\""] :=
  unauthorizedReason_told 401
    (.cons (holds_of_eq (by decide +kernel)) (.cons (holds_of_eq (by decide +kernel)) .nil))

/-- Challenges in values of their own are diagnosed. In one value with commas between them, Basic is
overlooked behind Digest, and Digest behind another scheme. -/
theorem joined_misdiagnosed :
    let digestRealm := challengeFor digest "cam"
    let basicRealm := challengeFor basic "cam"
    let apart := ["Digest realm=\"cam\"", "Basic realm=\"cam\""]
    let joined := ["Digest realm=\"cam\", Basic realm=\"cam\""]
    let behind := ["Negotiate, Digest realm=\"cam\""]
    (List.Forall₂ Holds [[digestRealm], [basicRealm]] apart ∧
      unauthorizedReason 401 apart = plainReason 401) ∧
    (List.Forall₂ Holds [[digestRealm, basicRealm]] joined ∧
      unauthorizedReason 401 joined = digestReason 401 ∧
      ¬ Diagnosed 401 [[digestRealm, basicRealm]] joined) ∧
    (List.Forall₂ Holds [[⟨negotiate, .none⟩, digestRealm]] behind ∧
      unauthorizedReason 401 behind = plainReason 401 ∧
      ¬ Diagnosed 401 [[⟨negotiate, .none⟩, digestRealm]] behind) := by
  intro digestRealm basicRealm apart joined behind
  have named : unauthorizedReason 401 joined = digestReason 401 := by decide +kernel
  have unnamed : unauthorizedReason 401 behind = plainReason 401 := by decide +kernel
  have answerable : ¬ OnlyDigest [digestRealm, basicRealm] := by decide +kernel
  have unanswerable : OnlyDigest [⟨negotiate, .none⟩, digestRealm] := by decide +kernel
  refine ⟨⟨?_, by decide +kernel⟩, ⟨?_, named, ?_⟩, ⟨?_, unnamed, ?_⟩⟩
  · exact .cons (holds_of_eq (by decide +kernel)) (.cons (holds_of_eq (by decide +kernel)) .nil)
  · exact .cons (holds_of_eq (by decide +kernel)) .nil
  · exact fun diagnosed => answerable (diagnosed.1 named)
  · exact .cons (holds_of_eq (by decide +kernel)) .nil
  · intro diagnosed
    exact digestReason_ne_plainReason 401 ((diagnosed.2 unanswerable).symm.trans unnamed)

end CameraTelemetry.Camera
