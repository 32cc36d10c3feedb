import CameraTelemetry.Proofs.Exposition.Lines
import CameraTelemetry.Proofs.Exposition.Offers
import CameraTelemetry.Proofs.Exposition.Rows
import CameraTelemetry.Proofs.Number.WrittenForm
import Mathlib.Algebra.Order.BigOperators.Group.List
import Mathlib.Algebra.Order.Group.Nat

/-!
# A text tells what was accepted

Each name that was offered has its family in the text, in the order of the names and presented as
by the first offer of it. Accepted offers share a line if their label values, written one after the
other, are the same; where this is so only for the same label values, every accepted tuple of them
has a line of its own, with the last value of a gauge and the sum of a counter.
-/
namespace CameraTelemetry.Exposition

open Number

/-- What is added to a counter. -/
def Offer.count : Offer → Nat
  | .gauge .. => 0
  | .counter _ _ _ value => value.toNat

/-- What some offers of a kind show together: gauges the last value, and counters the sum. -/
def shownValue (kind : Kind) (same : List Offer) : String :=
  match kind with
  | .gauge => (same.getLast?.map fun o => o.sample.value.plain).getD ""
  | .counter => toString (same.map Offer.count).sum

/-- The line of some offers that go into one row with these labels. -/
def lineOf (name : String) (kind : Kind) (labels : Labels) (same : List Offer) : String :=
  name ++ labelsText (sortLabels labels) ++ " " ++ shownValue kind same ++ "\n"

def heading (first : Offer) : String :=
  "# HELP " ++ first.name ++ " " ++ escapeHelp first.help ++ "\n"
    ++ "# TYPE " ++ first.name ++ " " ++ first.kind.name ++ "\n"

/-- A text has a heading and then a line for each group of offers whose labels are alike, with the
labels of the first offer of the group. No two lines are the same. -/
def LinesBy (alike : Labels → Labels → Bool) (first : Offer) (own : List Offer) (text : String) :
    Prop :=
  ∃ (shown : List Labels) (lines : List String),
    (∀ labels, labels ∈ shown ↔
      ∃ o, own.find? (fun o => alike o.labels labels) = some o ∧ o.labels = labels) ∧
    lines = shown.map (fun labels =>
      lineOf first.name first.kind labels (own.filter fun o => alike o.labels labels)) ∧
    lines.Nodup ∧ text = heading first ++ String.join lines

def sameKey (labels labels' : Labels) : Bool := sampleKey labels == sampleKey labels'

/-- What the text of a family tells of the accepted offers of its name. -/
structure FamilyTold (first : Offer) (own : List Offer) (text : String) : Prop where
  by_key : LinesBy sameKey first own text
  /-- Where keys tell label values apart, there is a line for each accepted tuple of them. -/
  by_labels : (∀ o ∈ own, ∀ o' ∈ own, sampleKey o.labels = sampleKey o'.labels →
    o.labels = o'.labels) → LinesBy (· == ·) first own text

/-- What holds of a set that was offered some values and is then rendered. -/
structure RenderingTold (offers : List Offer) : Prop where
  /-- Each offer that is not accepted leaves one warning, and nothing else leaves one. -/
  warned : ((collect offers).2 ++ (collect offers).1.render.2).Perm
    ((offers.filter fun o => !accepts offers o).map (warning offers))
  /-- There is a text, with one family for each name, in the order of the names. -/
  rendered : ∃ (firsts : List Offer) (text : Offer → String),
    (firsts.map Offer.name).Pairwise (· < ·) ∧
    (∀ o, o ∈ firsts ↔ first? offers o.name = some o) ∧
    (collect offers).1.render.1 = .ok (String.join (firsts.map text)) ∧
    ∀ first ∈ firsts, FamilyTold first (accepted offers first.name) (text first)

/-! ## Values -/

theorem count_filter_le (p : Offer → Bool) (offers : List Offer) :
    ((offers.filter p).map Offer.count).sum ≤ (offers.map Offer.count).sum :=
  (List.filter_sublist.map Offer.count).sum_le_sum fun _ _ => Nat.zero_le _

theorem plain_ofNat_le {n : Nat} (le : n ≤ 2 ^ 53) : (Binary64.ofNat n).plain = toString n := by
  rcases Nat.lt_or_eq_of_le le with small | rfl
  · exact Binary64.plain_ofNat small
  -- The bound itself is the first whole number with no other beside it.
  · decide +kernel

section

variable {offers same : List Offer} {first : Offer} {name : String} {o : Offer}

theorem mem_accepted_iff (found : first? offers name = some first) :
    o ∈ accepted offers name ↔
      o ∈ offers ∧ o.name = name ∧ o.kind = first.kind ∧ o.labelNames = first.labelNames := by
  simp only [accepted, List.mem_filter, Bool.and_eq_true, beq_iff_eq]
  refine and_congr_right fun _ => and_congr_right fun own => ?_
  rw [accepts, own, found]
  simp

theorem gather_value {kind : Kind} (labels : Labels) (some : same ≠ [])
    (kinds : ∀ o ∈ same, o.kind = kind) (small : (same.map Offer.count).sum ≤ 2 ^ 53) :
    (Row.gather kind labels (same.map Offer.sample)).value.plain = shownValue kind same := by
  cases kind with
  | gauge =>
    have ends : same.getLast? = Option.some (same.getLast some) :=
      List.getLast?_eq_some_getLast some
    have sampled : (same.map Offer.sample).getLast? = Option.some (same.getLast some).sample := by
      rw [List.getLast?_map, ends, Option.map_some]
    rw [Row.gather_gauge labels sampled, shownValue, ends]
    rfl
  | counter =>
    have counts : same.map (fun o => o.sample.value.toCount) = same.map Offer.count := by
      refine List.map_congr_left fun o mem => ?_
      have fits : o.count ≤ 2 ^ 53 :=
        Nat.le_trans (List.le_sum_of_mem (List.mem_map_of_mem mem)) small
      cases o with
      | gauge => cases kinds _ mem
      | counter name help labels value => exact Binary64.toCount_ofNat fits
    rw [Row.gather_counter labels (by simpa using some), List.map_map, Function.comp_def, counts,
      Nat.mod_eq_of_lt (by omega), plain_ofNat_le small, shownValue]

/-! ## One family -/

def Family.written (f : Family) : List Row :=
  f.rows.mergeSort fun a b =>
    valuesLe ((sortLabels a.labels).map Prod.snd) ((sortLabels b.labels).map Prod.snd)

theorem sortRows_eq (f : Family) :
    sortRows f.rows = f.written.map fun r => { r with labels := sortLabels r.labels } := by
  rw [sortRows, Family.written]
  symm
  apply List.map_mergeSort
  exact fun _ _ _ _ => rfl

theorem Family.text_eq (f : Family) :
    f.text = "# HELP " ++ f.name ++ " " ++ escapeHelp f.help ++ "\n"
      ++ "# TYPE " ++ f.name ++ " " ++ f.kind.name ++ "\n"
      ++ String.join ((sortRows f.rows).map (Row.line f.name)) := rfl

/-- A written row is made of the accepted offers of its key. -/
theorem written_familyOf (found : first? offers first.name = some first) :
    Rowed first.kind ((accepted offers first.name).map Offer.sample)
      (familyOf offers first).written := by
  have rowed := (familyOf offers first).rowed
  rw [filter_accepts_familyOf found] at rowed
  exact rowed.perm (List.mergeSort_perm ..)

/-- A row is made of the offers of its key, and has the labels of the first of them. -/
theorem Row.Made.of_offers {kind : Kind} {offers : List Offer} {r : Row}
    (made : r.Made kind (offers.map Offer.sample)) :
    ∃ o, offers.find? (fun o => sampleKey o.labels == r.key) = some o ∧ r.labels = o.labels ∧
      r = Row.gather kind r.labels
        ((offers.filter fun o => sampleKey o.labels == r.key).map Offer.sample) := by
  obtain ⟨s, found, gathered⟩ := made
  rw [List.find?_map] at found
  obtain ⟨o, first, rfl⟩ := Option.map_eq_some_iff.1 found
  have labels : r.labels = o.labels := by
    rw [gathered, Row.gather_labels]
    rfl
  refine ⟨o, first, labels, ?_⟩
  rw [List.filter_map] at gathered
  rw [labels]
  exact gathered

section

variable {r : Row}

theorem labelNames_of_written (found : first? offers first.name = some first)
    (mem : r ∈ (familyOf offers first).written) : r.labels.map Prod.fst = first.labelNames := by
  obtain ⟨o, own, labels, -⟩ := ((written_familyOf found).made r mem).of_offers
  rw [labels]
  exact ((mem_accepted_iff found).1 (List.mem_of_find?_eq_some own)).2.2.2

theorem line_of_written (found : first? offers first.name = some first)
    (small : ((accepted offers first.name).map Offer.count).sum ≤ 2 ^ 53)
    (mem : r ∈ (familyOf offers first).written) :
    Row.line first.name { r with labels := sortLabels r.labels } =
      lineOf first.name first.kind r.labels
        ((accepted offers first.name).filter fun o => sameKey o.labels r.labels) := by
  obtain ⟨o, own, labels, gathered⟩ := ((written_familyOf found).made r mem).of_offers
  have value : r.value.plain = shownValue first.kind
      ((accepted offers first.name).filter fun o => sameKey o.labels r.labels) := by
    refine (congrArg (fun r : Row => r.value.plain) gathered).trans (gather_value _ ?_ ?_ ?_)
    · refine List.ne_nil_of_mem (List.mem_filter.2 ⟨List.mem_of_find?_eq_some own, ?_⟩)
      exact List.find?_some (p := fun o : Offer => sampleKey o.labels == r.key) own
    · intro o mem
      exact ((mem_accepted_iff found).1 (List.mem_filter.1 mem).1).2.2.1
    · exact Nat.le_trans (count_filter_le _ _) small
  rw [Row.line, value]
  rfl

/-- No two rows are written alike. -/
theorem line_of_written_injective {r' : Row} (found : first? offers first.name = some first)
    (valid : first.Valid) (mem : r ∈ (familyOf offers first).written)
    (mem' : r' ∈ (familyOf offers first).written)
    (same : Row.line first.name { r with labels := sortLabels r.labels } =
      Row.line first.name { r' with labels := sortLabels r'.labels }) : r = r' := by
  have named := labelNames_of_written found mem
  have names : r.labels.map Prod.fst = r'.labels.map Prod.fst :=
    named.trans (labelNames_of_written found mem').symm
  have sorted : sortLabels r.labels = sortLabels r'.labels :=
    Row.line_injective (sortLabels_map_fst names) same
  have labels : r.labels = r'.labels :=
    sortLabels_injective names (named ▸ valid.distinct) sorted
  exact List.inj_on_of_nodup_map (written_familyOf found).distinct mem mem'
    (congrArg sampleKey labels)

end

theorem linesBy_sameKey (found : first? offers first.name = some first) (valid : first.Valid)
    (small : ((accepted offers first.name).map Offer.count).sum ≤ 2 ^ 53) :
    LinesBy sameKey first (accepted offers first.name) (familyOf offers first).text := by
  have rowed := written_familyOf found
  refine ⟨(familyOf offers first).written.map Row.labels,
    (familyOf offers first).written.map fun r =>
      Row.line first.name { r with labels := sortLabels r.labels },
    fun labels => ⟨?_, ?_⟩, ?_, ?_, ?_⟩
  · intro mem
    obtain ⟨r, listed, rfl⟩ := List.mem_map.1 mem
    obtain ⟨o, own, labels, -⟩ := (rowed.made r listed).of_offers
    exact ⟨o, own, labels.symm⟩
  · rintro ⟨o, own, rfl⟩
    have listed := rowed.covered o.sample (List.mem_map_of_mem (List.mem_of_find?_eq_some own))
    obtain ⟨r, mem, key⟩ := List.mem_map.1 listed
    obtain ⟨o', own', labels, -⟩ := (rowed.made r mem).of_offers
    have same : o' = o := by
      rw [key] at own'
      exact Option.some.inj (own'.symm.trans own)
    exact List.mem_map.2 ⟨r, mem, same ▸ labels⟩
  · rw [List.map_map]
    exact List.map_congr_left fun r mem => line_of_written found small mem
  · exact List.Nodup.map_on
      (fun r mem r' mem' => line_of_written_injective found valid mem mem') rowed.distinct.of_map
  · rw [Family.text_eq, sortRows_eq, List.map_map]
    rfl

/-- Only how the labels of the offers compare with each other matters. -/
theorem LinesBy.congr {alike alike' : Labels → Labels → Bool} {own : List Offer} {text : String}
    (lined : LinesBy alike first own text)
    (agree : ∀ o ∈ own, ∀ o' ∈ own, alike o.labels o'.labels = alike' o.labels o'.labels) :
    LinesBy alike' first own text := by
  have groups (o' : Offer) (mem : o' ∈ own) :
      own.filter (fun o => alike o.labels o'.labels) =
        own.filter fun o => alike' o.labels o'.labels :=
    List.filter_congr fun o listed => agree o listed o' mem
  have heads (o' : Offer) (mem : o' ∈ own) :
      own.find? (fun o => alike o.labels o'.labels) =
        own.find? fun o => alike' o.labels o'.labels := by
    rw [← List.head?_filter, groups o' mem, List.head?_filter]
  obtain ⟨shown, lines, listed, written, distinct, joined⟩ := lined
  refine ⟨shown, lines, fun labels => (listed labels).trans ?_, written.trans ?_, distinct, joined⟩
  · constructor
    · rintro ⟨o, found, rfl⟩
      exact ⟨o, heads o (List.mem_of_find?_eq_some found) ▸ found, rfl⟩
    · rintro ⟨o, found, rfl⟩
      exact ⟨o, (heads o (List.mem_of_find?_eq_some found)).symm ▸ found, rfl⟩
  · refine List.map_congr_left fun labels mem => ?_
    obtain ⟨o, found, rfl⟩ := (listed labels).1 mem
    rw [groups o (List.mem_of_find?_eq_some found)]

theorem LinesBy.of_keys_apart {own : List Offer} {text : String}
    (lined : LinesBy sameKey first own text)
    (apart : ∀ o ∈ own, ∀ o' ∈ own, sampleKey o.labels = sampleKey o'.labels →
      o.labels = o'.labels) : LinesBy (· == ·) first own text := by
  refine lined.congr fun o mem o' mem' => ?_
  rw [sameKey, Bool.eq_iff_iff, beq_iff_eq, beq_iff_eq]
  exact ⟨apart o mem o' mem', congrArg sampleKey⟩

/-- Each accepted tuple has its line in the text. -/
theorem LinesBy.shows {own : List Offer} {text : String} (lined : LinesBy (· == ·) first own text)
    (mem : o ∈ own) : Shows text (lineOf first.name first.kind o.labels
      (own.filter fun o' => o'.labels == o.labels)) := by
  obtain ⟨shown, lines, listed, written, -, joined⟩ := lined
  obtain ⟨o', found⟩ : ∃ o', own.find? (fun o' => o'.labels == o.labels) = some o' := by
    apply Option.isSome_iff_exists.1
    simpa using ⟨o, mem, rfl⟩
  have known : o.labels ∈ shown := (listed _).2 ⟨o', found, by simpa using List.find?_some found⟩
  rw [joined, written]
  exact (shows_append ..).trans (shows_join (List.mem_map.2 ⟨_, known, rfl⟩))

end

/-! ## The families in the text -/

def MetricSet.written (m : MetricSet) : List Family :=
  m.families.mergeSort fun a b => decide (a.name ≤ b.name)

section

variable {offers : List Offer}

theorem mem_written_iff {f : Family} :
    f ∈ (collect offers).1.written ↔
      ∃ first, first? offers first.name = some first ∧ f = familyOf offers first :=
  (List.mergeSort_perm ..).mem_iff.trans mem_collect_iff

/-- The names go up, without one coming twice. -/
theorem written_ascending (offers : List Offer) :
    ((collect offers).1.written.map (·.name)).Pairwise (· < ·) := by
  have sorted : ((collect offers).1.written.map (·.name)).Pairwise (· ≤ ·) := by
    refine List.pairwise_map.2 ((List.pairwise_mergeSort ?_ ?_ _).imp of_decide_eq_true)
    · intro a b c le le'
      exact decide_eq_true (String.le_trans (of_decide_eq_true le) (of_decide_eq_true le'))
    · intro a b
      simpa using String.le_total a.name b.name
  have distinct : ((collect offers).1.written.map (·.name)).Nodup :=
    (((List.mergeSort_perm ..).map _).nodup_iff).2 (collect_nodup offers)
  refine (sorted.and distinct).imp fun ⟨le, ne⟩ => ?_
  exact String.not_le.1 fun ge => ne (String.le_antisymm le ge)

/-- The families are those that the first offers of the names begin. -/
theorem exists_firsts (offers : List Offer) :
    ∃ firsts : List Offer, firsts.map (familyOf offers) = (collect offers).1.written ∧
      ∀ o, o ∈ firsts ↔ first? offers o.name = some o := by
  refine ⟨(collect offers).1.written.filterMap fun f => first? offers f.name, ?_, fun o => ?_⟩
  · rw [List.map_filterMap]
    refine (List.filterMap_congr fun f mem => ?_).trans List.filterMap_some
    obtain ⟨first, found, rfl⟩ := mem_written_iff.1 mem
    have named : (familyOf offers first).name = first.name := rfl
    rw [named, found, Option.map_some]
  · rw [List.mem_filterMap]
    constructor
    · rintro ⟨f, -, found⟩
      exact (first?_mem found).2.symm ▸ found
    · intro found
      exact ⟨familyOf offers o, mem_written_iff.2 ⟨o, found, rfl⟩, found⟩

/-- Rendering tells what was accepted, and warns of the rest. -/
theorem render_told (valid : ∀ o ∈ offers, o.Valid)
    (small : ∀ name, ((accepted offers name).map Offer.count).sum ≤ 2 ^ 53) :
    RenderingTold offers where
  warned := warnings_perm valid
  rendered := by
    obtain ⟨firsts, families, listed⟩ := exists_firsts offers
    refine ⟨firsts, fun first => (familyOf offers first).text, ?_, listed, ?_, fun first mem => ?_⟩
    · have ascending := written_ascending offers
      rw [← families, List.map_map] at ascending
      exact ascending
    · have text : (collect offers).1.text =
          String.join ((collect offers).1.written.map Family.text) := rfl
      rw [render_collect valid, text, ← families, List.map_map]
      rfl
    · have found := (listed first).1 mem
      have lined := linesBy_sameKey found (valid first (first?_mem found).1) (small first.name)
      exact ⟨lined, lined.of_keys_apart⟩

/-- Some of these offers are not accepted. -/
theorem render_told_of_mixed : RenderingTold
    [.gauge "m" "h" [("a", "x")] 1, .counter "m" "h" [] 2, .counter "n" "h" [] 3,
      .gauge "m" "h" [("b", "x")] 4, .gauge "m" "h" [("a", "x")] 5, .counter "n" "h" [] 6] :=
  render_told (by decide +kernel) fun _ => Nat.le_trans (count_filter_le _ _) (by decide)

/-- Two tuples of label values which are the same when written one after the other share a line, and
no warning tells of it. -/
theorem tuples_merged :
    let first : Offer := .gauge "m" "h" [("a", "x"), ("b", "yz")] 1
    let second : Offer := .gauge "m" "h" [("a", "xy"), ("b", "z")] 2
    let text := "# HELP m h\n# TYPE m gauge\nm\x7ba=\"x\",b=\"yz\"\x7d 2\n"
    (∀ o ∈ [first, second], o.Valid) ∧ accepted [first, second] "m" = [first, second] ∧
      (collect [first, second]).2 = [] ∧ (collect [first, second]).1.render = (.ok text, []) ∧
      ¬ LinesBy (· == ·) first [first, second] text := by
  intro first second text
  have valid : ∀ o ∈ [first, second], o.Valid := by decide +kernel
  have inOrder (one other : String) :
      sortLabels [("a", one), ("b", other)] = [("a", one), ("b", other)] :=
    List.mergeSort_of_pairwise (by simp)
  have x : escapeValue "x" = "x" := escapeValue_eq_self (by simp)
  have yz : escapeValue "yz" = "yz" := escapeValue_eq_self (by simp)
  have xy : escapeValue "xy" = "xy" := escapeValue_eq_self (by simp)
  have z : escapeValue "z" = "z" := escapeValue_eq_self (by simp)
  have help : escapeHelp "h" = "h" := Text.foldl_verbatim (by simp)
  have two : (2 : Binary64).plain = "2" := by decide +kernel
  refine ⟨valid, by decide +kernel, by decide +kernel, ?_, fun told => ?_⟩
  · let f : Family := ⟨"m", "h", .gauge,
      [⟨[("a", "x"), ("b", "yz")], 1⟩, ⟨[("a", "xy"), ("b", "z")], 2⟩]⟩
    have families : (collect [first, second]).1.families = [f] := by decide +kernel
    have complete : f.mislabelled = [] := by decide +kernel
    have rows : f.rows = [⟨[("a", "x"), ("b", "yz")], 0, 2⟩] := by decide +kernel
    rw [render_collect valid, MetricSet.text, families, List.mergeSort_singleton]
    simp only [List.map_cons, List.map_nil, List.flatMap_cons, List.flatMap_nil, complete,
      Family.text_eq, sortRows, rows, inOrder, List.mergeSort_singleton, Row.line, labelsText, f,
      help, x, yz, two]
    rfl
  · have lost : lineOf "m" .gauge [("a", "xy"), ("b", "z")] [second] =
        "m\x7ba=\"xy\",b=\"z\"\x7d 2\n" := by
      simp only [lineOf, shownValue, labelsText, inOrder, List.map_cons, List.map_nil, xy, z]
      decide +kernel
    have own : [first, second].filter (fun o => o.labels == second.labels) = [second] := by
      decide +kernel
    have line := told.shows (o := second) (by simp)
    rw [own] at line
    obtain ⟨before, after, split⟩ : Shows text "m\x7ba=\"xy\",b=\"z\"\x7d 2\n" := lost ▸ line
    have part : "m\x7ba=\"xy\",b=\"z\"\x7d 2\n".toList <:+: text.toList :=
      ⟨before.toList, after.toList, by rw [split, String.toList_append, String.toList_append]⟩
    exact absurd part (by decide +kernel)

end

end CameraTelemetry.Exposition
