import CameraTelemetry.Exposition.TextFormat
import CameraTelemetry.Proofs.Exposition.Collection

/-!
# Sets that have a text

A family keeps the name, the help text and the labels of the observation that began it. Observations
that agree about each name they use, and that use valid names, therefore make a set that can be
rendered and from which nothing is dropped; and each of its rows has a line in the text.
-/
namespace CameraTelemetry.Exposition

/-! ## What observations make of a set -/

/-- How an observation is presented: everything about it except its values. -/
structure Presentation where
  name : String
  help : String
  kind : Kind
  labelNames : List String
deriving DecidableEq, Repr

def Observation.presentation (o : Observation) : Presentation :=
  ⟨o.name, o.help, o.kind, o.labels.map Prod.fst⟩

def Presentation.check (p : Presentation) : Except RenderError Unit :=
  if p.help.isEmpty then .error .emptyHelp
  else if !isMetricName p.name then .error (.invalidMetricName p.name)
  else checkLabelNames [] p.labelNames

/-- What is observed under one name is presented in one way. -/
def Agreeing (observations : List Observation) : Prop :=
  ∀ o ∈ observations, ∀ o' ∈ observations, o.name = o'.name → o.presentation = o'.presentation

theorem Agreeing.subset {observations more : List Observation} (agree : Agreeing more)
    (part : observations ⊆ more) : Agreeing observations :=
  fun o mem o' mem' => agree o (part mem) o' (part mem')

def Observation.sample (o : Observation) : Sample := ⟨o.labels, o.value⟩

theorem foldl_grow_eq {o : Observation} {rest : List Observation}
    (kind : ∀ o' ∈ rest, o'.kind = o.kind) :
    (o :: rest).foldl grow none =
      some ⟨o.name, o.help, o.kind, (o :: rest).map Observation.sample⟩ := by
  have grown (samples : List Sample) : rest.foldl grow (some ⟨o.name, o.help, o.kind, samples⟩) =
      some ⟨o.name, o.help, o.kind, samples ++ rest.map Observation.sample⟩ := by
    induction rest generalizing samples with
    | nil => simp
    | cons o' rest ih =>
      simp only [List.forall_mem_cons] at kind
      rw [List.foldl_cons, grow, if_pos kind.1.symm, ih kind.2, List.append_assoc]
      rfl
  exact grown [o.sample]

/-- The family has been made of observations of its name, and began with this one. -/
structure Family.BegunBy (f : Family) (o : Observation) (seen : List Observation) : Prop where
  began : o ∈ seen
  name_eq : f.name = o.name
  help_eq : f.help = o.help
  kind_eq : f.kind = o.kind
  first : ∃ rest, f.samples = o.sample :: rest
  observed : ∀ s ∈ f.samples, ∃ o' ∈ seen, o'.name = f.name ∧ s = o'.sample

namespace Family.BegunBy

variable {f : Family} {o : Observation} {seen : List Observation}

theorem more {seen' : List Observation} (begun : f.BegunBy o seen) (part : seen ⊆ seen') :
    f.BegunBy o seen' :=
  { begun with
    began := part begun.began
    observed := fun s mem =>
      let ⟨o', mem', observed⟩ := begun.observed s mem
      ⟨o', part mem', observed⟩ }

theorem labelNames_eq (begun : f.BegunBy o seen) : f.labelNames = o.labels.map Prod.fst := by
  obtain ⟨rest, samples⟩ := begun.first
  simp [labelNames, samples, Observation.sample]

theorem check_eq (begun : f.BegunBy o seen) : f.check = o.presentation.check := by
  rw [Family.check, begun.help_eq, begun.name_eq, begun.labelNames_eq]
  rfl

/-- A sample of agreeing observations has the labels of its family. -/
theorem accepts (begun : f.BegunBy o seen) (agree : Agreeing seen) {s : Sample}
    (mem : s ∈ f.samples) : f.accepts s = true := by
  obtain ⟨o', mem', named, rfl⟩ := begun.observed s mem
  have same := agree o' mem' o begun.began (named.trans begun.name_eq)
  have labels : o'.labels.map Prod.fst = o.labels.map Prod.fst :=
    congrArg Presentation.labelNames same
  simp [Family.accepts, begun.labelNames_eq, Observation.sample, labels]

end Family.BegunBy

namespace MetricSet

def MadeOf (m : MetricSet) (seen : List Observation) : Prop :=
  ∀ f ∈ m.families, ∃ o, f.BegunBy o seen

theorem addTo_map_name (name : String) (sample : Sample) (families : List Family) :
    (addTo name sample families).map (·.name) = families.map (·.name) := by
  induction families with
  | nil => rfl
  | cons f rest ih =>
    rw [addTo]
    split
    · rfl
    · rw [List.map_cons, List.map_cons, ih]

theorem mem_addTo {name : String} {sample : Sample} {families : List Family} {f : Family}
    (mem : f ∈ addTo name sample families) :
    f ∈ families ∨
      ∃ g ∈ families, g.name = name ∧ f = { g with samples := g.samples ++ [sample] } := by
  induction families with
  | nil => simp [addTo] at mem
  | cons g rest ih =>
    rw [addTo] at mem
    split at mem
    case isTrue own =>
      rcases List.mem_cons.1 mem with rfl | later
      · exact .inr ⟨g, List.mem_cons_self, by simpa using own, rfl⟩
      · exact .inl (List.mem_cons_of_mem _ later)
    case isFalse other =>
      rcases List.mem_cons.1 mem with rfl | later
      · exact .inl List.mem_cons_self
      · rcases ih later with old | ⟨g', mem', grown⟩
        · exact .inl (List.mem_cons_of_mem _ old)
        · exact .inr ⟨g', List.mem_cons_of_mem _ mem', grown⟩

variable {m : MetricSet} {seen : List Observation} {o : Observation}

theorem get?_mem {f : Family} (found : m.get? o.name = some f) : f ∈ m.families ∧ f.name = o.name :=
  ⟨List.mem_of_find?_eq_some found, by simpa using List.find?_some found⟩

theorem MadeOf.add (made : m.MadeOf seen) (o : Observation) :
    (m.add o).1.MadeOf (seen ++ [o]) := by
  have part : seen ⊆ seen ++ [o] := List.subset_append_left ..
  have last : o ∈ seen ++ [o] := List.mem_append_right _ (List.mem_singleton_self o)
  unfold MetricSet.add
  split
  case h_1 new =>
    intro f mem
    rcases List.mem_append.1 mem with old | fresh
    · obtain ⟨o', begun⟩ := made f old
      exact ⟨o', begun.more part⟩
    · obtain rfl := List.mem_singleton.1 fresh
      refine ⟨o, last, rfl, rfl, rfl, ⟨[], rfl⟩, fun s mem => ⟨o, last, rfl, ?_⟩⟩
      exact List.mem_singleton.1 mem
  case h_2 g found =>
    split
    case isFalse conflict =>
      intro f mem
      obtain ⟨o', begun⟩ := made f mem
      exact ⟨o', begun.more part⟩
    case isTrue agree =>
      intro f mem
      rcases mem_addTo mem with old | ⟨g', mem', own, rfl⟩
      · obtain ⟨o', begun⟩ := made f old
        exact ⟨o', begun.more part⟩
      · obtain ⟨o', begun⟩ := made g' mem'
        obtain ⟨rest, samples⟩ := begun.first
        refine ⟨o', part begun.began, begun.name_eq, begun.help_eq, begun.kind_eq,
          ⟨rest ++ [⟨o.labels, o.value⟩], by simp [samples]⟩, fun s mem => ?_⟩
        rcases List.mem_append.1 mem with old | fresh
        · exact (begun.more part).observed s old
        · exact ⟨o, last, own.symm, List.mem_singleton.1 fresh⟩

theorem MadeOf.addAll (made : m.MadeOf seen) (observations : List Observation) :
    (m.addAll observations).1.MadeOf (seen ++ observations) := by
  induction observations generalizing m seen with
  | nil => simpa [MetricSet.addAll] using made
  | cons o rest ih =>
    have next := ih (made.add o)
    rwa [List.append_assoc, List.singleton_append] at next

theorem madeOf_empty : MetricSet.empty.MadeOf [] := by
  simp [MadeOf, MetricSet.empty]

/-- An observation that agrees with what was seen before is taken in without a warning. -/
theorem MadeOf.add_silent (made : m.MadeOf seen) (agree : Agreeing (seen ++ [o])) :
    (m.add o).2 = [] := by
  unfold MetricSet.add
  split
  case h_1 new => rfl
  case h_2 f found =>
    obtain ⟨mem, named⟩ := get?_mem found
    obtain ⟨o', begun⟩ := made f mem
    have same := agree o' (List.mem_append_left _ begun.began) o
      (List.mem_append_right _ (List.mem_singleton_self o)) (begun.name_eq.symm.trans named)
    have kind : f.kind = o.kind := begun.kind_eq.trans (congrArg Presentation.kind same)
    rw [if_pos kind]

theorem MadeOf.addAll_silent (made : m.MadeOf seen) {observations : List Observation}
    (agree : Agreeing (seen ++ observations)) : (m.addAll observations).2 = [] := by
  induction observations generalizing m seen with
  | nil => rfl
  | cons o rest ih =>
    have all : seen ++ o :: rest = seen ++ [o] ++ rest := by simp
    have here := made.add_silent (agree.subset (by simp) : Agreeing (seen ++ [o]))
    have later := ih (made.add o) (all ▸ agree)
    simp [MetricSet.addAll, here, later]

theorem add_nodup (distinct : (m.families.map (·.name)).Nodup) (o : Observation) :
    ((m.add o).1.families.map (·.name)).Nodup := by
  unfold MetricSet.add
  split
  case h_1 new =>
    have unused : o.name ∉ m.families.map (·.name) := by
      simpa [get?] using new
    simpa [List.nodup_append, distinct] using unused
  case h_2 f found =>
    split
    · simpa only [addTo_map_name] using distinct
    · exact distinct

/-- No two families go by one name. -/
theorem addAll_nodup (distinct : (m.families.map (·.name)).Nodup)
    (observations : List Observation) :
    ((m.addAll observations).1.families.map (·.name)).Nodup := by
  induction observations generalizing m with
  | nil => exact distinct
  | cons o rest ih => exact ih (add_nodup distinct o)

end MetricSet

/-! ## Rendering -/

/-- A set whose registration has no reason to fail: the names in it are valid, no two families go by
one name, and every sample has as many labels as its family. -/
structure Registrable (m : MetricSet) : Prop where
  checks : ∀ f ∈ m.families, f.check = .ok ()
  distinct : (m.families.map (·.name)).Nodup
  accepts : ∀ f ∈ m.families, ∀ s ∈ f.samples, f.accepts s = true

theorem registrable_addAll {observations : List Observation} (agree : Agreeing observations)
    (valid : ∀ o ∈ observations, o.presentation.check = .ok ()) :
    Registrable (MetricSet.empty.addAll observations).1 := by
  have made : (MetricSet.empty.addAll observations).1.MadeOf observations :=
    MetricSet.madeOf_empty.addAll observations
  constructor
  case checks =>
    intro f mem
    obtain ⟨o, begun⟩ := made f mem
    rw [begun.check_eq, valid o begun.began]
  case distinct => exact MetricSet.addAll_nodup (by simp [MetricSet.empty]) observations
  case accepts =>
    intro f mem s listed
    obtain ⟨o, begun⟩ := made f mem
    exact begun.accepts agree listed

theorem Family.mislabelled_eq_nil {f : Family} (accepts : ∀ s ∈ f.samples, f.accepts s = true) :
    f.mislabelled = [] := by
  simpa [mislabelled, List.filter_eq_nil_iff] using accepts

theorem registerAll_eq {families : List Family} (checks : ∀ f ∈ families, f.check = .ok ())
    (accepts : ∀ f ∈ families, ∀ s ∈ f.samples, f.accepts s = true) :
    registerAll families = (.ok (), []) := by
  induction families with
  | nil => rfl
  | cons f rest ih =>
    simp only [List.forall_mem_cons] at checks accepts
    simp [registerAll, checks.1, ih checks.2 accepts.2, f.mislabelled_eq_nil accepts.1]

/-- A set that can be registered has a text, and nothing is left out of it. -/
theorem Registrable.render_eq {m : MetricSet} (registrable : Registrable m) :
    m.render = (.ok m.text, []) := by
  rw [MetricSet.render, registerAll_eq registrable.checks registrable.accepts]

/-! ## Lines -/

def Shows (text piece : String) : Prop := ∃ before after, text = before ++ piece ++ after

theorem Shows.trans {text piece part : String} (outer : Shows text piece)
    (inner : Shows piece part) : Shows text part := by
  obtain ⟨before, after, rfl⟩ := outer
  obtain ⟨before', after', rfl⟩ := inner
  exact ⟨before ++ before', after' ++ after, by simp [String.append_assoc]⟩

theorem shows_append (before piece : String) : Shows (before ++ piece) piece :=
  ⟨before, "", by simp⟩

theorem shows_join {pieces : List String} {piece : String} (mem : piece ∈ pieces) :
    Shows (String.join pieces) piece := by
  obtain ⟨before, after, rfl⟩ := List.append_of_mem mem
  exact ⟨String.join before, String.join after, by
    simp [String.join_append, String.join_cons, String.append_assoc]⟩

theorem shows_family {m : MetricSet} {f : Family} (mem : f ∈ m.families) : Shows m.text f.text :=
  shows_join (List.mem_map_of_mem ((List.mergeSort_perm ..).mem_iff.2 mem))

/-- A label value without quotes, backslashes and line ends is written as it is. -/
theorem escapeValue_eq_self {s : String}
    (plain : ∀ c ∈ s.toList, c ≠ '\\' ∧ c ≠ '\n' ∧ c ≠ '"') : escapeValue s = s := by
  refine Text.foldl_verbatim fun c mem => ?_
  obtain ⟨backslash, lineEnd, quote⟩ := plain c mem
  rw [if_neg backslash, if_neg lineEnd, if_neg quote]

/-- Every row of a family has its line, with the labels in the order of their names. -/
theorem shows_row {f : Family} {r : Row} (mem : r ∈ f.rows) :
    Shows f.text (Row.line f.name { r with labels := sortLabels r.labels }) := by
  have sorted : { r with labels := sortLabels r.labels } ∈ sortRows f.rows :=
    (List.mergeSort_perm ..).mem_iff.2 (List.mem_map.2 ⟨r, mem, rfl⟩)
  exact (shows_append ..).trans (shows_join (List.mem_map_of_mem sorted))

theorem addRow_of_new {kind : Kind} {s : Sample} {rows : List Row}
    (new : ∀ r ∈ rows, sampleKey r.labels ≠ sampleKey s.labels) :
    addRow kind s rows = rows ++ [Row.add kind s ⟨s.labels, 0, 0⟩] := by
  induction rows with
  | nil => rfl
  | cons r rest ih =>
    simp only [List.forall_mem_cons] at new
    rw [addRow, if_neg (by simpa using new.1), ih new.2, List.cons_append]

/-- Samples that differ in their label values have a row each. -/
theorem foldl_addRow {kind : Kind} {samples : List Sample} {rows : List Row}
    (distinct : (samples.map fun s => sampleKey s.labels).Nodup)
    (new : ∀ s ∈ samples, ∀ r ∈ rows, sampleKey r.labels ≠ sampleKey s.labels) :
    samples.foldl (fun rows s => addRow kind s rows) rows =
      rows ++ samples.map fun s => Row.add kind s ⟨s.labels, 0, 0⟩ := by
  induction samples generalizing rows with
  | nil => simp
  | cons s rest ih =>
    simp only [List.map_cons, List.nodup_cons, List.forall_mem_cons] at distinct new
    have labels : (Row.add kind s ⟨s.labels, 0, 0⟩).labels = s.labels := by
      cases kind <;> rfl
    rw [List.foldl_cons, addRow_of_new new.1, ih distinct.2]
    · simp
    · intro t mem r listed
      rcases List.mem_append.1 listed with old | fresh
      · exact new.2 t mem r old
      · obtain rfl := List.mem_singleton.1 fresh
        intro same
        refine distinct.1 (List.mem_map.2 ⟨t, mem, ?_⟩)
        rw [← same, labels]

theorem Family.rows_eq_map {f : Family} (accepts : ∀ s ∈ f.samples, f.accepts s = true)
    (distinct : (f.samples.map fun s => sampleKey s.labels).Nodup) :
    f.rows = f.samples.map fun s => Row.add f.kind s ⟨s.labels, 0, 0⟩ := by
  rw [rows, List.filter_eq_self.2 accepts, foldl_addRow distinct (by simp), List.nil_append]

/-- Gauges that differ in their label values show these values. -/
theorem Family.rows_eq_of_distinct {f : Family} (gauge : f.kind = .gauge)
    (accepts : ∀ s ∈ f.samples, f.accepts s = true)
    (distinct : (f.samples.map fun s => sampleKey s.labels).Nodup) :
    f.rows = f.samples.map fun s => ⟨s.labels, 0, s.value⟩ := by
  rw [rows_eq_map accepts distinct, gauge]
  rfl

end CameraTelemetry.Exposition
