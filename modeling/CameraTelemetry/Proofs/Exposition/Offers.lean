import CameraTelemetry.Proofs.Exposition.Rendering
import Mathlib.Data.List.Nodup

/-!
# Offers that are accepted

The first offer of a name decides about all later ones: an offer of the other kind is refused at
once, and one with other labels when the set is rendered. What is left of a name are the accepted
offers, and each of the others leaves one warning.
-/
namespace CameraTelemetry.Exposition

open Journal Number

/-- A call that offers a value to a metric set. Those without labels are the same with none. -/
inductive Offer
  | gauge (name help : String) (labels : Labels) (value : Binary64)
  | counter (name help : String) (labels : Labels) (value : UInt64)
deriving DecidableEq

namespace Offer

def observation : Offer → Observation
  | gauge name help labels value => .gauge name help labels value
  | counter name help labels value => .counter name help labels value

def name (o : Offer) : String := o.observation.name

def help (o : Offer) : String := o.observation.help

def kind (o : Offer) : Kind := o.observation.kind

def labels (o : Offer) : Labels := o.observation.labels

def labelNames (o : Offer) : List String := o.labels.map Prod.fst

def sample (o : Offer) : Sample := o.observation.sample

/-- The names are valid, those of the labels differ, and there is a help text. -/
structure Valid (o : Offer) : Prop where
  help : o.help ≠ ""
  name : isMetricName o.name = true
  labelNames : ∀ n ∈ o.labelNames, isLabelName n = true
  distinct : o.labelNames.Nodup

theorem valid_iff (o : Offer) : o.Valid ↔ o.help ≠ "" ∧ isMetricName o.name = true ∧
    (∀ n ∈ o.labelNames, isLabelName n = true) ∧ o.labelNames.Nodup :=
  ⟨fun valid => ⟨valid.help, valid.name, valid.labelNames, valid.distinct⟩,
    fun ⟨help, name, labelNames, distinct⟩ => ⟨help, name, labelNames, distinct⟩⟩

instance (o : Offer) : Decidable o.Valid := decidable_of_iff _ o.valid_iff.symm

end Offer

theorem checkLabelNames_eq_ok {names seen : List String} (valid : ∀ n ∈ names, isLabelName n = true)
    (distinct : names.Nodup) (new : ∀ n ∈ names, n ∉ seen) :
    checkLabelNames seen names = .ok () := by
  induction names generalizing seen with
  | nil => rfl
  | cons name names ih =>
    simp only [List.forall_mem_cons, List.nodup_cons] at valid distinct new
    have next : checkLabelNames (name :: seen) names = .ok () := by
      refine ih valid.2 distinct.2 fun n mem => ?_
      rw [List.mem_cons, not_or]
      exact ⟨fun same => distinct.1 (same ▸ mem), new.2 n mem⟩
    simp [checkLabelNames, valid.1, new.1, next]

theorem Offer.Valid.check {o : Offer} (valid : o.Valid) :
    o.observation.presentation.check = .ok () := by
  have help : o.observation.help.isEmpty = false := by simpa [Offer.help] using valid.help
  have name : isMetricName o.observation.name = true := valid.name
  have labels : checkLabelNames [] o.labelNames = .ok () :=
    checkLabelNames_eq_ok valid.labelNames valid.distinct fun n _ => List.not_mem_nil
  simp only [Presentation.check, Observation.presentation, help, name]
  exact labels

/-! ## Who is accepted -/

def first? (offers : List Offer) (name : String) : Option Offer :=
  offers.find? fun o => o.name == name

/-- The kind of an offer is not that of the first one of its name. -/
def clashes (offers : List Offer) (o : Offer) : Bool :=
  (first? offers o.name).any fun first => o.kind != first.kind

/-- The labels of an offer are not those of the first one of its name, in their order. -/
def strays (offers : List Offer) (o : Offer) : Bool :=
  (first? offers o.name).any fun first => o.kind == first.kind && o.labelNames != first.labelNames

/-- An offer is accepted if it has the kind and the labels of the first one of its name. -/
def accepts (offers : List Offer) (o : Offer) : Bool :=
  (first? offers o.name).any fun first => o.kind == first.kind && o.labelNames == first.labelNames

def accepted (offers : List Offer) (name : String) : List Offer :=
  offers.filter fun o => o.name == name && accepts offers o

def warning (offers : List Offer) (o : Offer) : Event :=
  droppedEvent o.name <| match first? offers o.name with
    | some first =>
      if o.kind = first.kind then "label names differ from the family"
      else "registered as " ++ first.kind.name
    | none => ""

/-- The set that was offered some values, with the warnings so far. -/
def collect (offers : List Offer) : MetricSet × List Event :=
  MetricSet.empty.addAll (offers.map Offer.observation)

section

variable {offers : List Offer} {o first : Offer} {name : String}

theorem first?_mem (found : first? offers name = some first) : first ∈ offers ∧ first.name = name :=
  ⟨List.mem_of_find?_eq_some found, by simpa using List.find?_some found⟩

theorem exists_first? (mem : o ∈ offers) : ∃ first, first? offers o.name = some first := by
  apply Option.isSome_iff_exists.1
  simpa [first?] using ⟨o, mem, rfl⟩

end

/-! ## The families -/

theorem foldl_grow_kind (f : Family) (observations : List Observation) :
    ∃ g, observations.foldl grow (some f) = some g ∧ g.kind = f.kind := by
  induction observations generalizing f with
  | nil => exact ⟨f, rfl, rfl⟩
  | cons o rest ih =>
    rw [List.foldl_cons, grow]
    split
    · exact ih _
    · exact ih f

/-- The first observation of a name makes a family, to which the samples of its kind are added. -/
theorem foldl_grow_first (o : Observation) (rest : List Observation) :
    (o :: rest).foldl grow none = some ⟨o.name, o.help, o.kind,
      ((o :: rest).filter fun o' => o'.kind == o.kind).map Observation.sample⟩ := by
  have grown (samples : List Sample) : rest.foldl grow (some ⟨o.name, o.help, o.kind, samples⟩) =
      some ⟨o.name, o.help, o.kind,
        samples ++ (rest.filter fun o' => o'.kind == o.kind).map Observation.sample⟩ := by
    induction rest generalizing samples with
    | nil => simp
    | cons o' rest ih =>
      rw [List.foldl_cons, grow]
      by_cases agree : o.kind = o'.kind
      · rw [if_pos agree, ih, List.filter_cons_of_pos (by simp [agree]), List.append_assoc]
        rfl
      · rw [if_neg agree, ih, List.filter_cons_of_neg (by simpa using Ne.symm agree)]
  rw [List.filter_cons_of_pos (p := fun o' : Observation => o'.kind == o.kind) (beq_self_eq_true _)]
  exact grown [o.sample]

theorem MetricSet.get?_of_mem {m : MetricSet} {f : Family}
    (distinct : (m.families.map (·.name)).Nodup) (mem : f ∈ m.families) :
    m.get? f.name = some f := by
  obtain ⟨g, found⟩ : ∃ g, m.get? f.name = some g := by
    apply Option.isSome_iff_exists.1
    simpa [get?] using ⟨f, mem, rfl⟩
  have listed := List.mem_of_find?_eq_some found
  have named : g.name = f.name := by simpa using List.find?_some found
  rw [found, List.inj_on_of_nodup_map distinct listed mem named]

/-- The family that an offer begins: the samples of its kind that are offered under its name. -/
def familyOf (offers : List Offer) (first : Offer) : Family :=
  ⟨first.name, first.help, first.kind,
    (offers.filter fun o => o.name == first.name && o.kind == first.kind).map Offer.sample⟩

section

variable {offers : List Offer} {name : String} {first : Offer}

/-- The family of a name is the one that its first offer begins. -/
theorem get?_collect (found : first? offers name = some first) :
    (collect offers).1.get? name = some (familyOf offers first) := by
  obtain rfl : first.name = name := (first?_mem found).2
  have own : (offers.map Offer.observation).filter (fun o => o.name == first.name) =
      (offers.filter fun o => o.name == first.name).map Offer.observation := List.filter_map
  have head := (List.head?_filter (p := fun o : Offer => o.name == first.name)).trans found
  obtain ⟨rest, parts⟩ := List.head?_eq_some_iff.1 head
  rw [collect, MetricSet.get?_addAll, own, parts, List.map_cons, MetricSet.get?, MetricSet.empty,
    List.find?_nil, foldl_grow_first, ← List.map_cons, ← parts, List.filter_map, List.map_map,
    List.filter_filter, familyOf]
  congr 3
  exact List.filter_congr fun o _ => Bool.and_comm ..

theorem get?_collect_eq_none (missing : first? offers name = none) :
    (collect offers).1.get? name = none := by
  have none : (offers.map Offer.observation).filter (fun o => o.name == name) = [] := by
    simpa [List.filter_eq_nil_iff, first?, Offer.name] using missing
  rw [collect, MetricSet.get?_addAll, none]
  rfl

theorem collect_nodup (offers : List Offer) : ((collect offers).1.families.map (·.name)).Nodup :=
  MetricSet.addAll_nodup (by simp [MetricSet.empty]) _

theorem mem_collect_iff {f : Family} :
    f ∈ (collect offers).1.families ↔
      ∃ first, first? offers first.name = some first ∧ f = familyOf offers first := by
  constructor
  · intro mem
    have known : (collect offers).1.get? f.name = some f :=
      MetricSet.get?_of_mem (collect_nodup offers) mem
    cases found : first? offers f.name with
    | none => simp [get?_collect_eq_none found] at known
    | some first =>
      rw [get?_collect found, Option.some.injEq] at known
      exact ⟨first, (first?_mem found).2.symm ▸ found, known.symm⟩
  · rintro ⟨first, found, rfl⟩
    exact (MetricSet.get?_mem (o := first.observation) (get?_collect found)).1

/-- The labels of a family are those of its first offer. -/
theorem labelNames_familyOf (found : first? offers first.name = some first) :
    (familyOf offers first).labelNames = first.labelNames := by
  obtain ⟨-, before, after, rfl, others⟩ := List.find?_eq_some_iff_append.1 found
  have none : before.filter (fun o => o.name == first.name && o.kind == first.kind) = [] := by
    simp only [List.filter_eq_nil_iff]
    intro o mem
    simpa using fun same => absurd same (by simpa using others o mem)
  simp [familyOf, Family.labelNames, none]
  rfl

end

/-! ## The warnings -/

/-- The warning about an observation of a kind that its family does not have. -/
def refusal (f : Option Family) (o : Observation) : List Event :=
  match f with
  | some f => if f.kind = o.kind then []
    else [droppedEvent o.name ("registered as " ++ f.kind.name)]
  | none => []

theorem refusal_foldl_grow (f : Family) (observations : List Observation) (o : Observation) :
    refusal (observations.foldl grow (some f)) o = refusal (some f) o := by
  obtain ⟨g, grown, kind⟩ := foldl_grow_kind f observations
  rw [grown, refusal, refusal, kind]

theorem add_events (m : MetricSet) (o : Observation) :
    ∃ f, grow (m.get? o.name) o = some f ∧ (m.add o).2 = refusal (some f) o := by
  cases found : m.get? o.name with
  | none => exact ⟨_, rfl, by simp [MetricSet.add, found, refusal]⟩
  | some f =>
    by_cases agree : f.kind = o.kind
    · exact ⟨_, if_pos agree, by simp [MetricSet.add, found, refusal, agree]⟩
    · exact ⟨_, if_neg agree, by simp [MetricSet.add, found, refusal, agree]⟩

/-- Each observation is judged by the family that its name has in the end. -/
theorem addAll_events (m : MetricSet) (observations : List Observation) :
    (m.addAll observations).2 =
      observations.flatMap fun o => refusal ((m.addAll observations).1.get? o.name) o := by
  induction observations generalizing m with
  | nil => rfl
  | cons o rest ih =>
    have last : (m.addAll (o :: rest)).1 = ((m.add o).1.addAll rest).1 := rfl
    have parts : (m.addAll (o :: rest)).2 = (m.add o).2 ++ ((m.add o).1.addAll rest).2 := rfl
    obtain ⟨f, grown, here⟩ := add_events m o
    rw [parts, last, ih, List.flatMap_cons, MetricSet.get?_addAll, MetricSet.get?_add, if_pos rfl,
      grown, refusal_foldl_grow, here]

theorem flatMap_ite {α β : Type} (p : α → Bool) (f : α → β) (l : List α) :
    (l.flatMap fun a => if p a then [f a] else []) = (l.filter p).map f := by
  induction l with
  | nil => rfl
  | cons a l ih => cases holds : p a <;> simp [holds, ih]

/-- An offer of the other kind is refused with its warning as it is made. -/
theorem collect_events (offers : List Offer) :
    (collect offers).2 = (offers.filter (clashes offers)).map (warning offers) := by
  rw [collect, addAll_events, List.flatMap_map, ← flatMap_ite]
  refine List.flatMap_congr fun o mem => ?_
  obtain ⟨first, found⟩ := exists_first? mem
  have family := get?_collect found
  rw [collect] at family
  have named : o.observation.name = o.name := rfl
  have kinds : o.observation.kind = o.kind := rfl
  rw [named, family, clashes, warning, found]
  by_cases same : first.kind = o.kind
  · simp [refusal, kinds, familyOf, same]
  · simp [refusal, kinds, familyOf, same, Ne.symm same, named]

section

variable {offers : List Offer} {first : Offer}

theorem check_familyOf (found : first? offers first.name = some first) (valid : first.Valid) :
    (familyOf offers first).check = .ok () := by
  rw [Family.check, labelNames_familyOf found]
  exact valid.check

theorem accepts_familyOf (found : first? offers first.name = some first) (o : Offer) :
    (familyOf offers first).accepts o.sample = (o.labelNames == first.labelNames) := by
  rw [Family.accepts, labelNames_familyOf found]
  rfl

/-- The samples of a family that are written are those of the accepted offers of its name. -/
theorem filter_accepts_familyOf (found : first? offers first.name = some first) :
    (familyOf offers first).samples.filter (familyOf offers first).accepts =
      (accepted offers first.name).map Offer.sample := by
  have samples : (familyOf offers first).samples =
    (offers.filter fun o => o.name == first.name && o.kind == first.kind).map Offer.sample := rfl
  rw [samples, List.filter_map, List.filter_filter, accepted]
  congr 1
  refine List.filter_congr fun o _ => ?_
  rw [Function.comp_apply, accepts_familyOf found]
  by_cases own : o.name = first.name
  · simp [accepts, own, found, Bool.and_comm]
  · simp [beq_false_of_ne own]

/-- The others of its kind leave their warnings. -/
theorem mislabelled_familyOf (found : first? offers first.name = some first) :
    (familyOf offers first).mislabelled =
      (offers.filter fun o => o.name == first.name && strays offers o).map (warning offers) := by
  have samples : (familyOf offers first).samples =
    (offers.filter fun o => o.name == first.name && o.kind == first.kind).map Offer.sample := rfl
  have strays : offers.filter (fun o => o.name == first.name && strays offers o) =
      offers.filter fun o => o.labelNames != first.labelNames &&
        (o.name == first.name && o.kind == first.kind) := by
    refine List.filter_congr fun o _ => ?_
    by_cases own : o.name = first.name
    · simp [Exposition.strays, own, found, Bool.and_comm]
    · simp [beq_false_of_ne own]
  rw [Family.mislabelled, samples, List.filter_map, List.filter_filter, List.map_map, strays]
  simp only [Function.comp_def, accepts_familyOf found]
  refine List.map_congr_left fun o mem => ?_
  obtain ⟨-, named, kind⟩ : _ ∧ o.name = first.name ∧ o.kind = first.kind := by
    simpa using (List.mem_filter.1 mem).2
  rw [warning, named, found]
  simp [kind, familyOf]

end

/-! ## As many warnings as offers that are not accepted -/

theorem registerAll_of_checks {families : List Family} (checks : ∀ f ∈ families, f.check = .ok ()) :
    registerAll families = (.ok (), families.flatMap Family.mislabelled) := by
  induction families with
  | nil => rfl
  | cons f rest ih =>
    simp only [List.forall_mem_cons] at checks
    simp [registerAll, checks.1, ih checks.2]

theorem render_collect {offers : List Offer} (valid : ∀ o ∈ offers, o.Valid) :
    (collect offers).1.render = (.ok (collect offers).1.text,
      (collect offers).1.families.flatMap Family.mislabelled) := by
  have checks : ∀ f ∈ (collect offers).1.families, f.check = .ok () := by
    intro f mem
    obtain ⟨first, found, rfl⟩ := mem_collect_iff.1 mem
    exact check_familyOf found (valid first (first?_mem found).1)
  rw [MetricSet.render, registerAll_of_checks checks]

/-- Items that are sorted by their keys are all there. -/
theorem flatMap_filter_perm {α κ : Type} [DecidableEq κ] (key : α → κ) {keys : List κ}
    (distinct : keys.Nodup) (l : List α) :
    (keys.flatMap fun k => l.filter fun a => key a == k).Perm
      (l.filter fun a => decide (key a ∈ keys)) := by
  induction keys with
  | nil => simp
  | cons k keys ih =>
    rw [List.nodup_cons] at distinct
    have own : (l.filter fun a => decide (key a ∈ k :: keys)).filter (fun a => key a == k) =
        l.filter fun a => key a == k := by
      rw [List.filter_filter]
      exact List.filter_congr fun a _ => by by_cases same : key a = k <;> simp [same]
    have others : (l.filter fun a => decide (key a ∈ k :: keys)).filter (fun a => !(key a == k)) =
        l.filter fun a => decide (key a ∈ keys) := by
      rw [List.filter_filter]
      refine List.filter_congr fun a _ => ?_
      by_cases same : key a = k
      · simp [same, distinct.1]
      · simp [same]
    have split := List.filter_append_perm (fun a => key a == k)
      (l.filter fun a => decide (key a ∈ k :: keys))
    rw [own, others] at split
    exact ((ih distinct.2).append_left _).trans split

theorem mislabelled_perm (offers : List Offer) :
    ((collect offers).1.families.flatMap Family.mislabelled).Perm
      ((offers.filter (strays offers)).map (warning offers)) := by
  have each : (collect offers).1.families.flatMap Family.mislabelled =
      (((collect offers).1.families.map (·.name)).flatMap fun name =>
        (offers.filter (strays offers)).filter fun o => o.name == name).map (warning offers) := by
    rw [List.flatMap_map, List.map_flatMap]
    refine List.flatMap_congr fun f mem => ?_
    obtain ⟨first, found, rfl⟩ := mem_collect_iff.1 mem
    rw [mislabelled_familyOf found, List.filter_filter]
    rfl
  have all : (offers.filter (strays offers)).filter (fun o =>
      decide (o.name ∈ (collect offers).1.families.map (·.name))) =
        offers.filter (strays offers) := by
    refine List.filter_eq_self.2 fun o mem => ?_
    obtain ⟨first, found⟩ := exists_first? (List.mem_filter.1 mem).1
    have listed := MetricSet.get?_mem (o := o.observation) (get?_collect found)
    exact decide_eq_true (List.mem_map.2 ⟨_, listed.1, listed.2⟩)
  have sorted :=
    flatMap_filter_perm Offer.name (collect_nodup offers) (offers.filter (strays offers))
  rw [all] at sorted
  rw [each]
  exact sorted.map _

/-- Every offer that is not accepted leaves one warning, and the accepted ones leave none. -/
theorem warnings_perm {offers : List Offer} (valid : ∀ o ∈ offers, o.Valid) :
    ((collect offers).2 ++ (collect offers).1.render.2).Perm
      ((offers.filter fun o => !accepts offers o).map (warning offers)) := by
  rw [collect_events, render_collect valid]
  refine ((mislabelled_perm offers).append_left _).trans ?_
  rw [← List.map_append]
  refine List.Perm.map _ ?_
  have refused : (offers.filter fun o => !accepts offers o).filter (clashes offers) =
      offers.filter (clashes offers) := by
    rw [List.filter_filter]
    refine List.filter_congr fun o mem => ?_
    obtain ⟨first, found⟩ := exists_first? mem
    by_cases kind : o.kind = first.kind <;> simp [clashes, accepts, found, kind]
  have dropped : (offers.filter fun o => !accepts offers o).filter (fun o => !clashes offers o) =
      offers.filter (strays offers) := by
    rw [List.filter_filter]
    refine List.filter_congr fun o mem => ?_
    obtain ⟨first, found⟩ := exists_first? mem
    by_cases kind : o.kind = first.kind
    · simp [clashes, strays, accepts, found, kind, bne]
    · simp [clashes, strays, found, beq_false_of_ne kind, kind]
  have split := List.filter_append_perm (clashes offers) (offers.filter fun o => !accepts offers o)
  rwa [refused, dropped] at split

end CameraTelemetry.Exposition
