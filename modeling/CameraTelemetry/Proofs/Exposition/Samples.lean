import CameraTelemetry.Proofs.Exposition.Rendering

/-!
# The samples of a metric

Observations that agree about each name they use make a set in which a metric has exactly their
samples, in order, and is left out where there are none.
-/
namespace CameraTelemetry.Exposition

namespace MetricSet

/-- The kind and the samples of a metric, if a set has it. -/
def metric? (m : MetricSet) (name : String) : Option (Kind × List Sample) :=
  (m.get? name).map fun f => (f.kind, f.samples)

theorem metric?_eq_some_iff {m : MetricSet} {name : String} {kind : Kind} {samples : List Sample} :
    m.metric? name = some (kind, samples) ↔
      ∃ f, m.get? name = some f ∧ f.kind = kind ∧ f.samples = samples := by
  simp [metric?]

end MetricSet

/-- What observations of one name show. -/
def metricOf : List Observation → Option (Kind × List Sample)
  | [] => none
  | o :: rest => some (o.kind, (o :: rest).map Observation.sample)

/-- Agreeing observations show under a name what those of that name show. -/
theorem MetricSet.metric?_addAll {observations : List Observation} (agree : Agreeing observations)
    (name : String) :
    (MetricSet.empty.addAll observations).1.metric? name =
      metricOf (observations.filter fun o => o.name == name) := by
  have fold := MetricSet.get?_addAll MetricSet.empty observations name
  have alike : ∀ o ∈ observations.filter (fun o => o.name == name),
      ∀ o' ∈ observations.filter (fun o => o.name == name), o'.kind = o.kind := by
    intro o mem o' mem'
    simp only [List.mem_filter, beq_iff_eq] at mem mem'
    have same := agree o' mem'.1 o mem.1 (mem'.2.trans mem.2.symm)
    exact congrArg Presentation.kind same
  cases own : observations.filter (fun o => o.name == name) with
  | nil =>
    rw [own] at fold
    rw [metric?, fold]
    rfl
  | cons first rest =>
    rw [own] at fold alike
    have kinds := fun o mem => alike first List.mem_cons_self o (List.mem_cons_of_mem first mem)
    rw [metric?, fold, MetricSet.get?, MetricSet.empty, List.find?_nil, foldl_grow_eq kinds]
    rfl

theorem metricOf_map {α : Type} {observe : α → Observation} {kind : Kind}
    (alike : ∀ a, (observe a).kind = kind) (first : α) (rest : List α) :
    metricOf ((first :: rest).map observe) =
      some (kind, (first :: rest).map fun a => (observe a).sample) := by
  simp [metricOf, alike, Function.comp_def]

end CameraTelemetry.Exposition
