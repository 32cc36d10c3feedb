import CameraTelemetry.Exposition.MetricSet

/-!
# What a metric set collects

A family is made of the observations of its name and of nothing else: the first one names its kind
and its help text, and later ones of the same kind add their samples in order.
-/
namespace CameraTelemetry.Exposition

/-- What an observation makes of the family of its name. -/
def grow (f : Option Family) (o : Observation) : Option Family :=
  match f with
  | none => some ⟨o.name, o.help, o.kind, [⟨o.labels, o.value⟩]⟩
  | some f =>
    if f.kind = o.kind then some { f with samples := f.samples ++ [⟨o.labels, o.value⟩] }
      else some f

namespace MetricSet

theorem find?_addTo (name : String) (sample : Sample) (families : List Family) (n : String) :
    (addTo name sample families).find? (fun f => f.name == n) =
      if name = n then
        (families.find? fun f => f.name == n).map fun f =>
          { f with samples := f.samples ++ [sample] }
      else families.find? fun f => f.name == n := by
  induction families with
  | nil => simp [addTo]
  | cons f rest ih =>
    by_cases own : f.name = name
    · subst own
      by_cases same : f.name = n <;> simp [addTo, same]
    · by_cases same : f.name = n
      · subst same
        simp [addTo, own, Ne.symm own]
      · simp [addTo, own, same, ih]

/-- An observation touches the family of its name only. -/
theorem get?_add (m : MetricSet) (o : Observation) (n : String) :
    (m.add o).1.get? n = if o.name = n then grow (m.get? n) o else m.get? n := by
  unfold add
  split
  case h_1 new =>
    by_cases same : o.name = n
    · subst same
      have none : m.families.find? (fun f => f.name == o.name) = none := new
      simp [get?, none, grow]
    · simp [get?, same]
  case h_2 f found =>
    by_cases agree : f.kind = o.kind
    · rw [if_pos agree]
      by_cases same : o.name = n
      · subst same
        have some : m.families.find? (fun f => f.name == o.name) = some f := found
        simp [get?, find?_addTo, some, grow, agree]
      · simp [get?, find?_addTo, same]
    · rw [if_neg agree]
      by_cases same : o.name = n
      · subst same
        simp [found, grow, agree]
      · simp [same]

/-- A family depends on the observations of its name only. -/
theorem get?_addAll (m : MetricSet) (observations : List Observation) (n : String) :
    (m.addAll observations).1.get? n =
      (observations.filter fun o => o.name == n).foldl grow (m.get? n) := by
  induction observations generalizing m with
  | nil => rfl
  | cons o rest ih =>
    rw [addAll, ih, get?_add]
    by_cases same : o.name = n <;> simp [same]

end MetricSet

end CameraTelemetry.Exposition
