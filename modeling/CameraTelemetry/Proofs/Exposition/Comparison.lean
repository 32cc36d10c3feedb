import CameraTelemetry.Proofs.Exposition.Rendering
import Mathlib.Data.List.Forall2

/-!
# Comparing metric sets

The families that observations make under some names are those that they would make alone.
Observations that differ in the values of certain samples make families that differ in these
samples.
-/
namespace CameraTelemetry.Exposition

/-! ## The families under some names -/

namespace MetricSet

theorem add_eq_of_none {m : MetricSet} {o : Observation} (new : m.get? o.name = none) :
    (m.add o).1 = ⟨m.families ++ [⟨o.name, o.help, o.kind, [o.sample]⟩]⟩ := by
  rw [add, new]
  rfl

theorem add_eq_of_some {m : MetricSet} {o : Observation} {f : Family}
    (found : m.get? o.name = some f) :
    (m.add o).1 = if f.kind = o.kind then ⟨addTo o.name o.sample m.families⟩ else m := by
  rw [add, found]
  dsimp only
  split <;> rfl

variable (keep : String → Bool)

def under (m : MetricSet) : MetricSet := ⟨m.families.filter fun f => keep f.name⟩

theorem under_get? {m : MetricSet} {name : String} (kept : keep name = true) :
    (m.under keep).get? name = m.get? name := by
  rw [under, get?, List.find?_filter, get?]
  congr 1
  funext f
  by_cases same : f.name = name <;> simp [same, kept]

theorem filter_addTo (name : String) (sample : Sample) (families : List Family) :
    (addTo name sample families).filter (fun f => keep f.name) =
      if keep name then addTo name sample (families.filter fun f => keep f.name)
      else families.filter fun f => keep f.name := by
  induction families with
  | nil => simp [addTo]
  | cons f rest ih =>
    by_cases own : f.name = name
    · subst own
      by_cases kept : keep f.name = true <;> simp [addTo, kept]
    · by_cases kept : keep name = true <;> by_cases here : keep f.name = true <;>
        simp_all [addTo]

theorem under_add (m : MetricSet) (o : Observation) :
    (m.add o).1.under keep = if keep o.name then ((m.under keep).add o).1 else m.under keep := by
  cases found : m.get? o.name with
  | none =>
    rw [add_eq_of_none found]
    by_cases kept : keep o.name = true
    · rw [if_pos kept, add_eq_of_none ((under_get? keep kept).trans found)]
      simp [under, kept]
    · simp [under, kept]
  | some f =>
    rw [add_eq_of_some found]
    by_cases kept : keep o.name = true
    · rw [if_pos kept, add_eq_of_some ((under_get? keep kept).trans found)]
      split <;> simp [under, filter_addTo, kept]
    · rw [if_neg kept]
      split <;> simp [under, filter_addTo, kept]

theorem under_addAll (m : MetricSet) (observations : List Observation) :
    (m.addAll observations).1.under keep =
      ((m.under keep).addAll (observations.filter fun o => keep o.name)).1 := by
  induction observations generalizing m with
  | nil => rfl
  | cons o rest ih =>
    rw [addAll, ih, under_add]
    by_cases kept : keep o.name = true <;> simp [kept, addAll]

end MetricSet

/-! ## Sets that differ in certain samples -/

/-- Which samples may differ in their values, by metric and labels. -/
abbrev Exempt := String → Labels → Prop

variable {exempt : Exempt}

/-- Samples with the same labels, and with the same value unless they are exempt. -/
structure Sample.Alike (exempt : Labels → Prop) (x x' : Sample) : Prop where
  labels : x.labels = x'.labels
  value : exempt x.labels ∨ x.value = x'.value

structure Observation.Alike (exempt : Exempt) (o o' : Observation) : Prop where
  name : o.name = o'.name
  help : o.help = o'.help
  kind : o.kind = o'.kind
  sample : Sample.Alike (exempt o.name) o.sample o'.sample

structure Family.Alike (exempt : Exempt) (f f' : Family) : Prop where
  name : f.name = f'.name
  help : f.help = f'.help
  kind : f.kind = f'.kind
  samples : List.Forall₂ (Sample.Alike (exempt f.name)) f.samples f'.samples

/-- The sets have the same families in the same order, and all samples agree but the exempt ones. -/
def MetricSet.Alike (exempt : Exempt) (m m' : MetricSet) : Prop :=
  List.Forall₂ (Family.Alike exempt) m.families m'.families

theorem Observation.Alike.refl (o : Observation) : o.Alike exempt o :=
  ⟨rfl, rfl, rfl, rfl, .inr rfl⟩

namespace MetricSet

theorem find?_alike {families families' : List Family} (name : String)
    (alike : List.Forall₂ (Family.Alike exempt) families families') :
    Option.Rel (Family.Alike exempt) (families.find? fun f => f.name == name)
      (families'.find? fun f => f.name == name) := by
  induction alike with
  | nil => exact .none
  | cons here rest ih =>
    rw [List.find?_cons, List.find?_cons, ← here.name]
    split
    · exact .some here
    · exact ih

theorem addTo_alike {name : String} {x x' : Sample} {families families' : List Family}
    (sample : Sample.Alike (exempt name) x x')
    (alike : List.Forall₂ (Family.Alike exempt) families families') :
    List.Forall₂ (Family.Alike exempt) (addTo name x families) (addTo name x' families') := by
  induction alike with
  | nil => exact .nil
  | @cons f f' _ _ here rest ih =>
    rw [addTo, addTo, ← here.name]
    split
    case isTrue own =>
      have more : List.Forall₂ (Sample.Alike (exempt f.name)) (f.samples ++ [x])
          (f'.samples ++ [x']) := by
        rw [beq_iff_eq] at own
        exact List.rel_append here.samples (.cons (own ▸ sample) .nil)
      exact .cons ⟨rfl, here.help, here.kind, more⟩ rest
    case isFalse other => exact .cons here ih

theorem Alike.add {m m' : MetricSet} {o o' : Observation} (alike : m.Alike exempt m')
    (observed : o.Alike exempt o') : (m.add o).1.Alike exempt (m'.add o').1 := by
  have known : Option.Rel (Family.Alike exempt) (m.get? o.name) (m'.get? o.name) :=
    find?_alike o.name alike
  cases found : m.get? o.name <;> cases found' : m'.get? o.name <;> rw [found, found'] at known
  case none.none =>
    have fresh : Family.Alike exempt ⟨o.name, o.help, o.kind, [o.sample]⟩
        ⟨o'.name, o'.help, o'.kind, [o'.sample]⟩ :=
      ⟨observed.name, observed.help, observed.kind, .cons observed.sample .nil⟩
    rw [add_eq_of_none found, add_eq_of_none (observed.name ▸ found')]
    exact List.rel_append alike (.cons fresh .nil)
  case none.some => cases known
  case some.none => cases known
  case some.some f f' =>
    have same : f.Alike exempt f' := by
      cases known
      assumption
    rw [add_eq_of_some found, add_eq_of_some (observed.name ▸ found'), ← observed.name,
      ← observed.kind, ← same.kind]
    split
    · exact addTo_alike observed.sample alike
    · exact alike

theorem Alike.addAll {m m' : MetricSet} {observations observations' : List Observation}
    (alike : m.Alike exempt m')
    (observed : List.Forall₂ (Observation.Alike exempt) observations observations') :
    (m.addAll observations).1.Alike exempt (m'.addAll observations').1 := by
  induction observed generalizing m m' with
  | nil => exact alike
  | cons here rest ih => exact ih (alike.add here)

end MetricSet

end CameraTelemetry.Exposition
