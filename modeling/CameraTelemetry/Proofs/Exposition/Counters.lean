import CameraTelemetry.Proofs.Exposition.Samples
import CameraTelemetry.Proofs.Number.WrittenForm

/-!
# Counters in a text

A counter whose samples differ in their label values has a line for each of them. Below `2 ^ 53` the
number in it is the count itself, in decimal.
-/
namespace CameraTelemetry.Exposition

open Number

def countLine (metric : String) (labels : Labels) (n : Nat) : String :=
  metric ++ labelsText (sortLabels labels) ++ " " ++ toString n ++ "\n"

/-- A count makes a row of its own, which shows the number next to it. -/
theorem add_counter {labels : Labels} {n : Nat} (count : n ≤ maxCount) :
    Row.add .counter ⟨labels, .ofNat n⟩ ⟨labels, 0, 0⟩ =
      ⟨labels, (Binary64.ofNat n).toCount, .ofNat n⟩ := by
  have fits : (0 + (Binary64.ofNat n).toCount) % 2 ^ 64 = (Binary64.ofNat n).toCount := by
    have le := (Binary64.ofNat n).toCount_le
    unfold maxCount at le
    omega
  simp only [Row.add, fits, Binary64.ofNat_toCount count]

/-- Each sample of a counter is shown, if no other one has its label values. -/
theorem shows_count {m : MetricSet} (registrable : Registrable m) {name : String}
    {samples : List Sample} (metric : m.metric? name = some (.counter, samples))
    (distinct : (samples.map fun s => sampleKey s.labels).Nodup) {labels : Labels} {n : Nat}
    (sample : ⟨labels, .ofNat n⟩ ∈ samples) (small : n < 2 ^ 53) :
    Shows m.text (countLine name labels n) := by
  obtain ⟨f, found, kind, rfl⟩ := MetricSet.metric?_eq_some_iff.1 metric
  have listed : f ∈ m.families := List.mem_of_find?_eq_some found
  have named : f.name = name := by simpa using List.find?_some found
  have rows := f.rows_eq_map (registrable.accepts f listed) distinct
  have row : ⟨labels, (Binary64.ofNat n).toCount, .ofNat n⟩ ∈ f.rows := by
    have count : n ≤ maxCount := by
      unfold maxCount
      omega
    rw [rows, kind]
    exact List.mem_map.2 ⟨_, sample, add_counter count⟩
  have line := (shows_family listed).trans (shows_row row)
  rwa [Row.line, Binary64.plain_ofNat small, named] at line

end CameraTelemetry.Exposition
