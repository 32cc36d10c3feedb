import CameraTelemetry.Proofs.Health.Verdict
import Mathlib.Data.List.Forall2

/-!
# Worse measurements, worse verdicts

A value that moves in the bad direction of a check stays past every bound that it was past before,
also where the critical bound lies on the near side of the warning bound, and a bound that is no
number is never passed. The status of no check gets better then, nor does the overall status, and
neither does it when a dependency is lost.
-/
namespace CameraTelemetry.Health

open Number

/-- The second value is as bad as the first, or worse. The two zeros are as bad as each other. -/
def Direction.NoBetter (d : Direction) (x y : Binary64) : Prop :=
  match d with
  | lowerIsWorse => ¬ x < y
  | higherIsWorse => ¬ y < x

theorem Direction.NoBetter.past {d : Direction} {x y bound : Binary64} (worse : d.NoBetter x y)
    (number : y.isNaN = false) (past : d.past x bound = true) : d.past y bound = true := by
  cases d with
  | lowerIsWorse =>
    simp only [Direction.past, decide_eq_true_eq] at past ⊢
    exact Binary64.lt_of_not_lt_of_lt number worse past
  | higherIsWorse =>
    simp only [Direction.past, decide_eq_true_eq] at past ⊢
    exact Binary64.lt_of_lt_of_not_lt number past worse

theorem Threshold.rank_classify_le {t : Threshold} {x y : Binary64} (here : x.isNaN = false)
    (there : y.isNaN = false) (worse : t.direction.NoBetter x y) :
    (t.classify x).rank ≤ (t.classify y).rank := by
  have passes (bound : Binary64) :
      t.direction.past x bound = true → t.direction.past y bound = true := worse.past there
  rw [classify, classify, here, there]
  cases isCritical : t.direction.past x t.critical with
  | true => simp [passes _ isCritical]
  | false =>
    cases isWarning : t.direction.past x t.warning with
    | true =>
      rw [passes _ isWarning]
      cases t.direction.past y t.critical <;> simp [Status.rank]
    | false => simp [Status.rank]

theorem Status.rank_foldl_worst_le {l l' : List Status} {s s' : Status}
    (worse : List.Forall₂ (fun t t' => t.rank ≤ t'.rank) l l') (start : s.rank ≤ s'.rank) :
    (l.foldl Status.worst s).rank ≤ (l'.foldl Status.worst s').rank := by
  induction worse generalizing s s' with
  | nil => exact start
  | cons head _ ih =>
    apply ih
    rw [rank_worst, rank_worst]
    omega

/-- Statuses none of which gets better have a worst that gets no better. -/
theorem Status.rank_worstOf_le {l l' : List Status}
    (worse : List.Forall₂ (fun t t' => t.rank ≤ t'.rank) l l') :
    (Status.worstOf l).rank ≤ (Status.worstOf l').rank := by
  cases worse with
  | nil => exact Nat.le_refl _
  | cons head tail => exact rank_foldl_worst_le tail head

/-- The same measurements are there, all of them numbers, and none is better for the check that goes
by its name. -/
structure Worsened (checks : List Check) (m m' : Measurements) : Prop where
  same_names : ∀ name, (m.get? name).isSome = (m'.get? name).isSome
  numbers : ∀ name x, m.get? name = some x ∨ m'.get? name = some x → x.isNaN = false
  no_better : ∀ c ∈ checks, ∀ x y, m.get? c.name = some x → m'.get? c.name = some y →
    c.threshold.direction.NoBetter x y

theorem Worsened.rank_judge_le {checks : List Check} {m m' : Measurements}
    (worsened : Worsened checks m m') {c : Check} (mem : c ∈ checks) :
    (c.judge (m.get? c.name)).status.rank ≤ (c.judge (m'.get? c.name)).status.rank := by
  have same := worsened.same_names c.name
  cases found : m.get? c.name with
  | none =>
    have missing : m'.get? c.name = none := by simpa [found] using same
    exact Nat.le_of_eq (by rw [missing])
  | some x =>
    obtain ⟨y, now⟩ : ∃ y, m'.get? c.name = some y := by
      simpa [found, Option.isSome_iff_exists] using same.symm
    have here := worsened.numbers c.name x (.inl found)
    have there := worsened.numbers c.name y (.inr now)
    rw [now, Check.judge_of_number here, Check.judge_of_number there]
    exact Threshold.rank_classify_le here there (worsened.no_better c mem x y found now)

/-- The same dependency, perhaps no longer within reach. -/
def Dependency.Lost (d d' : Dependency) : Prop := d' = d ∨ d' = { d with reachable := false }

theorem Dependency.Lost.rank_le {d d' : Dependency} (lost : d.Lost d') :
    d.status.rank ≤ d'.status.rank := by
  rcases lost with rfl | rfl
  · exact Nat.le_refl _
  · unfold status
    split <;> simp [Status.rank]

section

variable {checks : List Check} {m m' : Measurements}

theorem results_worsened (judged : ∀ c ∈ checks,
      (c.judge (m.get? c.name)).status.rank ≤ (c.judge (m'.get? c.name)).status.rank)
    (dependencies lost : List Dependency) :
    List.Forall₂ (fun r r' => r.status.rank ≤ r'.status.rank)
      (evaluate m checks dependencies).results (evaluate m' checks lost).results := by
  simp only [evaluate, List.forall₂_map_left_iff, List.forall₂_map_right_iff, List.forall₂_same]
  exact judged

theorem rank_overall_le (judged : ∀ c ∈ checks,
      (c.judge (m.get? c.name)).status.rank ≤ (c.judge (m'.get? c.name)).status.rank)
    {dependencies lost : List Dependency} (fewer : List.Forall₂ Dependency.Lost dependencies lost) :
    (evaluate m checks dependencies).overall.rank ≤ (evaluate m' checks lost).overall.rank := by
  apply Status.rank_worstOf_le
  apply List.rel_append
  · rw [List.forall₂_map_left_iff, List.forall₂_map_right_iff]
    exact results_worsened judged dependencies lost
  · rw [List.forall₂_map_left_iff, List.forall₂_map_right_iff]
    exact fewer.imp fun _ _ => Dependency.Lost.rank_le

end

/-- Whatever gets worse, the verdict on it and the verdict on the whole get no better. -/
theorem evaluate_monotone (checks : List Check) (dependencies : List Dependency) :
    (∀ m m', Worsened checks m m' →
      List.Forall₂ (fun r r' => r.status.rank ≤ r'.status.rank)
          (evaluate m checks dependencies).results (evaluate m' checks dependencies).results ∧
        (evaluate m checks dependencies).overall.rank ≤
          (evaluate m' checks dependencies).overall.rank) ∧
      ∀ m lost, List.Forall₂ Dependency.Lost dependencies lost →
        (evaluate m checks dependencies).overall.rank ≤ (evaluate m checks lost).overall.rank := by
  constructor
  · intro m m' worsened
    have judged := fun c (mem : c ∈ checks) => worsened.rank_judge_le mem
    have kept : List.Forall₂ Dependency.Lost dependencies dependencies :=
      List.forall₂_same.2 fun d _ => .inl rfl
    exact ⟨results_worsened judged _ _, rank_overall_le judged kept⟩
  · intro m lost fewer
    exact rank_overall_le (fun c _ => Nat.le_refl _) fewer

theorem Worsened.single {checks : List Check} {x y : Binary64} (name : String)
    (here : x.isNaN = false) (there : y.isNaN = false)
    (worse : ∀ c ∈ checks, c.threshold.direction.NoBetter x y) :
    Worsened checks [(name, x)] [(name, y)] := by
  have get (v : Binary64) (other : String) :
      Measurements.get? [(name, v)] other = if name = other then some v else none := by
    by_cases same : name = other <;> simp [Measurements.get?, same]
  constructor
  case same_names =>
    intro other
    rw [get, get]
    split <;> simp
  case numbers =>
    intro other v found
    rw [get, get] at found
    split at found <;> grind
  case no_better =>
    intro c mem v w before after
    rw [get] at before after
    split at before <;> grind

/-- The load crosses a critical bound that lies below the warning bound. Of the other check one
bound is below every number, and the other is no number and never crossed. -/
theorem evaluate_monotone_of_crossed :
    let checks : List Check := [⟨"load", ⟨8, 4, .higherIsWorse⟩⟩,
      ⟨"load", ⟨.infinite true, .nan, .higherIsWorse⟩⟩]
    let m : Measurements := [("load", 2)]
    let m' : Measurements := [("load", 6)]
    let reached : List Dependency := [⟨"vapix", true⟩]
    let lost : List Dependency := [⟨"vapix", false⟩]
    Worsened checks m m' ∧
      (evaluate m checks reached).results.map (·.status) = [.ok, .warning] ∧
      (evaluate m' checks reached).results.map (·.status) = [.critical, .warning] ∧
      (evaluate m checks reached).overall.rank ≤ (evaluate m' checks reached).overall.rank ∧
      (evaluate m checks reached).overall.rank ≤ (evaluate m checks lost).overall.rank := by
  intro checks m m' reached lost
  have rises : Direction.higherIsWorse.NoBetter 2 6 := by
    change ¬ (6 : Binary64) < 2
    decide +kernel
  have worsened : Worsened checks m m' :=
    .single "load" (by decide +kernel) (by decide +kernel) (by simpa [checks] using rises)
  refine ⟨worsened, by decide +kernel, by decide +kernel, ?_, ?_⟩
  · exact ((evaluate_monotone checks reached).1 m m' worsened).2
  · exact (evaluate_monotone checks reached).2 m lost (.cons (.inr rfl) .nil)

end CameraTelemetry.Health
