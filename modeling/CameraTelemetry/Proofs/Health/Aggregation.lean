import CameraTelemetry.Proofs.Health.Verdict

/-!
# The worst of all

The overall status of a report is the one of greatest rank among its results and its dependencies.
It depends on which statuses there are and on nothing else: neither their order nor the way in
which they are divided among several reports makes a difference. A report on nothing is unknown, so
that a part with nothing in it would count as unknown; parts are therefore not empty.
-/
namespace CameraTelemetry.Health

namespace Status

/-- The status is one of the list, and as bad as any other. -/
def IsWorst (s : Status) (l : List Status) : Prop := s ∈ l ∧ ∀ t ∈ l, t.rank ≤ s.rank

variable {l l' : List Status} {s : Status}

theorem isWorst_worstOf (some : l ≠ []) : (worstOf l).IsWorst l :=
  ⟨worstOf_mem some, fun _ => rank_le_worstOf⟩

/-- No two statuses share a rank, so that there is one worst status at most. -/
theorem IsWorst.eq_worstOf (worst : s.IsWorst l) : s = worstOf l := by
  apply rank_inj.1
  apply Nat.le_antisymm
  · exact rank_le_worstOf worst.1
  · exact worst.2 _ (worstOf_mem (List.ne_nil_of_mem worst.1))

theorem worstOf_eq_unknown_iff : worstOf l = unknown ↔ l = [] ∨ unknown.IsWorst l := by
  constructor
  · intro found
    by_cases empty : l = []
    · exact .inl empty
    · exact .inr (found ▸ isWorst_worstOf empty)
  · rintro (rfl | worst)
    · rfl
    · exact worst.eq_worstOf.symm

theorem worstOf_congr (same : ∀ s, s ∈ l ↔ s ∈ l') : worstOf l = worstOf l' := by
  by_cases empty : l = []
  · subst empty
    have none : l' = [] :=
      List.eq_nil_iff_forall_not_mem.2 fun s mem => List.not_mem_nil ((same s).2 mem)
    rw [none]
  · have worst := isWorst_worstOf empty
    have there : (worstOf l).IsWorst l' :=
      ⟨(same _).1 worst.1, fun t mem => worst.2 t ((same t).2 mem)⟩
    exact there.eq_worstOf

theorem worstOf_flatMap {α : Type} (f : α → List Status) {parts : List α}
    (some : ∀ p ∈ parts, f p ≠ []) :
    worstOf (parts.flatMap f) = worstOf (parts.map fun p => worstOf (f p)) := by
  by_cases empty : parts = []
  · rw [empty]
    rfl
  have worst := isWorst_worstOf (l := parts.map fun p => worstOf (f p)) (by simpa using empty)
  obtain ⟨part, mem, chosen⟩ := List.mem_map.1 worst.1
  refine Eq.symm (IsWorst.eq_worstOf ⟨?_, fun t among => ?_⟩)
  · rw [← chosen]
    exact List.mem_flatMap.2 ⟨part, mem, worstOf_mem (some part mem)⟩
  · obtain ⟨p, listed, inside⟩ := List.mem_flatMap.1 among
    calc t.rank ≤ (worstOf (f p)).rank := rank_le_worstOf inside
      _ ≤ _ := worst.2 _ (List.mem_map.2 ⟨p, listed, rfl⟩)

end Status

def Result.check (r : Result) : Check := ⟨r.name, r.threshold⟩

def Report.statuses (r : Report) : List Status :=
  r.results.map (·.status) ++ r.dependencies.map (·.status)

theorem Check.check_judge (c : Check) (measurement : Option Number.Binary64) :
    (c.judge measurement).check = c := by
  rcases unmeasured_or_number measurement with (rfl | rfl) | ⟨x, rfl, number⟩
  · rfl
  · rfl
  · rw [judge_of_number number]
    rfl

section

variable (m : Measurements) (checks : List Check) (dependencies : List Dependency)

theorem overall_eq_worstOf : (evaluate m checks dependencies).overall =
    Status.worstOf (evaluate m checks dependencies).statuses := rfl

theorem mem_statuses_iff {s : Status} : s ∈ (evaluate m checks dependencies).statuses ↔
    (∃ c ∈ checks, (c.judge (m.get? c.name)).status = s) ∨ ∃ d ∈ dependencies, d.status = s := by
  simp [evaluate, Report.statuses]

theorem statuses_eq_nil_iff :
    (evaluate m checks dependencies).statuses = [] ↔ checks = [] ∧ dependencies = [] := by
  simp [evaluate, Report.statuses]

variable {checks dependencies}

theorem statuses_ne_nil (some : checks ≠ [] ∨ dependencies ≠ []) :
    (evaluate m checks dependencies).statuses ≠ [] := by
  intro empty
  obtain ⟨unchecked, free⟩ := (statuses_eq_nil_iff m checks dependencies).1 empty
  exact some.elim (· unchecked) (· free)

/-- The parts of a report show the statuses that the whole shows. -/
theorem mem_statuses_parted {parts : List (List Check × List Dependency)}
    (checked : (parts.flatMap Prod.fst).Perm checks)
    (depended : (parts.flatMap Prod.snd).Perm dependencies) (s : Status) :
    s ∈ (evaluate m checks dependencies).statuses ↔
      s ∈ parts.flatMap fun part => (evaluate m part.1 part.2).statuses := by
  simp only [List.mem_flatMap, mem_statuses_iff, ← checked.mem_iff, ← depended.mem_iff]
  constructor
  · rintro (⟨c, ⟨part, mem, inside⟩, rfl⟩ | ⟨d, ⟨part, mem, inside⟩, rfl⟩)
    · exact ⟨part, mem, .inl ⟨c, inside, rfl⟩⟩
    · exact ⟨part, mem, .inr ⟨d, inside, rfl⟩⟩
  · rintro ⟨part, mem, ⟨c, inside, rfl⟩ | ⟨d, inside, rfl⟩⟩
    · exact .inl ⟨c, ⟨part, mem, inside⟩, rfl⟩
    · exact .inr ⟨d, ⟨part, mem, inside⟩, rfl⟩

variable (checks dependencies)

/-- How the overall status of a report comes about. -/
structure Aggregated : Prop where
  /-- There is one result for each check, in the order of the checks. -/
  one_each : (evaluate m checks dependencies).results.map Result.check = checks
  kept : (evaluate m checks dependencies).dependencies = dependencies
  worst : checks ≠ [] ∨ dependencies ≠ [] →
    (evaluate m checks dependencies).overall.IsWorst (evaluate m checks dependencies).statuses
  unknown_iff : (evaluate m checks dependencies).overall = .unknown ↔
    (checks = [] ∧ dependencies = []) ∨
      Status.unknown.IsWorst (evaluate m checks dependencies).statuses
  permuted : ∀ checks' dependencies', checks'.Perm checks → dependencies'.Perm dependencies →
    (evaluate m checks' dependencies').overall = (evaluate m checks dependencies).overall
  /-- Checks and dependencies may be dealt out to several reports, none of them on nothing, and the
  worst of the overall statuses taken. -/
  parted : ∀ (first : List Check × List Dependency) (others : List (List Check × List Dependency)),
    ((first :: others).flatMap Prod.fst).Perm checks →
    ((first :: others).flatMap Prod.snd).Perm dependencies →
    (∀ part ∈ first :: others, part.1 ≠ [] ∨ part.2 ≠ []) →
    (evaluate m checks dependencies).overall =
      others.foldl (fun s part => s.worst (evaluate m part.1 part.2).overall)
        (evaluate m first.1 first.2).overall

/-- The overall status of every report is the worst there is, whatever the order and the parts. -/
theorem evaluate_aggregated : Aggregated m checks dependencies := by
  constructor
  case one_each => simp [evaluate, Function.comp_def, Check.check_judge]
  case kept => rfl
  case worst => exact fun some => Status.isWorst_worstOf (statuses_ne_nil m some)
  case unknown_iff =>
    rw [overall_eq_worstOf, Status.worstOf_eq_unknown_iff, statuses_eq_nil_iff]
  case permuted =>
    intro checks' dependencies' checked depended
    rw [overall_eq_worstOf, overall_eq_worstOf]
    apply Status.worstOf_congr
    intro s
    simp only [mem_statuses_iff, checked.mem_iff, depended.mem_iff]
  case parted =>
    intro first others checked depended some
    have filled : ∀ part ∈ first :: others, (evaluate m part.1 part.2).statuses ≠ [] :=
      fun part mem => statuses_ne_nil m (some part mem)
    calc (evaluate m checks dependencies).overall
        = Status.worstOf ((first :: others).flatMap fun part =>
            (evaluate m part.1 part.2).statuses) :=
          Status.worstOf_congr (mem_statuses_parted m checked depended)
      _ = Status.worstOf ((first :: others).map fun part =>
            (evaluate m part.1 part.2).overall) := Status.worstOf_flatMap _ filled
      _ = _ := by rw [List.map_cons, Status.worstOf, List.foldl_map]

end

end CameraTelemetry.Health
