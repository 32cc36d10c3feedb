import CameraTelemetry.Cpu.Usage
import CameraTelemetry.Proofs.Number.Range
import Mathlib.Algebra.Field.Rat
import Mathlib.Data.Nat.Cast.Basic
import Mathlib.Tactic.FieldSimp

/-!
# Usage and the largest count

The sums behind a usage stay at the largest count. The idle ticks are then still part of all ticks,
so that no difference goes below nought and the usage is a percentage; but it is that of the ticks
that have passed only as long as no sum has reached the largest count.
-/
namespace CameraTelemetry.Cpu

open Number

variable {prev curr : Ticks}

def WentBack (prev curr : Ticks) : Prop := ∃ x ∈ prev.toList.zip curr.toList, x.2 < x.1

/-- By how much all the counters have advanced together. -/
def increase (prev curr : Ticks) : Nat :=
  ((prev.toList.zip curr.toList).map fun x => x.2.toNat - x.1.toNat).sum

def idleIncrease (prev curr : Ticks) : Nat :=
  (curr.idle.toNat - prev.idle.toNat) + (curr.iowait.toNat - prev.iowait.toNat)

/-- The sum of all increases as it is formed, at most the largest count. -/
def totalTicks (prev curr : Ticks) : Nat := min (increase prev curr) maxCount

/-- What is left of it without the increase of the idle ticks as that is formed. -/
def busyTicks (prev curr : Ticks) : Nat :=
  totalTicks prev curr - (curr.idleTicks - prev.idleTicks)

/-- No sum has gone beyond the largest count: not that of the increases, and not that of the idle
ticks, unless these have stood still. -/
structure Uncapped (prev curr : Ticks) : Prop where
  total : increase prev curr ≤ maxCount
  idle : curr.idle.toNat + curr.iowait.toNat ≤ maxCount ∨ idleIncrease prev curr = 0

/-! ## The increases -/

theorem increases?_eq_none_iff {ps cs : List UInt64} :
    increases? ps cs = none ↔ ∃ x ∈ ps.zip cs, x.2 < x.1 := by
  induction ps generalizing cs with
  | nil => simp [increases?]
  | cons p ps ih =>
    cases cs with
    | nil => simp [increases?]
    | cons c cs =>
      by_cases back : c.toNat < p.toNat
      · simp [increases?, back, UInt64.lt_iff_toNat_lt]
      · simp [increases?, back, ih, UInt64.lt_iff_toNat_lt]

theorem increases?_eq_some {ps cs : List UInt64} (onward : ¬ ∃ x ∈ ps.zip cs, x.2 < x.1) :
    increases? ps cs = some ((ps.zip cs).map fun x => x.2.toNat - x.1.toNat) := by
  induction ps generalizing cs with
  | nil => simp [increases?]
  | cons p ps ih =>
    cases cs with
    | nil => simp [increases?]
    | cons c cs =>
      simp only [List.zip_cons_cons, List.exists_mem_cons_iff, not_or] at onward
      have le : ¬ c.toNat < p.toNat := onward.1
      simp [increases?, le, ih onward.2]

/-- A sum that stays at the largest count is the true one or the largest count. -/
theorem foldl_addCount {start : Nat} (count : start ≤ maxCount) (deltas : List Nat) :
    deltas.foldl addCount start = min (start + deltas.sum) maxCount := by
  induction deltas generalizing start with
  | nil => simpa using count
  | cons d rest ih =>
    have next : addCount start d ≤ maxCount := Nat.min_le_right ..
    rw [List.foldl_cons, ih next, List.sum_cons, addCount]
    omega

theorem Ticks.toList_injective : Function.Injective Ticks.toList := by
  intro s t same
  cases s
  cases t
  simpa [toList] using same

theorem le_of_onward (onward : ¬ WentBack prev curr) {p c : UInt64}
    (mem : (p, c) ∈ prev.toList.zip curr.toList) : p.toNat ≤ c.toNat :=
  Nat.le_of_not_lt fun back => onward ⟨_, mem, back⟩

/-- Counters that do not go backwards stand still if all of them have advanced by nought. -/
theorem increase_eq_zero_iff (onward : ¬ WentBack prev curr) :
    increase prev curr = 0 ↔ prev = curr := by
  rw [increase, List.sum_eq_zero_iff_forall_eq_nat]
  constructor
  · intro still
    refine Ticks.toList_injective (List.ext_getElem (by simp [Ticks.toList]) fun i here there => ?_)
    have mem : (prev.toList[i], curr.toList[i]) ∈ prev.toList.zip curr.toList :=
      List.mem_iff_getElem.2 ⟨i, by simpa using ⟨here, there⟩, List.getElem_zip⟩
    have le := le_of_onward onward mem
    have none : curr.toList[i].toNat - prev.toList[i].toNat = 0 :=
      still _ (List.mem_map.2 ⟨_, mem, rfl⟩)
    exact UInt64.toNat_inj.1 (by omega)
  · rintro rfl
    simp [List.zip_eq_zipWith, List.zipWith_self]

theorem idleIncrease_le (prev curr : Ticks) : idleIncrease prev curr ≤ increase prev curr := by
  simp only [idleIncrease, increase, Ticks.toList, List.zip_cons_cons, List.zip_nil_right,
    List.map_cons, List.map_nil, List.sum_cons, List.sum_nil]
  omega

/-! ## The idle ticks -/

theorem idle_le (onward : ¬ WentBack prev curr) : prev.idle.toNat ≤ curr.idle.toNat :=
  le_of_onward onward (by simp [Ticks.toList])

theorem iowait_le (onward : ¬ WentBack prev curr) : prev.iowait.toNat ≤ curr.iowait.toNat :=
  le_of_onward onward (by simp [Ticks.toList])

/-- The idle ticks as they are formed do not go backwards either. -/
theorem idleTicks_le (onward : ¬ WentBack prev curr) : prev.idleTicks ≤ curr.idleTicks := by
  have idle := idle_le onward
  have iowait := iowait_le onward
  simp only [Ticks.idleTicks, addCount]
  omega

/-- Their increase as it is formed is at most the true one. -/
theorem sub_idleTicks_le (onward : ¬ WentBack prev curr) :
    curr.idleTicks - prev.idleTicks ≤ idleIncrease prev curr := by
  have idle := idle_le onward
  have iowait := iowait_le onward
  simp only [Ticks.idleTicks, addCount, idleIncrease]
  omega

theorem sub_idleTicks_le_total (onward : ¬ WentBack prev curr) :
    curr.idleTicks - prev.idleTicks ≤ totalTicks prev curr := by
  have part := sub_idleTicks_le onward
  have whole := idleIncrease_le prev curr
  have count : curr.idleTicks ≤ maxCount := Nat.min_le_right ..
  exact Nat.le_min.2 ⟨Nat.le_trans part whole, Nat.le_trans (Nat.sub_le ..) count⟩

/-- The ticks are formed as they are exactly if no sum has gone beyond the largest count. -/
theorem uncapped_iff (onward : ¬ WentBack prev curr) :
    (busyTicks prev curr = increase prev curr - idleIncrease prev curr ∧
      totalTicks prev curr = increase prev curr) ↔ Uncapped prev curr := by
  have idle := idle_le onward
  have iowait := iowait_le onward
  have part := sub_idleTicks_le onward
  have whole := idleIncrease_le prev curr
  have exact_iff : curr.idleTicks - prev.idleTicks = idleIncrease prev curr ↔
      curr.idle.toNat + curr.iowait.toNat ≤ maxCount ∨ idleIncrease prev curr = 0 := by
    simp only [Ticks.idleTicks, addCount, idleIncrease]
    omega
  have total_iff : totalTicks prev curr = increase prev curr ↔ increase prev curr ≤ maxCount := by
    rw [totalTicks]
    omega
  constructor
  · rintro ⟨busy, total⟩
    refine ⟨total_iff.1 total, exact_iff.1 ?_⟩
    rw [busyTicks, total] at busy
    omega
  · rintro ⟨total, idle⟩
    rw [busyTicks, total_iff.2 total, exact_iff.2 idle]
    exact ⟨rfl, rfl⟩

/-! ## The usage -/

theorem usageBetween_of_back (back : WentBack prev curr) :
    usageBetween prev curr = .unknown .counterReset := by
  rw [usageBetween, increases?_eq_none_iff.2 back]

theorem foldl_addCount_increases (prev curr : Ticks) :
    ((prev.toList.zip curr.toList).map fun x => x.2.toNat - x.1.toNat).foldl addCount 0 =
      totalTicks prev curr := by
  rw [foldl_addCount (Nat.zero_le _), Nat.zero_add]
  rfl

theorem usageBetween_of_onward (onward : ¬ WentBack prev curr) :
    usageBetween prev curr = if totalTicks prev curr = 0 then .unknown .noProgress
      else .percent (busyPercent (busyTicks prev curr) (totalTicks prev curr)) := by
  simp only [usageBetween, increases?_eq_some onward, foldl_addCount_increases]
  rfl

theorem totalTicks_eq_zero_iff (onward : ¬ WentBack prev curr) :
    totalTicks prev curr = 0 ↔ prev = curr := by
  rw [← increase_eq_zero_iff onward, totalTicks]
  unfold maxCount
  omega

theorem onward_self (t : Ticks) : ¬ WentBack t t := by
  rintro ⟨x, mem, back⟩
  rw [List.zip_eq_zipWith, List.zipWith_self] at mem
  obtain ⟨c, -, rfl⟩ := List.mem_map.1 mem
  exact absurd back (UInt64.lt_irrefl c)

/-- What the usage between two samples is. -/
structure UsageTold (prev curr : Ticks) : Prop where
  reset_iff : usageBetween prev curr = .unknown .counterReset ↔ WentBack prev curr
  /-- There is no progress exactly if all eight counters have stood still. -/
  still_iff : usageBetween prev curr = .unknown .noProgress ↔ prev = curr
  /-- In all other cases it is the busy share of all ticks, both as they are formed. -/
  percent : ¬ WentBack prev curr → prev ≠ curr →
    usageBetween prev curr = .percent (busyPercent (busyTicks prev curr) (totalTicks prev curr))
  /-- As long as no sum has gone beyond the largest count these are the ticks that have passed, -/
  exact : ¬ WentBack prev curr → prev ≠ curr → Uncapped prev curr →
    usageBetween prev curr =
      .percent (busyPercent (increase prev curr - idleIncrease prev curr) (increase prev curr))
  /-- and only so long. -/
  exact_iff : ¬ WentBack prev curr →
    (busyTicks prev curr = increase prev curr - idleIncrease prev curr ∧
      totalTicks prev curr = increase prev curr ↔ Uncapped prev curr)
  /-- Their quotient is what is left of a hundred percent without the share of the idle ticks. -/
  share : ¬ WentBack prev curr → prev ≠ curr →
    ((increase prev curr - idleIncrease prev curr : Nat) : Rat) * 100 / increase prev curr =
      100 * (1 - idleIncrease prev curr / increase prev curr)

/-- The usage is that of the ticks which have passed, as long as no sum has reached its limit. -/
theorem usage_told (prev curr : Ticks) : UsageTold prev curr := by
  have percent (onward : ¬ WentBack prev curr) (moved : prev ≠ curr) :
      usageBetween prev curr =
        .percent (busyPercent (busyTicks prev curr) (totalTicks prev curr)) := by
    rw [usageBetween_of_onward onward, if_neg (mt (totalTicks_eq_zero_iff onward).1 moved)]
  constructor
  case reset_iff =>
    refine ⟨fun reset => ?_, usageBetween_of_back⟩
    by_contra onward
    rw [usageBetween_of_onward onward] at reset
    split at reset <;> simp at reset
  case still_iff =>
    constructor
    · intro still
      by_cases back : WentBack prev curr
      · simp [usageBetween_of_back back] at still
      · by_contra moved
        simp [percent back moved] at still
    · rintro rfl
      rw [usageBetween_of_onward (onward_self prev),
        if_pos ((totalTicks_eq_zero_iff (onward_self prev)).2 rfl)]
  case percent => exact percent
  case exact =>
    intro onward moved uncapped
    obtain ⟨busy, total⟩ := (uncapped_iff onward).2 uncapped
    rw [percent onward moved, busy, total]
  case exact_iff => exact uncapped_iff
  case share =>
    intro onward moved
    have some : (increase prev curr : Rat) ≠ 0 :=
      Nat.cast_ne_zero.2 (mt (increase_eq_zero_iff onward).1 moved)
    rw [Nat.cast_sub (idleIncrease_le prev curr)]
    field_simp

/-- Of two counters that advance by the largest count one is idle, and the usage is nought instead
of a half. Idle ticks that pass when their sum is at the limit count as busy. -/
theorem usage_capped :
    let most : UInt64 := .ofNat maxCount
    let start : Ticks := ⟨0, 0, 0, 0, 0, 0, 0, 0⟩
    let half : Ticks := ⟨most, 0, 0, most, 0, 0, 0, 0⟩
    let full : Ticks := ⟨0, 0, 0, most, 0, 0, 0, 0⟩
    let idle : Ticks := ⟨0, 0, 0, most, 1000, 0, 0, 0⟩
    let undistorted (prev curr : Ticks) : Usage :=
      .percent (busyPercent (increase prev curr - idleIncrease prev curr) (increase prev curr))
    (¬ WentBack start half ∧ start ≠ half ∧
      usageBetween start half = .percent 0 ∧ undistorted start half = .percent 50 ∧
      usageBetween start half ≠ undistorted start half) ∧
    (¬ WentBack full idle ∧ full ≠ idle ∧
      usageBetween full idle = .percent 100 ∧ undistorted full idle = .percent 0 ∧
      usageBetween full idle ≠ undistorted full idle) := by
  unfold WentBack
  decide +kernel

/-! ## No difference goes below nought -/

theorem busyPercent_inPercent {busy total : Nat} (le : busy ≤ total) (count : total ≤ maxCount)
    (some : total ≠ 0) : (busyPercent busy total).InPercent := by
  obtain ⟨a, busy_eq, -⟩ := Binary64.exists_ofNat (Nat.le_trans le count)
  obtain ⟨b, total_eq, nought⟩ := Binary64.exists_ofNat count
  have hundred : (100 : Binary64) = .finite false (Magnitude.whole 100 (by decide)) :=
    Binary64.ofNat_eq (by decide)
  refine Binary64.clamp_inPercent ?_
  rw [busy_eq, total_eq, hundred]
  exact Binary64.quotient_cases (mt nought.1 some)

/-- Wherever there is a usage there are ticks to divide by, the idle ones have not gone backwards
and are part of them, also where a sum is at its limit, and the usage is a number of percent. -/
theorem usage_inPercent {share : Binary64} (shown : usageBetween prev curr = .percent share) :
    ∃ deltas, increases? prev.toList curr.toList = some deltas ∧
      let total := deltas.foldl addCount 0
      total ≠ 0 ∧ prev.idleTicks ≤ curr.idleTicks ∧ curr.idleTicks - prev.idleTicks ≤ total ∧
        share = busyPercent (total - (curr.idleTicks - prev.idleTicks)) total ∧
        share.InPercent := by
  have onward : ¬ WentBack prev curr := by
    intro back
    simp [usageBetween_of_back back] at shown
  have formed := foldl_addCount_increases prev curr
  refine ⟨_, increases?_eq_some onward, ?_⟩
  rw [formed]
  rw [usageBetween_of_onward onward] at shown
  split at shown
  case isTrue none => cases shown
  case isFalse some =>
    obtain rfl : busyPercent (busyTicks prev curr) (totalTicks prev curr) = share := by
      simpa using shown
    refine ⟨some, idleTicks_le onward, sub_idleTicks_le_total onward, rfl, ?_⟩
    exact busyPercent_inPercent (Nat.sub_le ..) (Nat.min_le_right ..) some

/-- At the limit of all three sums. -/
theorem usage_inPercent_at_limit :
    let most : UInt64 := .ofNat maxCount
    let prev : Ticks := ⟨5, 0, 0, most, 7, 0, 0, 0⟩
    let curr : Ticks := ⟨most, 0, 9, most, most, 0, 0, most⟩
    usageBetween prev curr = .percent 100 ∧
      ∃ deltas, increases? prev.toList curr.toList = some deltas ∧
        let total := deltas.foldl addCount 0
        total ≠ 0 ∧ prev.idleTicks ≤ curr.idleTicks ∧ curr.idleTicks - prev.idleTicks ≤ total ∧
          (100 : Binary64) = busyPercent (total - (curr.idleTicks - prev.idleTicks)) total ∧
          (100 : Binary64).InPercent := by
  intro most prev curr
  have shown : usageBetween prev curr = .percent 100 := by decide +kernel
  exact ⟨shown, usage_inPercent shown⟩

end CameraTelemetry.Cpu
