import CameraTelemetry.Proofs.Exposition.Rendering
import CameraTelemetry.Proofs.Number.Whole
import Mathlib.Algebra.GroupWithZero.Nat

/-!
# The rows of a family

Samples are gathered by their keys, and each row is made of the samples of its key alone: it has the
labels of the first of them, a gauge the value of the last, and a counter the sum of them all.
-/
namespace CameraTelemetry.Exposition

open Number

namespace Sample

def key (s : Sample) : String := sampleKey s.labels

end Sample

namespace Row

def key (r : Row) : String := sampleKey r.labels

@[simp] theorem add_labels (kind : Kind) (s : Sample) (r : Row) :
    (r.add kind s).labels = r.labels := by
  cases kind <;> rfl

@[simp] theorem add_key (kind : Kind) (s : Sample) (r : Row) : (r.add kind s).key = r.key :=
  congrArg sampleKey (r.add_labels kind s)

/-- The row that samples make which all go into it. -/
def gather (kind : Kind) (labels : Labels) (samples : List Sample) : Row :=
  samples.foldl (fun r s => r.add kind s) ⟨labels, 0, 0⟩

theorem gather_append_one (kind : Kind) (labels : Labels) (samples : List Sample) (s : Sample) :
    gather kind labels (samples ++ [s]) = (gather kind labels samples).add kind s := by
  simp [gather]

@[simp] theorem gather_labels (kind : Kind) (labels : Labels) (samples : List Sample) :
    (gather kind labels samples).labels = labels := by
  have kept (r : Row) : (samples.foldl (fun r s => r.add kind s) r).labels = r.labels := by
    induction samples generalizing r with
    | nil => rfl
    | cons s samples ih => rw [List.foldl_cons, ih, add_labels]
  exact kept _

theorem gather_gauge (labels : Labels) {samples : List Sample} {last : Sample}
    (ends : samples.getLast? = some last) :
    (gather .gauge labels samples).value = last.value := by
  obtain ⟨before, rfl⟩ := List.getLast?_eq_some_iff.1 ends
  rw [gather_append_one]
  rfl

/-- Counters are added up, as long as there is room for the sum. -/
theorem gather_count (labels : Labels) (samples : List Sample) :
    (gather .counter labels samples).count =
      (samples.map fun s => s.value.toCount).sum % 2 ^ 64 := by
  have added (r : Row) (fits : r.count < 2 ^ 64) :
      (samples.foldl (fun r s => r.add .counter s) r).count =
        (r.count + (samples.map fun s => s.value.toCount).sum) % 2 ^ 64 := by
    induction samples generalizing r with
    | nil => simpa using (Nat.mod_eq_of_lt fits).symm
    | cons s samples ih =>
      have next : (r.add .counter s).count = (r.count + s.value.toCount) % 2 ^ 64 := rfl
      rw [List.foldl_cons, ih _ (next ▸ Nat.mod_lt _ (by decide)), next, List.map_cons,
        List.sum_cons, Nat.mod_add_mod, Nat.add_assoc]
  have total := added ⟨labels, 0, 0⟩ (Nat.two_pow_pos 64)
  rwa [Nat.zero_add] at total

theorem gather_counter (labels : Labels) {samples : List Sample} (some : samples ≠ []) :
    (gather .counter labels samples).value =
      .ofNat ((samples.map fun s => s.value.toCount).sum % 2 ^ 64) := by
  rw [← gather_count labels]
  obtain ⟨before, last, rfl⟩ := List.eq_nil_or_concat samples |>.resolve_left some
  rw [List.concat_eq_append, gather_append_one]
  rfl

end Row

/-- The row is made of the samples of its key. -/
def Row.Made (kind : Kind) (samples : List Sample) (r : Row) : Prop :=
  ∃ first, samples.find? (fun s => s.key == r.key) = some first ∧
    r = Row.gather kind first.labels (samples.filter fun s => s.key == r.key)

namespace Row.Made

variable {kind : Kind} {samples : List Sample} {r : Row} {s : Sample}

theorem other (made : r.Made kind samples) (other : s.key ≠ r.key) :
    r.Made kind (samples ++ [s]) := by
  obtain ⟨first, found, gathered⟩ := made
  refine ⟨first, by simp [List.find?_append, found], ?_⟩
  rw [List.filter_append, List.filter_cons_of_neg (by simpa using other), List.filter_nil,
    List.append_nil]
  exact gathered

theorem own (made : r.Made kind samples) (own : s.key = r.key) :
    (r.add kind s).Made kind (samples ++ [s]) := by
  obtain ⟨first, found, gathered⟩ := made
  unfold Made
  rw [Row.add_key]
  refine ⟨first, by simp [List.find?_append, found], ?_⟩
  rw [List.filter_append, List.filter_cons_of_pos (by simp [own]), List.filter_nil,
    Row.gather_append_one, ← gathered]

theorem new (unseen : ∀ t ∈ samples, t.key ≠ s.key) :
    (Row.add kind s ⟨s.labels, 0, 0⟩).Made kind (samples ++ [s]) := by
  have key : (Row.add kind s ⟨s.labels, 0, 0⟩).key = s.key := Row.add_key ..
  have absent : samples.find? (fun t => t.key == s.key) = none := by simpa using unseen
  have apart : samples.filter (fun t => t.key == s.key) = [] := by
    simpa [List.filter_eq_nil_iff] using unseen
  unfold Made
  rw [key]
  refine ⟨s, by simp [List.find?_append, absent], ?_⟩
  rw [List.filter_append, apart, List.filter_cons_of_pos (by simp)]
  rfl

end Row.Made

/-- The rows of samples: one for each key, made of the samples of that key. -/
structure Rowed (kind : Kind) (samples : List Sample) (rows : List Row) : Prop where
  distinct : (rows.map Row.key).Nodup
  covered : ∀ s ∈ samples, s.key ∈ rows.map Row.key
  made : ∀ r ∈ rows, r.Made kind samples

namespace Rowed

variable {kind : Kind} {samples : List Sample} {rows : List Row}

theorem nil (kind : Kind) : Rowed kind [] [] := ⟨by simp, by simp, by simp⟩

theorem perm {rows' : List Row} (rowed : Rowed kind samples rows) (perm : rows'.Perm rows) :
    Rowed kind samples rows' where
  distinct := ((perm.map Row.key).nodup_iff).2 rowed.distinct
  covered := fun s mem => (perm.map Row.key).mem_iff.2 (rowed.covered s mem)
  made := fun r mem => rowed.made r (perm.mem_iff.1 mem)

theorem addRow_cons (kind : Kind) (s : Sample) (r : Row) (rest : List Row) :
    addRow kind s (r :: rest) =
      if r.key = s.key then r.add kind s :: rest else r :: addRow kind s rest := by
  by_cases own : r.key = s.key
  · have same : (sampleKey r.labels == sampleKey s.labels) = true := beq_iff_eq.2 own
    rw [addRow, if_pos same, if_pos own]
  · have apart : ¬ (sampleKey r.labels == sampleKey s.labels) = true := mt beq_iff_eq.1 own
    rw [addRow, if_neg apart, if_neg own]

/-- Where the key of a sample is known, the sample goes into the row of the key. -/
theorem addRow_of_known {s : Sample} (distinct : (rows.map Row.key).Nodup)
    (known : s.key ∈ rows.map Row.key) :
    addRow kind s rows = rows.map fun r => if r.key = s.key then r.add kind s else r := by
  induction rows with
  | nil => simp at known
  | cons r rest ih =>
    simp only [List.map_cons, List.nodup_cons] at distinct
    rw [addRow_cons, List.map_cons]
    by_cases own : r.key = s.key
    · have others : ∀ t ∈ rest, t.key ≠ s.key := fun t mem same =>
        distinct.1 (own ▸ same ▸ List.mem_map_of_mem mem)
      have kept : rest.map (fun t => if t.key = s.key then t.add kind s else t) = rest.map id :=
        List.map_congr_left fun t mem => if_neg (others t mem)
      rw [if_pos own, if_pos own, kept, List.map_id]
    · have later : s.key ∈ rest.map Row.key :=
        (List.mem_cons.1 known).resolve_left fun same => own same.symm
      rw [if_neg own, if_neg own, ih distinct.2 later]

theorem add (rowed : Rowed kind samples rows) (s : Sample) :
    Rowed kind (samples ++ [s]) (addRow kind s rows) := by
  by_cases known : s.key ∈ rows.map Row.key
  case pos =>
    have added : addRow kind s rows = rows.map fun r => if r.key = s.key then r.add kind s else r :=
      addRow_of_known rowed.distinct known
    have keys : (addRow kind s rows).map Row.key = rows.map Row.key := by
      rw [added, List.map_map]
      refine List.map_congr_left fun r _ => ?_
      rw [Function.comp_apply]
      split
      · exact r.add_key kind s
      · rfl
    constructor
    · rw [keys]
      exact rowed.distinct
    · rw [keys]
      exact List.forall_mem_append.2 ⟨rowed.covered, List.forall_mem_singleton.2 known⟩
    · intro r mem
      rw [added] at mem
      obtain ⟨old, listed, rfl⟩ := List.mem_map.1 mem
      split
      case isTrue own => exact (rowed.made old listed).own own.symm
      case isFalse other => exact (rowed.made old listed).other (Ne.symm other)
  case neg =>
    have new : ∀ r ∈ rows, r.key ≠ s.key := fun r mem same =>
      known (same ▸ List.mem_map_of_mem mem)
    have unseen : ∀ t ∈ samples, t.key ≠ s.key := fun t mem same =>
      known (same ▸ rowed.covered t mem)
    have keys : (addRow kind s rows).map Row.key = rows.map Row.key ++ [s.key] := by
      rw [addRow_of_new new, List.map_append, List.map_singleton, Row.add_key]
      rfl
    constructor
    · rw [keys]
      refine List.nodup_append.2 ⟨rowed.distinct, by simp, ?_⟩
      rintro key mem _ last rfl
      exact known (List.mem_singleton.1 last ▸ mem)
    · rw [keys]
      intro t mem
      exact List.mem_append.2
        ((List.mem_append.1 mem).imp (rowed.covered t) fun last => by simp_all)
    · intro r mem
      rw [addRow_of_new new] at mem
      rcases List.mem_append.1 mem with old | last
      · exact (rowed.made r old).other (new r old).symm
      · rw [List.mem_singleton.1 last]
        exact .new unseen

theorem addAll {more : List Sample} (rowed : Rowed kind samples rows) :
    Rowed kind (samples ++ more) (more.foldl (fun rows s => addRow kind s rows) rows) := by
  induction more generalizing samples rows with
  | nil => simpa using rowed
  | cons s more ih =>
    have next := ih (rowed.add s)
    rwa [List.append_assoc] at next

end Rowed

theorem Family.rowed (f : Family) : Rowed f.kind (f.samples.filter f.accepts) f.rows :=
  (Rowed.nil f.kind).addAll

end CameraTelemetry.Exposition
