import CameraTelemetry.Host.Sampler

/-!
# The baseline of the processor usage

Every good read of the processor becomes the sample that the next one is compared with, also one
that shows no usage. A failed read leaves the sample in place, so that the usage is always that
since the latest good read, however many failed in between.
-/
namespace CameraTelemetry.Host

open Cpu (Ticks usageBetween)

def Unread (rs : List Readings) : Prop := ∀ r ∈ rs, ∀ ticks, r.cpu ≠ .value ticks

/-- The latest good read of the processor brought a sample. -/
def LastRead (ticks : Ticks) (rs : List Readings) : Prop :=
  ∃ before r between, rs = before ++ r :: between ∧ r.cpu = .value ticks ∧ Unread between

def lastTicks? (rs : List Readings) : Option Ticks := rs.reverse.findSome? (·.cpu.value?)

@[simp] theorem lastTicks?_nil : lastTicks? [] = none := rfl

@[simp] theorem lastTicks?_append (rs rs' : List Readings) :
    lastTicks? (rs ++ rs') = (lastTicks? rs').or (lastTicks? rs) := by
  simp [lastTicks?, List.findSome?_append]

@[simp] theorem lastTicks?_cons (r : Readings) (rs : List Readings) :
    lastTicks? (r :: rs) = (lastTicks? rs).or r.cpu.value? := by
  cases hr : r.cpu.value? <;> simp [lastTicks?, List.findSome?_append, hr]

theorem lastTicks?_eq_none_iff {rs : List Readings} : lastTicks? rs = none ↔ Unread rs := by
  simp [lastTicks?, Unread, Reading.value?_eq_none_iff]

theorem lastTicks?_eq_some_iff {rs : List Readings} {ticks : Ticks} :
    lastTicks? rs = some ticks ↔ LastRead ticks rs := by
  constructor
  · intro found
    induction rs with
    | nil => simp at found
    | cons r rest ih =>
      rw [lastTicks?_cons, Option.or_eq_some_iff] at found
      rcases found with later | ⟨unread, read⟩
      · obtain ⟨before, x, between, rfl, good, quiet⟩ := ih later
        exact ⟨r :: before, x, between, rfl, good, quiet⟩
      · exact ⟨[], r, rest, rfl, Reading.value?_eq_some_iff.1 read, lastTicks?_eq_none_iff.1 unread⟩
  · rintro ⟨before, r, between, rfl, good, quiet⟩
    simp [lastTicks?_eq_none_iff.2 quiet, Reading.value?_eq_some_iff.2 good]

namespace Sampler

/-! ## One poll -/

def usage (s : Sampler) : Reading Ticks → Cpu.Usage
  | .value ticks => s.tracker.usage ticks
  | _ => .unknown .sourceUnavailable

theorem readOthers_completes (r : Readings) (usage : Cpu.Usage) :
    (∃ snapshot, readOthers r usage = .ok snapshot) ↔ r.othersPanic = false := by
  unfold readOthers
  repeat' split
  all_goals simp [Readings.othersPanic, Reading.panics_eq_result, Except.isOk, Except.toBool, *]

theorem readOthers_cpu {r : Readings} {usage : Cpu.Usage} {snapshot : Snapshot}
    (completed : readOthers r usage = .ok snapshot) : snapshot.cpu = usage := by
  unfold readOthers at completed
  repeat' split at completed
  all_goals cases completed
  rfl

theorem finish_outcome (r : Readings) (usage : Cpu.Usage) (s : Sampler)
    (events : List Journal.Event) : (finish r usage s events).outcome = readOthers r usage := by
  unfold finish
  split <;> simp [*]

theorem finish_sampler (r : Readings) (usage : Cpu.Usage) (s : Sampler)
    (events : List Journal.Event) : (finish r usage s events).sampler = s := by
  unfold finish
  split <;> rfl

/-- A poll that the processor survives goes on to the other families. -/
theorem sample_outcome (s : Sampler) (r : Readings) :
    (s.sample r).outcome =
      match r.cpu with
      | .panicked payload => .error payload
      | _ => readOthers r (s.usage r.cpu) := by
  unfold sample
  cases r.cpu <;> simp [finish_outcome, usage, Cpu.Tracker.observe]

theorem sample_completes (s : Sampler) (r : Readings) :
    (∃ snapshot, (s.sample r).outcome = .ok snapshot) ↔ r.panics = false := by
  rw [sample_outcome, Readings.panics]
  cases r.cpu <;> simp [readOthers_completes, Reading.panics]

theorem sample_cpu {s : Sampler} {r : Readings} {snapshot : Snapshot}
    (completed : (s.sample r).outcome = .ok snapshot) : snapshot.cpu = s.usage r.cpu := by
  rw [sample_outcome] at completed
  split at completed
  · cases completed
  · exact readOthers_cpu completed

/-- A good read becomes the previous sample, even where another family panics afterwards. -/
theorem sample_previous (s : Sampler) (r : Readings) :
    (s.sample r).sampler.tracker.previous = r.cpu.value?.or s.tracker.previous := by
  unfold sample
  cases r.cpu <;> simp [finish_sampler, Reading.value?, Cpu.Tracker.observe]

/-! ## One poll after the other -/

theorem after_previous (s : Sampler) (rs : List Readings) :
    (s.after rs).tracker.previous = (lastTicks? rs).or s.tracker.previous := by
  induction rs generalizing s with
  | nil => rfl
  | cons r rest ih => rw [after, ih, sample_previous, lastTicks?_cons, Option.or_assoc]

theorem after_append (s : Sampler) (rs rs' : List Readings) :
    s.after (rs ++ rs') = (s.after rs).after rs' := by
  induction rs generalizing s with
  | nil => rfl
  | cons r rest ih => exact ih _

theorem polls_getElem? (s : Sampler) (earlier : List Readings) (r : Readings)
    (later : List Readings) :
    (s.polls (earlier ++ r :: later))[earlier.length]? = some ((s.after earlier).sample r) := by
  induction earlier generalizing s with
  | nil => rfl
  | cons x rest ih => exact ih _

end Sampler

/-- What a poll shows of the processor, and what it keeps, after earlier polls by a new sampler. -/
structure UsageTold (earlier : List Readings) (r : Readings) (poll : Poll) : Prop where
  completes : (∃ snapshot, poll.outcome = .ok snapshot) ↔ r.panics = false
  failed : ∀ e snapshot, r.cpu = .failed e → poll.outcome = .ok snapshot →
    snapshot.cpu = .unknown .sourceUnavailable
  first : ∀ ticks snapshot, r.cpu = .value ticks → poll.outcome = .ok snapshot →
    Unread earlier → snapshot.cpu = .unknown .firstSample
  later : ∀ ticks previous snapshot, r.cpu = .value ticks → poll.outcome = .ok snapshot →
    LastRead previous earlier → snapshot.cpu = usageBetween previous ticks
  /-- A good read becomes the baseline, whatever usage it showed. -/
  replaced : ∀ ticks, r.cpu = .value ticks → poll.sampler.tracker.previous = some ticks
  kept : ∀ e, r.cpu = .failed e →
    poll.sampler.tracker.previous = (Sampler.empty.after earlier).tracker.previous

/-- Every poll of every run shows the usage since the latest good read. -/
theorem polls_usageTold (earlier : List Readings) (r : Readings) (later : List Readings) :
    ∃ poll, (Sampler.empty.polls (earlier ++ r :: later))[earlier.length]? = some poll ∧
      UsageTold earlier r poll := by
  refine ⟨_, Sampler.polls_getElem? _ earlier r later, ?_⟩
  have baseline : (Sampler.empty.after earlier).tracker.previous = lastTicks? earlier := by
    simp [Sampler.after_previous, Sampler.empty, Cpu.Tracker.empty]
  constructor
  case completes => exact Sampler.sample_completes _ r
  case failed =>
    intro e snapshot bad completed
    rw [Sampler.sample_cpu completed, bad]
    rfl
  case first =>
    intro ticks snapshot good completed unread
    rw [Sampler.sample_cpu completed, good, Sampler.usage, Cpu.Tracker.usage, baseline,
      lastTicks?_eq_none_iff.2 unread]
  case later =>
    intro ticks previous snapshot good completed read
    rw [Sampler.sample_cpu completed, good, Sampler.usage, Cpu.Tracker.usage, baseline,
      lastTicks?_eq_some_iff.2 read]
  case replaced =>
    intro ticks good
    simp [Sampler.sample_previous, good, Reading.value?]
  case kept =>
    intro e bad
    simp [Sampler.sample_previous, bad, Reading.value?]

end CameraTelemetry.Host
