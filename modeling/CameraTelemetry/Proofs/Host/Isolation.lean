import CameraTelemetry.Proofs.Host.Baseline
import Mathlib.Data.List.Forall2

/-!
# A failed family is isolated

What one family of a host answers has no effect on the others. Two runs of a sampler in which the
host answers alike but for one family, where that family panics in both or in neither, have
snapshots that are alike but for that family. Only the processor leaves a trace in later snapshots,
through the sample that the next one is compared with. Each family that is down is warned about
once.
-/
namespace CameraTelemetry.Host

open Journal (Event)

/-! ## Readings and snapshots that differ in one family -/

def Reading.payload? {α : Type} : Reading α → Option String
  | .panicked payload => some payload
  | _ => none

def Reading.failure? {α : Type} : Reading α → Option SourceFailure
  | .failed e => some e
  | _ => none

namespace Readings

/-- The readings agree in all families but one. -/
structure SameBut (f : Family) (r r' : Readings) : Prop where
  uptime : f ≠ .uptime → r.uptime = r'.uptime
  memory : f ≠ .memory → r.memory = r'.memory
  load : f ≠ .load → r.load = r'.load
  cpu : f ≠ .cpu → r.cpu = r'.cpu
  network : f ≠ .network → r.network = r'.network
  filesystem : f ≠ .filesystem → r.filesystem = r'.filesystem
  processes : f ≠ .processes → r.processes = r'.processes

def payload? (r : Readings) : Family → Option String
  | .uptime => r.uptime.payload?
  | .memory => r.memory.payload?
  | .load => r.load.payload?
  | .cpu => r.cpu.payload?
  | .network => r.network.payload?
  | .filesystem => r.filesystem.payload?
  | .processes => r.processes.payload?

theorem SameBut.refl (f : Family) (r : Readings) : r.SameBut f r := by
  constructor <;> exact fun _ => rfl

/-- The readings agree in all families but one, which panics in both alike or in neither. -/
def Alike (f : Family) (r r' : Readings) : Prop :=
  r.SameBut f r' ∧ r.payload? f = r'.payload? f

variable {f : Family} {r r' : Readings}

theorem Alike.refl (f : Family) (r : Readings) : r.Alike f r := ⟨.refl f r, rfl⟩

theorem Alike.payload (alike : r.Alike f r') (g : Family) : r.payload? g = r'.payload? g := by
  obtain ⟨same, payload⟩ := alike
  by_cases own : f = g
  · exact own ▸ payload
  · cases g with
    | uptime => exact congrArg Reading.payload? (same.uptime own)
    | memory => exact congrArg Reading.payload? (same.memory own)
    | load => exact congrArg Reading.payload? (same.load own)
    | cpu => exact congrArg Reading.payload? (same.cpu own)
    | network => exact congrArg Reading.payload? (same.network own)
    | filesystem => exact congrArg Reading.payload? (same.filesystem own)
    | processes => exact congrArg Reading.payload? (same.processes own)

end Readings

structure Snapshot.SameBut (f : Family) (s s' : Snapshot) : Prop where
  uptime : f ≠ .uptime → s.uptime = s'.uptime
  memory : f ≠ .memory → s.memory = s'.memory
  load : f ≠ .load → s.load = s'.load
  cpu : f ≠ .cpu → s.cpu = s'.cpu
  network : f ≠ .network → s.network = s'.network
  filesystem : f ≠ .filesystem → s.filesystem = s'.filesystem
  processes : f ≠ .processes → s.processes = s'.processes

/-- Polls come to snapshots that agree in all families but one, or end by the same panic. -/
inductive SameOutcome (f : Family) : Except String Snapshot → Except String Snapshot → Prop
  | ok {s s' : Snapshot} (same : s.SameBut f s') : SameOutcome f (.ok s) (.ok s')
  | error (payload : String) : SameOutcome f (.error payload) (.error payload)

/-! ## One poll -/

namespace Sampler

variable {f : Family} {r r' : Readings} {s s' : Sampler}

theorem readOthers_eq (r : Readings) (usage : Cpu.Usage) :
    readOthers r usage =
      r.uptime.result.bind fun uptime => r.memory.result.bind fun memory =>
      r.load.result.bind fun load => r.network.result.bind fun network =>
      r.filesystem.result.bind fun filesystem => r.processes.result.bind fun processes =>
        .ok ⟨uptime, memory, load, usage, network, filesystem, processes⟩ := by
  unfold readOthers
  repeat' split
  all_goals simp [Except.bind, *]

/-- What follows two readings that panic alike or not at all. -/
theorem sameOutcome_bind {α : Type} {x x' : Reading α}
    {next next' : Except SourceFailure α → Except String Snapshot}
    (payload : x.payload? = x'.payload?)
    (later : ∀ a a', x.result = .ok a → x'.result = .ok a' → SameOutcome f (next a) (next' a')) :
    SameOutcome f (x.result.bind next) (x'.result.bind next') := by
  match x, x', payload with
  | .panicked payload, .panicked _, rfl => exact .error payload
  | .value _, .value _, _ | .value _, .failed _, _ | .failed _, .value _, _
  | .failed _, .failed _, _ => exact later _ _ rfl rfl

theorem readOthers_alike {usage usage' : Cpu.Usage} (alike : r.Alike f r')
    (processor : f ≠ .cpu → usage = usage') :
    SameOutcome f (readOthers r usage) (readOthers r' usage') := by
  have only {α : Type} {x x' : Reading α} {a a' : Except SourceFailure α} (same : x = x')
      (found : x.result = .ok a) (found' : x'.result = .ok a') : a = a' := by
    subst same
    exact Except.ok.inj (found.symm.trans found')
  have same := alike.1
  rw [readOthers_eq, readOthers_eq]
  refine sameOutcome_bind (alike.payload .uptime) fun uptime uptime' u u' => ?_
  refine sameOutcome_bind (alike.payload .memory) fun memory memory' m m' => ?_
  refine sameOutcome_bind (alike.payload .load) fun load load' l l' => ?_
  refine sameOutcome_bind (alike.payload .network) fun network network' n n' => ?_
  refine sameOutcome_bind (alike.payload .filesystem) fun filesystem filesystem' d d' => ?_
  refine sameOutcome_bind (alike.payload .processes) fun processes processes' p p' => ?_
  exact .ok
    { uptime := fun other => only (same.uptime other) u u'
      memory := fun other => only (same.memory other) m m'
      load := fun other => only (same.load other) l l'
      cpu := processor
      network := fun other => only (same.network other) n n'
      filesystem := fun other => only (same.filesystem other) d d'
      processes := fun other => only (same.processes other) p p' }

theorem sample_outcome_eq (s : Sampler) (r : Readings) :
    (s.sample r).outcome = r.cpu.result.bind fun _ => readOthers r (s.usage r.cpu) := by
  rw [sample_outcome]
  cases r.cpu <;> rfl

/-- Polls of hosts that answer alike but for one family come to the same but for that family. -/
theorem sample_alike (alike : r.Alike f r') (baseline : f ≠ .cpu → s = s') :
    SameOutcome f (s.sample r).outcome (s'.sample r').outcome := by
  rw [sample_outcome_eq, sample_outcome_eq]
  refine sameOutcome_bind (alike.payload .cpu) fun _ _ _ _ => ?_
  exact readOthers_alike alike fun other => by rw [baseline other, alike.1.cpu other]

theorem eq_of_previous (same : s.tracker.previous = s'.tracker.previous) : s = s' := by
  obtain ⟨⟨previous⟩⟩ := s
  obtain ⟨⟨previous'⟩⟩ := s'
  exact congrArg (fun ticks => Sampler.mk ⟨ticks⟩) same

/-- A family other than the processor leaves nothing behind in the sampler. -/
theorem sample_sampler_eq (alike : r.Alike f r') (other : f ≠ .cpu) :
    (s.sample r).sampler = (s.sample r').sampler := by
  have previous :
      (s.sample r).sampler.tracker.previous = (s.sample r').sampler.tracker.previous := by
    rw [sample_previous, sample_previous, alike.1.cpu other]
  exact eq_of_previous previous

/-! ## One poll after the other -/

theorem polls_append (s : Sampler) (rs rs' : List Readings) :
    s.polls (rs ++ rs') = s.polls rs ++ (s.after rs).polls rs' := by
  induction rs generalizing s with
  | nil => rfl
  | cons r rest ih => rw [List.cons_append, polls, ih, polls, List.cons_append, after]

theorem polls_length (s : Sampler) (rs : List Readings) : (s.polls rs).length = rs.length := by
  induction rs generalizing s with
  | nil => rfl
  | cons r rest ih => rw [polls, List.length_cons, ih, List.length_cons]

theorem polls_drop (s : Sampler) (earlier : List Readings) (r : Readings) (later : List Readings) :
    (s.polls (earlier ++ r :: later)).drop (earlier.length + 1) =
      ((s.after earlier).sample r).sampler.polls later := by
  rw [polls_append, ← polls_length s earlier, polls]
  simp [List.drop_append]

/-- Runs in which the host answers alike but for one family come to the same but for that family, at
every step. -/
theorem polls_alike {rs rs' : List Readings} (alike : List.Forall₂ (Readings.Alike f) rs rs')
    (baseline : f ≠ .cpu → s = s') :
    List.Forall₂ (fun poll poll' => SameOutcome f poll.outcome poll'.outcome)
      (s.polls rs) (s'.polls rs') := by
  induction alike generalizing s s' with
  | nil => exact .nil
  | cons here rest ih =>
    refine .cons (sample_alike here baseline) (ih fun other => ?_)
    rw [baseline other, sample_sampler_eq here other]

end Sampler

/-! ## Warnings -/

def Readings.failure? (r : Readings) : Family → Option SourceFailure
  | .uptime => r.uptime.failure?
  | .memory => r.memory.failure?
  | .load => r.load.failure?
  | .cpu => r.cpu.failure?
  | .network => r.network.failure?
  | .filesystem => r.filesystem.failure?
  | .processes => r.processes.failure?

def warningAbout : Family → SourceFailure → Event
  | .cpu => Sampler.cpuWarning
  | _ => Sampler.familyWarning

/-- The families other than the processor, in the order in which their failures are told. -/
def toldFamilies : List Family := [.uptime, .memory, .load, .network, .filesystem, .processes]

/-- The warnings of a poll that was carried out are about the families that are down, each one once,
the processor first and then in the order of the failures. -/
structure Warned (r : Readings) (events : List Event) (s : Snapshot) : Prop where
  events_eq : events =
    (.cpu :: toldFamilies).filterMap fun f => (r.failure? f).map (warningAbout f)
  /-- A family is down if it failed, and is up if it did not. -/
  sources : ∀ f up, (f, up) ∈ s.sources ↔ up = (r.failure? f).isNone
  failures : s.failures = toldFamilies.filterMap r.failure?
  level : ∀ e ∈ events, e.level = .warn

theorem Reading.failure?_eq {α : Type} {x : Reading α} {result : Except SourceFailure α}
    (found : x.result = .ok result) : x.failure? = Snapshot.failure? result := by
  cases x with
  | panicked payload => cases found
  | value a | failed e =>
    obtain rfl := Except.ok.inj found
    rfl

theorem isOk_eq {α : Type} (result : Except SourceFailure α) :
    result.isOk = (Snapshot.failure? result).isNone := by
  cases result <;> rfl

namespace Sampler

variable {s : Sampler} {r : Readings} {snapshot : Snapshot}

/-- What a poll that was carried out found of each family. -/
structure Found (r : Readings) (usage : Cpu.Usage) (s : Snapshot) : Prop where
  uptime : r.uptime.result = .ok s.uptime
  memory : r.memory.result = .ok s.memory
  load : r.load.result = .ok s.load
  cpu : s.cpu = usage
  network : r.network.result = .ok s.network
  filesystem : r.filesystem.result = .ok s.filesystem
  processes : r.processes.result = .ok s.processes

theorem readOthers_found {usage : Cpu.Usage} (completed : readOthers r usage = .ok snapshot) :
    Found r usage snapshot := by
  unfold readOthers at completed
  repeat' split at completed
  all_goals cases completed
  constructor <;> first | assumption | rfl

theorem usage_ne_unavailable (t : Cpu.Tracker) (ticks : Cpu.Ticks) :
    t.usage ticks ≠ .unknown .sourceUnavailable := by
  grind [Cpu.Tracker.usage, Cpu.usageBetween]

theorem failures_eq {usage : Cpu.Usage} (found : Found r usage snapshot) :
    snapshot.failures = toldFamilies.filterMap r.failure? := by
  simp [Snapshot.failures, toldFamilies, Readings.failure?, Reading.failure?_eq found.uptime,
    Reading.failure?_eq found.memory, Reading.failure?_eq found.load,
    Reading.failure?_eq found.network, Reading.failure?_eq found.filesystem,
    Reading.failure?_eq found.processes, List.filterMap_cons]

/-- The processor is down just when it failed. -/
theorem usage_up (s : Sampler) {x : Reading Cpu.Ticks} (calm : x.panics = false) :
    (s.usage x != .unknown .sourceUnavailable) = x.failure?.isNone := by
  cases x with
  | value ticks => simpa [usage, Reading.failure?] using usage_ne_unavailable s.tracker ticks
  | failed e => simp [usage, Reading.failure?]
  | panicked payload => cases calm

theorem sources_iff (found : Found r (s.usage r.cpu) snapshot) (calm : r.cpu.panics = false)
    (f : Family) (up : Bool) : (f, up) ∈ snapshot.sources ↔ up = (r.failure? f).isNone := by
  cases f <;>
    simp [Snapshot.sources, Readings.failure?, isOk_eq, found.cpu, usage_up s calm,
      Reading.failure?_eq found.uptime, Reading.failure?_eq found.memory,
      Reading.failure?_eq found.load, Reading.failure?_eq found.network,
      Reading.failure?_eq found.filesystem, Reading.failure?_eq found.processes]

theorem sample_events (completed : (s.sample r).outcome = .ok snapshot) :
    (s.sample r).events =
      r.cpu.failure?.toList.map cpuWarning ++ snapshot.failures.map familyWarning := by
  rw [sample_outcome] at completed
  unfold sample
  cases read : r.cpu <;> simp_all [finish, Reading.failure?, Cpu.Tracker.observe, usage]

theorem cpu_calm (completed : (s.sample r).outcome = .ok snapshot) : r.cpu.panics = false := by
  have survived := (sample_completes s r).1 ⟨snapshot, completed⟩
  rw [Readings.panics, Bool.or_eq_false_iff] at survived
  exact survived.1

theorem sample_found (completed : (s.sample r).outcome = .ok snapshot) :
    Found r (s.usage r.cpu) snapshot := by
  rw [sample_outcome] at completed
  split at completed
  · cases completed
  · exact readOthers_found completed

/-- Every family that is down is warned about, and no other. -/
theorem sample_warned (completed : (s.sample r).outcome = .ok snapshot) :
    Warned r (s.sample r).events snapshot := by
  have found := sample_found completed
  have others : (toldFamilies.filterMap r.failure?).map familyWarning =
      toldFamilies.filterMap fun f => (r.failure? f).map (warningAbout f) := by
    rw [List.map_filterMap]
    refine List.filterMap_congr fun f told => ?_
    have apart : ∀ g ∈ toldFamilies, warningAbout g = familyWarning := by
      simp [toldFamilies, warningAbout]
    rw [apart f told]
  have events : (s.sample r).events =
      (.cpu :: toldFamilies).filterMap fun f => (r.failure? f).map (warningAbout f) := by
    rw [sample_events completed, failures_eq found, others, List.filterMap_cons]
    cases failed : r.failure? .cpu <;> rw [show r.cpu.failure? = _ from failed] <;> rfl
  constructor
  case events_eq => exact events
  case sources => exact sources_iff found (cpu_calm completed)
  case failures => exact failures_eq found
  case level =>
    intro e mem
    rw [events] at mem
    obtain ⟨f, -, failed⟩ := List.mem_filterMap.1 mem
    obtain ⟨e', -, rfl⟩ := Option.map_eq_some_iff.1 failed
    cases f <;> rfl

theorem polls_completes (s : Sampler) (rs : List Readings) :
    List.Forall₂ (fun r poll => (∃ snapshot, poll.outcome = .ok snapshot) ↔ r.panics = false) rs
      (s.polls rs) := by
  induction rs generalizing s with
  | nil => exact .nil
  | cons r rest ih => exact .cons (s.sample_completes r) (ih _)

theorem polls_warned (s : Sampler) (rs : List Readings) :
    List.Forall₂ (fun r poll => ∀ snapshot, poll.outcome = .ok snapshot →
      Warned r poll.events snapshot) rs (s.polls rs) := by
  induction rs generalizing s with
  | nil => exact .nil
  | cons r rest ih => exact .cons (fun _ completed => sample_warned completed) (ih _)

end Sampler

end CameraTelemetry.Host
