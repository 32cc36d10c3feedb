import CameraTelemetry.Cache.Schedule

/-!
# A refresh that is left alone ends

Each piece of work brings the task of a refresh to its end or to a later phase, of which there are
four. A task that is run at its moments is therefore over after as many of them.
-/
namespace CameraTelemetry.Cache

variable {ω α : Type}

/-- How much of a refresh is still ahead. -/
def Phase.rank : Phase α → Nat
  | spawned => 3
  | attempting false .. => 2
  | renewing .. => 1
  | attempting true .. => 0

theorem Phase.rank_lt (phase : Phase α) : phase.rank < Site.momentsPerRefresh := by
  unfold Phase.rank
  split <;> decide

namespace Site

/-- The task is gone, and no refresh is noted. -/
def Ended (s : Site ω α) (id : Nat) (next : Cache α) : Prop :=
  next.inflight = none ∧ next.tasks = s.cache.tasks.filter fun t => t.refresh != id

def Advanced (s : Site ω α) (id : Nat) (phase : Phase α) (next : Cache α) : Prop :=
  ∃ later : Phase α, later.rank < phase.rank ∧ next.tasks = (s.cache.setPhase id later).tasks

theorem attemptEnded_progress (r : Remote ω α) (p : Policy) (s : Site ω α) (id : Nat)
    (retry : Bool) (due : Instant) (result : Bounded α) (outcome : Except FetchFailure α) :
    s.Ended id (s.attemptEnded r p id retry outcome).1.cache ∨
      s.Advanced id (.attempting retry due result)
        (s.attemptEnded r p id retry outcome).1.cache := by
  unfold attemptEnded
  split
  · exact .inr ⟨_, by simp [Phase.rank], rfl⟩
  · exact .inl ⟨finish_inflight .., finish_tasks ..⟩

/-- A task whose moment has come ends or goes on to a later phase. -/
theorem proceed_progress (r : Remote ω α) (p : Policy) (s : Site ω α) (id : Nat) (phase : Phase α)
    (ready : phase.due s.now = s.now) :
    s.Ended id (s.proceed r p id phase).1.cache ∨
      s.Advanced id phase (s.proceed r p id phase).1.cache := by
  cases phase with
  | spawned => exact .inr ⟨_, by simp [Phase.rank], rfl⟩
  | attempting retry due result =>
    have elapsed : ¬ s.now < due := Nat.not_lt.2 (ready ▸ Nat.le_max_right s.now due)
    simp only [proceed, if_neg elapsed]
    cases result with
    | cutOff => exact s.attemptEnded_progress r p id retry due _ _
    | ended ending events =>
      cases ending with
      | value a => exact s.attemptEnded_progress r p id retry due _ _
      | failed e => exact s.attemptEnded_progress r p id retry due _ _
      | panicked payload => exact .inl ⟨rfl, rfl⟩
  | renewing due result =>
    have elapsed : ¬ s.now < due := Nat.not_lt.2 (ready ▸ Nat.le_max_right s.now due)
    simp only [proceed, if_neg elapsed]
    cases result with
    | cutOff => exact .inr ⟨_, by simp [Phase.rank], rfl⟩
    | ended ending events =>
      cases ending with
      | value u => exact .inr ⟨_, by simp [Phase.rank], rfl⟩
      | failed e => exact .inr ⟨_, by simp [Phase.rank], rfl⟩
      | panicked payload => exact .inl ⟨rfl, rfl⟩

theorem due_idem (phase : Phase α) (now : Instant) : phase.due (phase.due now) = phase.due now := by
  cases phase <;> simp [Phase.due]

theorem le_due (phase : Phase α) (now : Instant) : now ≤ phase.due now := by
  cases phase with
  | spawned => exact Nat.le_refl now
  | attempting retry due result => exact Nat.le_max_left now due
  | renewing due result => exact Nat.le_max_left now due

/-- A task that is run at its moments comes to its end. -/
theorem drive_ends (r : Remote ω α) (p : Policy) (id : Nat) (moments : Nat) (s : Site ω α)
    (phase : Phase α) (alone : s.cache.tasks = [⟨id, phase⟩]) (enough : phase.rank < moments) :
    (s.drive r p none moments).1.cache.inflight = none := by
  induction moments generalizing s phase with
  | zero => omega
  | succ moments ih =>
    let ready := s.pass ⟨phase.due s.now - s.now⟩
    have moment : ready.now = phase.due s.now := Nat.add_sub_cancel' (le_due phase s.now)
    have run : ready.work r p id = ready.proceed r p id phase := work_of_alone alone
    have rest : (s.drive r p none (moments + 1)).1 =
        ((ready.work r p id).1.drive r p none moments).1 := by
      simp [drive, alone, andThen, after, ready]
    rw [rest, run]
    rcases ready.proceed_progress r p id phase (by rw [moment, due_idem]) with
      ⟨free, gone⟩ | ⟨later, less, tasks⟩
    · have idle : (ready.proceed r p id phase).1.cache.tasks = [] := by
        simpa [ready, pass, alone] using gone
      cases moments with
      | zero => exact free
      | succ moments => simpa [drive, idle] using free
    · exact ih _ later (by simpa [ready, pass, setPhase, alone] using tasks) (by omega)

end Site

end CameraTelemetry.Cache
