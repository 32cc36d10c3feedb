import CameraTelemetry.Proofs.Cache.Onward

/-!
# Refreshes end in time

Where timers fire when they are due, no time passes beyond the moment at which a task can go on. A
call that starts then is over within one limit, and a task has at most three of them to wait for, so
that the latest moment at which it can end never moves.
-/
namespace CameraTelemetry.Cache

variable {ω α : Type} {r : Remote ω α} {p : Policy} {s : Site ω α}

/-- Timers fire when they are due: time does not pass beyond the moment at which a task can go on.
-/
def Site.Punctual (r : Remote ω α) (p : Policy) (s : Site ω α) : List Action → Prop
  | [] => True
  | action :: rest =>
    (∀ time, action = .pass time →
      ∀ task ∈ s.cache.tasks, s.now + time.nanos ≤ task.phase.due s.now) ∧
    (s.step r p action).1.Punctual r p rest

/-- The latest moment at which a punctual task ends. -/
def Phase.latest (limit : Duration) (now : Instant) (phase : Phase α) : Instant :=
  phase.due now + phase.rank * limit.nanos

theorem Phase.le_latest (limit : Duration) (now : Instant) (phase : Phase α) :
    now ≤ phase.latest limit now :=
  Nat.le_add_right_of_le (Site.le_due phase now)

theorem max_eq_of_le_max {now later due : Nat} (passed : now ≤ later)
    (early : later ≤ max now due) :
    max later due = max now due := by
  omega

theorem Phase.latest_of_le {limit : Duration} {now later : Instant} {phase : Phase α}
    (passed : now ≤ later) (early : later ≤ phase.due now) :
    phase.latest limit later = phase.latest limit now := by
  have same : phase.due later = phase.due now := by
    cases phase with
    | spawned => exact Nat.le_antisymm early passed
    | attempting retry due result => exact max_eq_of_le_max passed early
    | renewing due result => exact max_eq_of_le_max passed early
  rw [latest, latest, same]

theorem Call.lasting_le (limit : Duration) (c : Call α) : (c.lasting limit).nanos ≤ limit.nanos :=
  Nat.min_le_right ..

/-- A phase that comes later and whose call starts now does not put off the end. -/
theorem Phase.latest_le_of_rank {limit : Duration} {now due : Instant} {phase later : Phase α}
    (starts : later.due now = max now due) (soon : due ≤ now + limit.nanos)
    (less : later.rank < phase.rank) : later.latest limit now ≤ phase.latest limit now := by
  have ends : max now due ≤ now + limit.nanos := Nat.max_le.2 ⟨Nat.le_add_right .., soon⟩
  calc later.due now + later.rank * limit.nanos
      ≤ now + limit.nanos + later.rank * limit.nanos := Nat.add_le_add_right (starts ▸ ends) _
    _ = now + (later.rank + 1) * limit.nanos := by
      rw [Nat.add_one_mul, Nat.add_assoc, Nat.add_comm limit.nanos]
    _ ≤ phase.due now + phase.rank * limit.nanos :=
      Nat.add_le_add (Site.le_due phase now) (Nat.mul_le_mul_right _ less)

/-- A task that goes on is gone, or its end is not put off. -/
theorem Onward.latest {id : Nat} {phase : Phase α} {done : Site ω α × List (Note α)}
    (onward : Onward r p s id phase done) (alone : s.cache.tasks = [⟨id, phase⟩]) :
    done.1.cache.tasks = [] ∨ ∃ later : Phase α, done.1.cache.tasks = [⟨id, later⟩] ∧
      later.latest p.fetchTimeout s.now ≤ phase.latest p.fetchTimeout s.now := by
  have soon {β : Type} (c : Call β) :
      s.now + (c.lasting p.fetchTimeout).nanos ≤ s.now + p.fetchTimeout.nanos :=
    Nat.add_le_add_left (c.lasting_le _) _
  have goes := setPhase_of_alone alone
  have gone : (s.cache.tasks.filter fun t => t.refresh != id) = [] := by simp [alone]
  cases onward with
  | waits early => exact .inr ⟨phase, alone, Nat.le_refl _⟩
  | first =>
    exact .inr ⟨_, goes _, Phase.latest_le_of_rank rfl (soon _) (by simp [Phase.rank])⟩
  | hook elapsed rejected known quiet =>
    exact .inr ⟨_, goes _, Phase.latest_le_of_rank rfl (soon _) (by simp [Phase.rank])⟩
  | retries elapsed returned quiet =>
    exact .inr ⟨_, goes _, Phase.latest_le_of_rank rfl (soon _) (by simp [Phase.rank])⟩
  | settles elapsed came last quiet => exact .inl ((finish_tasks ..).trans gone)
  | panics elapsed panicked quiet => exact .inl gone

/-- A task that is left alone is over by its latest moment. -/
theorem Site.drive_latest (r : Remote ω α) (p : Policy) (id : Nat) (moments : Nat) (s : Site ω α)
    (phase : Phase α) (alone : s.cache.tasks = [⟨id, phase⟩]) :
    (s.drive r p none moments).1.now ≤ phase.latest p.fetchTimeout s.now := by
  induction moments generalizing s phase with
  | zero => exact phase.le_latest p.fetchTimeout s.now
  | succ moments ih =>
    let ready := s.pass ⟨phase.due s.now - s.now⟩
    have moment : ready.now = phase.due s.now := Nat.add_sub_cancel' (le_due phase s.now)
    have waited : phase.latest p.fetchTimeout ready.now = phase.latest p.fetchTimeout s.now :=
      Phase.latest_of_le (moment ▸ le_due phase s.now) (Nat.le_of_eq moment)
    have onward := ready.proceed_onward r p id phase
    have rest : (s.drive r p none (moments + 1)).1 =
        ((ready.proceed r p id phase).1.drive r p none moments).1 := by
      simp [drive, alone, andThen, after, ready, ← work_of_alone (s := ready) alone]
    rw [rest, ← waited]
    rcases onward.latest alone with gone | ⟨later, tasks, soon⟩
    · have finished : ((ready.proceed r p id phase).1.drive r p none moments).1 =
          (ready.proceed r p id phase).1 := by
        cases moments <;> simp [drive, gone]
      rw [finished, onward.now_eq]
      exact phase.le_latest p.fetchTimeout ready.now
    · have ends := ih _ later tasks
      rw [onward.now_eq] at ends
      exact Nat.le_trans ends soon

/-- Three limits after its start every refresh has ended or will have. -/
structure InTime (limit : Duration) (now : Instant) (c : Cache α) (h : History α) : Prop where
  working : ∀ t₀ id phase, (t₀, .refreshStarted id) ∈ h → ⟨id, phase⟩ ∈ c.tasks →
    phase.latest limit now ≤ t₀ + 3 * limit.nanos
  ended : ∀ t₀ t id n outcome, (t₀, .refreshStarted id) ∈ h → (t, n) ∈ h → n.Ends id outcome →
    t ≤ t₀ + 3 * limit.nanos

namespace InTime

variable {limit : Duration} {now later : Instant} {c c' : Cache α} {h : History α}
  {notes : List (Note α)}

theorem silent (inTime : InTime limit now c h) (tasks : c'.tasks = c.tasks)
    (waits : ∀ t ∈ c.tasks, t.phase.latest limit later = t.phase.latest limit now)
    (unmarked : ∀ n ∈ notes, n.isMark = false) :
    InTime limit later c' (h ++ stamped now notes) := by
  have old {t : Instant} {n : Note α} (mem : (t, n) ∈ h ++ stamped now notes)
      (mark : n.isMark = true) : (t, n) ∈ h := by
    refine (List.mem_append.1 mem).resolve_right fun new => ?_
    simp [unmarked n (mem_stamped.1 new).2] at mark
  constructor
  · intro t₀ id phase started task
    rw [tasks] at task
    rw [waits _ task]
    exact inTime.working t₀ id phase (old started rfl) task
  · intro t₀ t id n outcome started told ends
    exact inTime.ended t₀ t id n outcome (old started rfl) (old told ends.isMark) ends

theorem begun (inTime : InTime limit now c h) (flight : Flight c h) (idle : c.tasks = [])
    (caller : Nat) :
    InTime limit now (c.spawn.await caller c.refreshes) (h ++ stamped now
      [.asked caller, .refreshStarted c.refreshes, .joined caller c.refreshes]) := by
  have unborn (t : Instant) : (t, Note.refreshStarted c.refreshes) ∉ h := fun started =>
    Nat.lt_irrefl _ ((flight.started_iff _).1 ⟨t, started⟩)
  have starts {t₀ : Instant} {id : Nat} (mem : (t₀, .refreshStarted id) ∈ h ++ stamped now
      [.asked caller, .refreshStarted c.refreshes, .joined caller c.refreshes]) :
      (t₀, .refreshStarted id) ∈ h ∨ t₀ = now ∧ id = c.refreshes := by
    simpa using mem
  constructor
  · intro t₀ id phase started task
    obtain ⟨rfl, rfl⟩ : id = c.refreshes ∧ phase = .spawned := by
      simpa [spawn, Cache.await, idle] using task
    obtain ⟨rfl, -⟩ := (starts started).resolve_left (unborn t₀)
    exact Nat.le_refl _
  · intro t₀ t id n outcome started told ends
    have told : (t, n) ∈ h := by
      refine (List.mem_append.1 told).resolve_right fun new => ?_
      have mem := (mem_stamped.1 new).2
      cases ends <;> simp at mem
    rcases starts started with old | ⟨-, rfl⟩
    · exact inTime.ended t₀ t id n outcome old told ends
    · obtain ⟨seen, said⟩ := ends.told
      have none := latest_eq_none_iff.1 (flight.unborn _ (Nat.le_refl _)) (t, n) told
      simp [said] at none

end InTime

theorem Site.step_inTime {h : History α} {action : Action}
    (inTime : InTime p.fetchTimeout s.now s.cache h) (flight : Flight s.cache h)
    (punctual : ∀ time, action = .pass time →
      ∀ task ∈ s.cache.tasks, s.now + time.nanos ≤ task.phase.due s.now) :
    InTime p.fetchTimeout (s.step r p action).1.now (s.step r p action).1.cache
      (h ++ stamped s.now (s.step r p action).2) := by
  have concerns := Site.step_concerns (r := r) (p := p) flight action
  generalize s.step r p action = done at concerns
  cases concerns with
  | aside world tasks number clock silent =>
    refine inTime.silent tasks (fun t mem => ?_) fun n mem => (silent n mem).2
    rcases clock with still | ⟨time, passes, passed⟩
    · rw [still]
    · rw [passed]
      exact Phase.latest_of_le (Nat.le_add_right ..) (punctual time passes t mem)
  | begins idle => exact inTime.begun flight idle _
  | @works id phase done alone onward =>
    have old {t₀ : Instant} {k : Nat} (mem : (t₀, .refreshStarted k) ∈ h ++ stamped s.now done.2) :
        (t₀, .refreshStarted k) ∈ h := by
      refine (List.mem_append.1 mem).resolve_right fun new => ?_
      obtain ⟨outcome, ends⟩ := onward.of_mark (mem_stamped.1 new).2 rfl
      cases ends
    have bound {t₀ : Instant} (started : (t₀, .refreshStarted id) ∈ h) :
        phase.latest p.fetchTimeout s.now ≤ t₀ + 3 * p.fetchTimeout.nanos :=
      inTime.working t₀ id phase started (by simp [alone])
    constructor
    · intro t₀ k phase' started task
      rw [onward.now_eq]
      rcases onward.latest alone with gone | ⟨later, tasks, soon⟩
      · simp [gone] at task
      · obtain ⟨rfl, rfl⟩ : k = id ∧ phase' = later := by simpa [tasks] using task
        exact Nat.le_trans soon (bound (old started))
    · intro t₀ t k n outcome started told ends
      rcases List.mem_append.1 told with before | new
      · exact inTime.ended t₀ t k n outcome (old started) before ends
      · obtain ⟨rfl, mem⟩ := mem_stamped.1 new
        obtain ⟨outcome', own⟩ := onward.of_mark mem ends.isMark
        obtain rfl : k = id := by cases ends <;> cases own <;> rfl
        exact Nat.le_trans (phase.le_latest p.fetchTimeout s.now) (bound (old started))

theorem Site.run_inTime_from (actions : List Action) {s : Site ω α} {h : History α}
    (reached : Reached p s.now s.cache h) (inTime : InTime p.fetchTimeout s.now s.cache h)
    (punctual : s.Punctual r p actions) :
    InTime p.fetchTimeout (s.run r p actions).1.now (s.run r p actions).1.cache
      (h ++ (s.run r p actions).2) := by
  induction actions generalizing s h with
  | nil => simpa [run] using inTime
  | cons action rest ih =>
    have next := ih (step_reached r reached action) (step_inTime inTime reached.flight punctual.1)
      punctual.2
    simpa only [run, List.append_assoc] using next

end CameraTelemetry.Cache
