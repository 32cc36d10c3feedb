import CameraTelemetry.Proofs.Cache.LastSuccess

/-!
# The time to live

While the time to live of a success lasts no attempt is started, and the first caller who asks after
it starts one. A value that is handed out as fresh was within its time when its caller asked, or is
younger than the question.
-/
namespace CameraTelemetry.Cache

variable {ω α : Type} {p : Policy} {now : Instant} {c c' : Cache α} {h : History α}
  {notes : List (Note α)} {e : Entry α}

theorem Reached.newest (reached : Reached p now c h) {captured : Instant}
    (success : SucceededAt captured h) : ∃ e, c.entry = some e ∧ captured ≤ e.capturedAt := by
  induction reached with
  | start now =>
    obtain ⟨id, value, hx⟩ := success
    simp at hx
  | pass time reached ih => exact ih success
  | murmur reached quiet ih =>
    obtain ⟨id, value, hx⟩ := success
    rcases List.mem_append.1 hx with old | new
    · exact ih ⟨id, value, old⟩
    · simpa [Note.isPassing] using quiet _ (mem_stamped.1 new).2
  | move reached move ih =>
    obtain ⟨id, value, hx⟩ := success
    rcases List.mem_append.1 hx with old | new
    · obtain ⟨e, he, le⟩ := ih ⟨id, value, old⟩
      obtain ⟨later, hlater, le'⟩ := reached.younger he _
      exact ⟨later, move.entry.trans hlater, Nat.le_trans le le'⟩
    · obtain ⟨rfl, hn⟩ := mem_stamped.1 new
      obtain ⟨-, rfl⟩ := move.of_stored hn
      exact ⟨_, rfl, Nat.le_refl _⟩

/-- Where nothing is fresh the time of every success is over. -/
theorem Reached.outlived (reached : Reached p now c h) (expired : c.fresh? p now = none)
    {captured : Instant} (success : SucceededAt captured h) : captured + p.ttl.nanos ≤ now := by
  obtain ⟨e, he, le⟩ := reached.newest success
  have old := fresh?_eq_none_iff.1 expired e he
  calc captured + p.ttl.nanos
      ≤ e.capturedAt + p.ttl.nanos := Nat.add_le_add_right le _
    _ ≤ now := Nat.add_le_of_le_sub' (reached.captured_le he) old

/-- A refresh has succeeded with this entry, and none has been started since. -/
structure Settled (c : Cache α) (e : Entry α) : Prop where
  free : c.inflight = none
  entry : c.entry = some e

/-- Only a caller who asks after the time to live changes that. -/
theorem Move.settled (reached : Reached p now c h) (settled : Settled c e)
    (early : ∀ k, .asked k ∈ notes → now < e.capturedAt + p.ttl.nanos)
    (move : Move p now c notes c') : Settled c' e := by
  have idle {id : Nat} {phase : Phase α} (task : ⟨id, phase⟩ ∈ c.tasks) : False := by
    simpa [settled.free] using reached.flight.noted_of_task task
  cases move with
  | rest => exact settled
  | leave caller => exact ⟨settled.free, settled.entry⟩
  | hit waits fresh => exact settled
  | join waits expired noted => simp [settled.free] at noted
  | @start caller waits expired free =>
    have elapsed := reached.outlived expired (reached.succeeded settled.entry)
    exact absurd (early caller (by simp)) (Nat.not_lt.2 elapsed)
  | attempt due result task => exact (idle task).elim
  | renew due result task elapsed rejected => exact (idle task).elim
  | retry due result task elapsed => exact (idle task).elim
  | store task elapsed brought => exact (idle task).elim
  | fail task elapsed failed => exact (idle task).elim
  | abort payload task ran => exact (idle task).elim
  | resume waits woken => exact ⟨settled.free, settled.entry⟩

namespace Site

theorem step_settled (r : Remote ω α) {s : Site ω α} (reached : Reached p s.now s.cache h)
    (settled : Settled s.cache e) (action : Action)
    (early : ∀ k, .asked k ∈ (s.step r p action).2 → s.now < e.capturedAt + p.ttl.nanos) :
    Settled (s.step r p action).1.cache e := by
  rcases s.step_moved r p action with ⟨-, passing, notes, parts, -, move⟩ | ⟨time, passed⟩
  · refine move.settled reached settled fun k hk => early k ?_
    rw [parts]
    exact List.mem_append_right _ hk
  · rw [passed]
    exact settled

theorem run_settled (r : Remote ω α) (actions : List Action) {s : Site ω α}
    (reached : Reached p s.now s.cache h) (settled : Settled s.cache e)
    (early : ∀ t k, (t, .asked k) ∈ (s.run r p actions).2 → t < e.capturedAt + p.ttl.nanos) :
    Settled (s.run r p actions).1.cache e := by
  induction actions generalizing s h with
  | nil => exact settled
  | cons action rest ih =>
    refine ih (step_reached r reached action) (step_settled r reached settled action ?_) ?_
    · exact fun k hk => early s.now k (List.mem_append_left _ (mem_stamped.2 ⟨rfl, hk⟩))
    · exact fun t k hk => early t k (List.mem_append_right _ hk)

/-- A task that was not run yet stays so until it is run. -/
theorem step_spawned (r : Remote ω α) {s : Site ω α} {id : Nat}
    (reached : Reached p s.now s.cache h) (alone : s.cache.tasks = [⟨id, .spawned⟩])
    (action : Action) (other : action ≠ .work id) :
    (s.step r p action).1.cache.tasks = [⟨id, .spawned⟩] := by
  cases action with
  | get caller =>
    have task : ⟨id, .spawned⟩ ∈ s.cache.tasks := by simp [alone]
    have noted := reached.flight.noted_of_task task
    by_cases waits : s.cache.isWaiting caller = true
    · simpa [step, get, waits] using alone
    · have idle : s.cache.isWaiting caller = false := by simpa using waits
      rw [step, get_of_noted idle (reached.expired (by simp [noted])) noted]
      exact alone
  | resume caller =>
    simp only [step, resume]
    split
    · exact alone
    · exact alone
  | abandon caller => exact alone
  | work k =>
    have apart : id ≠ k := fun same => other (same ▸ rfl)
    simp [step, work, alone, apart]
  | pass time => exact alone

theorem run_spawned (r : Remote ω α) (actions : List Action) {s : Site ω α} {id : Nat}
    (reached : Reached p s.now s.cache h) (alone : s.cache.tasks = [⟨id, .spawned⟩])
    (others : .work id ∉ actions) :
    (s.run r p actions).1.cache.tasks = [⟨id, .spawned⟩] := by
  induction actions generalizing s h with
  | nil => exact alone
  | cons action rest ih =>
    simp only [List.mem_cons, not_or] at others
    exact ih (step_reached r reached action)
      (step_spawned r reached alone action (Ne.symm others.1)) others.2

/-- The caller starts a refresh, and the first work of its task starts an attempt, whatever happens
before that. -/
def StartsAttempt (r : Remote ω α) (p : Policy) (s : Site ω α) (caller : Nat) : Prop :=
  (s.get p caller).2 =
    [.asked caller, .refreshStarted s.cache.refreshes, .joined caller s.cache.refreshes] ∧
  ∀ others, .work s.cache.refreshes ∉ others →
    (((s.get p caller).1.run r p others).1.work r p s.cache.refreshes).2 =
      [.attemptStarted s.cache.refreshes false]

theorem startsAttempt (r : Remote ω α) {s : Site ω α} {caller : Nat}
    (reached : Reached p s.now s.cache h) (idle : s.cache.isWaiting caller = false)
    (expired : s.cache.fresh? p s.now = none) (free : s.cache.inflight = none) :
    s.StartsAttempt r p caller := by
  have asked := get_of_free idle expired free
  refine ⟨by rw [asked], fun others quiet => ?_⟩
  have next := step_reached r reached (.get caller)
  have none : s.cache.tasks = [] := by simpa [free] using reached.flight.tasks_eq
  have alone : (s.get p caller).1.cache.tasks = [⟨s.cache.refreshes, .spawned⟩] := by
    simp [asked, spawn, Cache.await, none]
  have still := run_spawned r others next alone quiet
  exact congrArg Prod.snd (work_of_alone still)

end Site

/-- A waiting caller has asked; once it carries a success the entry is no older than its question.
-/
def Questioned (h : History α) (entry : Option (Entry α)) (w : Waiter) : Prop :=
  ∃ asked, askedAt w.caller h = some asked ∧
    (w.outcome = some (.ok ()) → ∃ e, entry = some e ∧ asked ≤ e.capturedAt)

theorem Reached.askedAt_le (reached : Reached p now c h) {caller : Nat} {asked : Instant}
    (ha : askedAt caller h = some asked) : asked ≤ now := by
  obtain ⟨x, hx, hn⟩ := exists_of_latest ha
  simp only [Option.ite_none_right_eq_some, Option.some.injEq] at hn
  exact hn.2 ▸ reached.past x hx

theorem Reached.questioned (reached : Reached p now c h) :
    ∀ w ∈ c.waiters, Questioned h c.entry w := by
  induction reached with
  | start now => simp [empty]
  | pass time reached ih => exact ih
  | murmur reached quiet ih =>
    intro w hw
    obtain ⟨asked, ha, young⟩ := ih w hw
    have apart n hn := Note.not_arrives_of_passing (quiet n hn) w.caller
    exact ⟨asked, (askedAt_append apart).trans ha, young⟩
  | move reached move ih =>
    intro w hw
    cases move.carries hw with
    | before old apart unended =>
      obtain ⟨asked, ha, young⟩ := ih w old
      refine ⟨asked, (askedAt_append apart).trans ha, fun ok => ?_⟩
      obtain ⟨e, he, le⟩ := young ok
      obtain ⟨later, hlater, le'⟩ := reached.younger he _
      exact ⟨later, move.entry.trans hlater, Nat.le_trans le le'⟩
    | arrived asks joins shared unended waits =>
      exact ⟨_, askedAt_of_asked asks, by simp [waits]⟩
    | woken v outcome old apart told same =>
      subst same
      obtain ⟨asked, ha, -⟩ := ih v old
      refine ⟨asked, (askedAt_append apart).trans ha, fun ok => ?_⟩
      obtain rfl : outcome = .ok () := by simpa using ok
      obtain ⟨t, value, stored⟩ := stored_of_outcomeOf told
      obtain ⟨-, rfl⟩ := move.of_stored (mem_stamped.1 stored).2
      exact ⟨_, rfl, reached.askedAt_le ha⟩

/-- The flag of an answer is the outcome that the caller carried. -/
theorem resolve_ok {metric : String} {entry : Option (Entry α)} {outcome : Outcome} {l : Lookup α}
    (answer : .ok l = resolve metric entry outcome now) :
    (∃ e, entry = some e ∧ l = e.lookup now l.stale) ∧ (l.stale = false ↔ outcome = .ok ()) := by
  cases entry with
  | none => cases outcome <;> simp [resolve] at answer
  | some e =>
    cases outcome with
    | ok u =>
      obtain rfl : l = e.lookup now false := by simpa [resolve] using answer
      exact ⟨⟨e, rfl, rfl⟩, by simp [Entry.lookup]⟩
    | error cause =>
      obtain rfl : l = e.lookup now true := by simpa [resolve] using answer
      exact ⟨⟨e, rfl, rfl⟩, by simp [Entry.lookup]⟩

/-- What holds of the time to live at a point of a run. -/
structure TimeKept (r : Remote ω α) (p : Policy) (s : Site ω α) (h : History α) : Prop where
  /-- No refresh and no attempt is started before the time to live of a success is over. -/
  quiet : ∀ captured action id retry, SucceededAt captured h →
    .refreshStarted id ∈ (s.step r p action).2 ∨
      .attemptStarted id retry ∈ (s.step r p action).2 → captured + p.ttl.nanos ≤ s.now
  /-- The first caller who asks after that time starts an attempt. -/
  first : ∀ action id value actions caller, .stored id value ∈ (s.step r p action).2 →
    (∀ t k, (t, .asked k) ∈ ((s.step r p action).1.run r p actions).2 →
      t < s.now + p.ttl.nanos) →
    s.now + p.ttl.nanos ≤ ((s.step r p action).1.run r p actions).1.now →
    ((s.step r p action).1.run r p actions).1.cache.isWaiting caller = false →
    ((s.step r p action).1.run r p actions).1.StartsAttempt r p caller
  /-- A value handed out as fresh was so when its caller asked, or was captured no earlier. -/
  fresh_when_asked : ∀ action caller l, .answered caller (.ok l) ∈ (s.step r p action).2 →
    l.stale = false →
    ∃ asked e, askedAt caller (h ++ stamped s.now (s.step r p action).2) = some asked ∧
      s.cache.entry = some e ∧ l = e.lookup s.now false ∧
      (asked < e.capturedAt + p.ttl.nanos ∨ asked ≤ e.capturedAt)

/-- At every point of every run the time to live of the last success is kept. -/
theorem run_timeKept (r : Remote ω α) (p : Policy) (world : ω) (origin : Instant)
    (actions : List Action) :
    TimeKept r p ((Site.start world origin).run r p actions).1
      ((Site.start world origin).run r p actions).2 := by
  have reached := Site.run_reached r p world origin actions
  generalize ((Site.start world origin).run r p actions).1 = s at reached
  generalize ((Site.start world origin).run r p actions).2 = h at reached
  constructor
  case quiet =>
    intro captured action id retry success hn
    rcases hn with hn | hn
    · obtain ⟨notes, hn, move⟩ := Site.exists_move_of_note hn rfl
      exact reached.outlived (move.of_refreshStarted hn) success
    · obtain ⟨notes, hn, move⟩ := Site.exists_move_of_note hn rfl
      obtain ⟨phase, task⟩ := move.of_attemptStarted hn
      have noted := reached.flight.noted_of_task task
      exact reached.outlived (reached.expired (by simp [noted])) success
  case first =>
    intro action id value actions caller stored early late idle
    obtain ⟨notes, hn, move⟩ := Site.exists_move_of_note stored rfl
    have settled : Settled (s.step r p action).1.cache ⟨value, s.now⟩ := by
      rw [(move.of_stored hn).2]
      exact ⟨rfl, rfl⟩
    have next := Site.step_reached r reached action
    have still := Site.run_settled r actions next settled early
    refine Site.startsAttempt r (Site.run_reached_from r actions next) idle ?_ still.free
    rw [fresh?_eq_none_iff]
    intro e he
    obtain rfl : ⟨value, s.now⟩ = e := Option.some.inj (still.entry.symm.trans he)
    exact Nat.le_sub_of_add_le' late
  case fresh_when_asked =>
    intro action caller l hn fresh
    rcases Site.answered_cases hn with
      ⟨e, young, answer, asks⟩ | ⟨w, hw, rfl, outcome, woken, answer, apart⟩
    · obtain ⟨he, age⟩ := fresh?_eq_some_iff.1 young
      obtain rfl : l = e.lookup s.now false := by simpa using answer
      refine ⟨s.now, e, askedAt_of_asked asks, he, rfl, .inl ?_⟩
      exact (Nat.sub_lt_iff_lt_add' (reached.captured_le he)).1 age
    · obtain ⟨⟨e, he, view⟩, flag⟩ := resolve_ok answer
      rw [fresh] at view
      obtain ⟨asked, ha, young⟩ := reached.questioned w hw
      obtain ⟨e', he', le⟩ := young (by rw [woken, flag.1 fresh])
      obtain rfl : e = e' := Option.some.inj (he.symm.trans he')
      exact ⟨asked, e, (askedAt_append apart).trans ha, he, view, .inr le⟩

end CameraTelemetry.Cache
