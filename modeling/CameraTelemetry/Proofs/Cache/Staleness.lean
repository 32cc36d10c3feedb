import CameraTelemetry.Proofs.Cache.TimeToLive

/-!
# What the stale flag says

The flag of an answer is that of the refresh which the caller joined, while value and age are those
of the entry at hand when the caller takes its answer. It says whether the time to live is over,
except for a caller who comes for its answer too late, and for one who was overtaken by a later
success.
-/
namespace CameraTelemetry.Cache

variable {ω α : Type} {p : Policy} {now : Instant} {c c' : Cache α} {h : History α}
  {notes : List (Note α)}

/-- The flag says whether the value has outlived its time to live. -/
def Lookup.Truthful (ttl : Duration) (l : Lookup α) : Prop :=
  l.stale = true ↔ ttl.nanos ≤ l.age.nanos

/-- The time to live of every success is over. -/
def Outlived (p : Policy) (now : Instant) (h : History α) : Prop :=
  ∀ t, SucceededAt t h → t + p.ttl.nanos ≤ now

/-- Since a refresh has ended another one has succeeded, whose time to live is not over. -/
def Overtaken (p : Policy) (now : Instant) (refresh : Nat) (h : History α) : Prop :=
  ∃ earlier later, h = earlier ++ later ∧ outcomeOf refresh earlier ≠ none ∧
    ∃ t, SucceededAt t later ∧ now < t + p.ttl.nanos

/-- The value of an entry is past its time to live exactly if that of every success is over. -/
theorem Reached.outlived_iff (reached : Reached p now c h) {e : Entry α} (he : c.entry = some e) :
    p.ttl.nanos ≤ now - e.capturedAt ↔ Outlived p now h := by
  constructor
  · intro old t success
    refine reached.outlived (fresh?_eq_none_iff.2 fun e' he' => ?_) success
    obtain rfl : e = e' := Option.some.inj (he.symm.trans he')
    exact old
  · exact fun elapsed => Nat.le_sub_of_add_le' (elapsed _ (reached.succeeded he))

theorem Outlived.later (elapsed : Outlived p now h) (time : Duration) :
    Outlived p (now + time.nanos) h :=
  fun t success => Nat.le_trans (elapsed t success) (Nat.le_add_right _ _)

/-- When the refresh of a caller who carries a failure ended, the time of every success was over. -/
def Failed (p : Policy) (now : Instant) (h : History α) (w : Waiter) : Prop :=
  ∀ e, w.outcome = some (.error e) → ∃ earlier later, h = earlier ++ later ∧
    outcomeOf w.refresh earlier = some (.error e) ∧ Outlived p now earlier

theorem Failed.longer {w : Waiter} (failed : Failed p now h w) (more : History α) :
    Failed p now (h ++ more) w := by
  intro e he
  obtain ⟨earlier, later, parts, told, elapsed⟩ := failed e he
  exact ⟨earlier, later ++ more, by simp [parts], told, elapsed⟩

/-- A refresh ends without a value only where the time of every success is over. -/
theorem Reached.outlived_of_error (reached : Reached p now c h) (move : Move p now c notes c')
    {id : Nat} {e : FetchFailure} (told : outcomeOf id (stamped now notes) = some (.error e)) :
    Outlived p now (h ++ stamped now notes) := by
  obtain ⟨⟨t, n⟩, hx, hn⟩ := exists_of_latest told
  obtain ⟨⟨phase, task⟩, -, kept⟩ := move.of_error (mem_stamped.1 hx).2 hn
  have noted := reached.flight.noted_of_task task
  have expired := reached.expired (by simp [noted])
  have expired' : c'.fresh? p now = none := by simpa only [fresh?, kept] using expired
  exact fun t success => (reached.move move).outlived expired' success

theorem Reached.failed (reached : Reached p now c h) : ∀ w ∈ c.waiters, Failed p now h w := by
  induction reached with
  | start now => simp [empty]
  | pass time reached ih =>
    intro w hw e he
    obtain ⟨earlier, later, parts, told, elapsed⟩ := ih w hw e he
    exact ⟨earlier, later, parts, told, elapsed.later time⟩
  | murmur reached quiet ih => exact fun w hw => (ih w hw).longer _
  | move reached move ih =>
    intro w hw
    cases move.carries hw with
    | before old apart unended => exact (ih w old).longer _
    | arrived asks joins shared unended waits => simp [Failed, waits]
    | woken v outcome old apart told same =>
      subst same
      intro e he
      obtain rfl : outcome = .error e := by simpa using he
      refine ⟨_, [], (List.append_nil _).symm, ?_, reached.outlived_of_error move told⟩
      rw [outcomeOf, latest_append]
      exact congrArg (Option.or · _) told

/-- A caller who carries a failure was overtaken exactly if the time of some success is not over. -/
theorem Reached.overtaken_iff (reached : Reached p now c h) {w : Waiter} {e : FetchFailure}
    (hw : w ∈ c.waiters) (failed : w.outcome = some (.error e)) :
    Overtaken p now w.refresh h ↔ ¬ Outlived p now h := by
  constructor
  · rintro ⟨earlier, later, rfl, -, t, ⟨id, value, hx⟩, young⟩ elapsed
    exact Nat.not_lt.2 (elapsed t ⟨id, value, List.mem_append_right _ hx⟩) young
  · intro young
    obtain ⟨earlier, later, rfl, told, elapsed⟩ := reached.failed w hw e failed
    simp only [Outlived, Classical.not_forall] at young
    obtain ⟨t, ⟨id, value, hx⟩, young⟩ := young
    refine ⟨earlier, later, rfl, by simp [told], t, ?_, Nat.lt_of_not_le young⟩
    rcases List.mem_append.1 hx with old | new
    · exact absurd (elapsed t ⟨id, value, old⟩) young
    · exact ⟨id, value, new⟩

/-- What the stale flag says at a point of a run. -/
structure FlagTold (r : Remote ω α) (p : Policy) (s : Site ω α) (h : History α) : Prop where
  /-- A caller who is answered at once is told the truth. -/
  at_once : ∀ action caller l, .answered caller (.ok l) ∈ (s.step r p action).2 →
    .asked caller ∈ (s.step r p action).2 → l.Truthful p.ttl
  /-- A caller who had to wait is told a falsehood exactly if its refresh succeeded and it comes for
  its answer too late, or its refresh did not succeed and another one has overtaken it. -/
  waited : ∀ action caller l, .answered caller (.ok l) ∈ (s.step r p action).2 →
    .asked caller ∉ (s.step r p action).2 →
    ∃ id outcome, joinedBy caller h = some id ∧ outcomeOf id h = some outcome ∧
      (¬ l.Truthful p.ttl ↔
        outcome = .ok () ∧ Outlived p s.now h ∨ outcome ≠ .ok () ∧ Overtaken p s.now id h)

/-- At every point of every run, the flag is wrong for the late and the overtaken and for nobody
else. -/
theorem run_flagTold (r : Remote ω α) (p : Policy) (world : ω) (origin : Instant)
    (actions : List Action) :
    FlagTold r p ((Site.start world origin).run r p actions).1
      ((Site.start world origin).run r p actions).2 := by
  have reached := Site.run_reached r p world origin actions
  generalize ((Site.start world origin).run r p actions).1 = s at reached
  generalize ((Site.start world origin).run r p actions).2 = h at reached
  constructor
  case at_once =>
    intro action caller l hn asks
    rcases Site.answered_cases hn with ⟨e, young, answer, -⟩ | ⟨w, hw, rfl, outcome, -, -, apart⟩
    · obtain rfl : l = e.lookup s.now false := by simpa using answer
      have age := (fresh?_eq_some_iff.1 young).2
      simpa [Lookup.Truthful, Entry.lookup, Duration.since] using age
    · simpa [Note.arrives] using apart _ asks
  case waited =>
    intro action caller l hn silent
    rcases Site.answered_cases hn with ⟨e, -, -, asks⟩ | ⟨w, hw, rfl, outcome, woken, answer, -⟩
    · exact absurd asks silent
    · obtain ⟨⟨e, he, view⟩, flag⟩ := resolve_ok answer
      have waits := reached.waits w hw
      refine ⟨w.refresh, outcome, waits.joined, waits.outcome.symm.trans woken, ?_⟩
      have age : p.ttl.nanos ≤ l.age.nanos ↔ Outlived p s.now h := by
        rw [view]
        exact reached.outlived_iff he
      rw [Lookup.Truthful, age]
      cases outcome with
      | ok u =>
        have fresh : l.stale = false := flag.2 rfl
        simp [fresh]
      | error cause =>
        have stale : l.stale = true := by simpa using flag
        rw [reached.overtaken_iff hw woken]
        simp [stale]

/-- A value of 65 s is told to be within its time of 60 s, to a caller who comes late for its
answer; and a value just fetched is told to be past it, to one whose own refresh had failed. -/
theorem flag_misleads :
    let policy : Policy := ⟨"temperature", .ofSecs 60, .ofSecs 5⟩
    let steady : Remote Unit Nat := ⟨fun w => (⟨⟨0⟩, .value 46, []⟩, w), none⟩
    let recovering : Remote Bool Nat :=
      ⟨fun w => (⟨⟨0⟩, if w then .value 46 else .failed (.transport "down"), []⟩, true), none⟩
    let late : Lookup Nat := ⟨46, false, .ofSecs 65⟩
    let overtaken : Lookup Nat := ⟨46, true, ⟨0⟩⟩
    (((Site.start () 0).run steady policy
        [.get 1, .work 0, .work 0, .pass (.ofSecs 65), .resume 1]).2.getLast? =
      some ((Duration.ofSecs 65).nanos, .answered 1 (.ok late)) ∧ ¬ late.Truthful policy.ttl) ∧
    (((Site.start false 0).run recovering policy
        [.get 1, .work 0, .work 0, .get 2, .work 1, .work 1, .resume 1]).2.getLast? =
      some (0, .answered 1 (.ok overtaken)) ∧ ¬ overtaken.Truthful policy.ttl) := by
  refine ⟨⟨rfl, ?_⟩, ⟨rfl, ?_⟩⟩
  · simp [Lookup.Truthful, Duration.ofSecs]
  · simp [Lookup.Truthful, Duration.ofSecs]

end CameraTelemetry.Cache
