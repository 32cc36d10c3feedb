import CameraTelemetry.Proofs.Cache.Calls
import CameraTelemetry.Proofs.Cache.Deadline

/-!
# The attempts of a refresh

A refresh makes one attempt, and where the first one is rejected and there is a hook, it calls the
hook and makes a second one. Which calls a refresh has made so far can be read off the phase of its
task, so that at its end they are all known, each with what it came to within its limit.
-/
namespace CameraTelemetry.Cache

variable {ω α : Type}

/-- What a call comes to within a limit. A panic is no outcome. -/
def Call.outcome? (limit : Duration) (c : Call α) : Option (Except FetchFailure α) :=
  if limit < c.delay then some (.error (.timeout limit))
  else match c.ending with
    | .value a => some (.ok a)
    | .failed e => some (.error e)
    | .panicked _ => none

theorem Call.outcome?_bounded (limit : Duration) (c : Call α) :
    (c.bounded limit).outcome? limit = c.outcome? limit := by
  unfold bounded outcome?
  split
  · rfl
  · cases c.ending <;> rfl

def Outgoing.isHook : Outgoing α → Bool
  | fetch _ => false
  | hook _ => true

/-- The calls of a refresh up to its end, and what it came to: nothing, if it panicked. -/
inductive Course (hooked : Bool) (limit : Duration) :
    List (Outgoing α) → Option (Except FetchFailure α) → Prop
  | once {first : Call α}
      (settled : hooked = true → ∀ reason, first.outcome? limit ≠ some (.error (.auth reason))) :
      Course hooked limit [.fetch first] (first.outcome? limit)
  | hookPanicked {first : Call α} {renewal : Call Unit} {reason : String} (known : hooked = true)
      (rejected : first.outcome? limit = some (.error (.auth reason)))
      (panicked : renewal.outcome? limit = none) :
      Course hooked limit [.fetch first, .hook renewal] none
  | twice {first retry : Call α} {renewal : Call Unit} {reason : String} (known : hooked = true)
      (rejected : first.outcome? limit = some (.error (.auth reason)))
      (returned : renewal.outcome? limit ≠ none) :
      Course hooked limit [.fetch first, .hook renewal, .fetch retry] (retry.outcome? limit)

theorem Course.kinds {hooked : Bool} {limit : Duration} {calls : List (Outgoing α)}
    {outcome : Option (Except FetchFailure α)} (course : Course hooked limit calls outcome) :
    calls.map Outgoing.isHook <+: [false, true, false] := by
  cases course <;> simp [Outgoing.isHook]

/-- The calls that a refresh has made when its task is in a phase. -/
inductive Phase.Follows (hooked : Bool) (limit : Duration) : Phase α → List (Outgoing α) → Prop
  | spawned : Follows hooked limit .spawned []
  | first (due : Instant) (first : Call α) :
      Follows hooked limit (.attempting false due (first.bounded limit)) [.fetch first]
  | hook {first : Call α} {reason : String} (due : Instant) (renewal : Call Unit)
      (known : hooked = true) (rejected : first.outcome? limit = some (.error (.auth reason))) :
      Follows hooked limit (.renewing due (renewal.bounded limit)) [.fetch first, .hook renewal]
  | retry {first : Call α} {renewal : Call Unit} {reason : String} (due : Instant) (retry : Call α)
      (known : hooked = true) (rejected : first.outcome? limit = some (.error (.auth reason)))
      (returned : renewal.outcome? limit ≠ none) :
      Follows hooked limit (.attempting true due (retry.bounded limit))
        [.fetch first, .hook renewal, .fetch retry]

namespace Phase.Follows

variable {hooked : Bool} {limit : Duration} {phase : Phase α} {calls : List (Outgoing α)}

theorem kinds (follows : phase.Follows hooked limit calls) :
    calls.map Outgoing.isHook <+: [false, true, false] := by
  cases follows <;> simp [Outgoing.isHook]

/-- An attempt with no retry after it is the end of the course. -/
theorem settles {retry : Bool} {due : Instant} {result : Bounded α}
    {outcome : Option (Except FetchFailure α)}
    (follows : (Phase.attempting retry due result).Follows hooked limit calls)
    (came : result.outcome? limit = outcome)
    (last : retry = false → hooked = true → ∀ reason, outcome ≠ some (.error (.auth reason))) :
    Course hooked limit calls outcome := by
  cases follows with
  | first due first =>
    rw [Call.outcome?_bounded] at came
    subst came
    exact .once (last rfl)
  | retry due retry known rejected returned =>
    rw [Call.outcome?_bounded] at came
    subst came
    exact .twice known rejected returned

theorem panics (follows : phase.Follows hooked limit calls) (panicked : phase.Panicked limit) :
    Course hooked limit calls none := by
  cases phase with
  | spawned => exact panicked.elim
  | attempting retry due result => exact follows.settles panicked (by simp)
  | renewing due result =>
    cases follows with
    | hook due renewal known rejected =>
      exact .hookPanicked known rejected ((Call.outcome?_bounded _ renewal).symm.trans panicked)

end Phase.Follows

/-- What a task at work has done in a turn: its calls follow those before, and if its refresh ended,
they were its course. -/
structure Site.Advances (r : Remote ω α) (p : Policy) (id : Nat) (calls : List (Outgoing α))
    (done : Site (Watched ω α) α × List (Note α)) : Prop where
  attributed : done.2.filterMap Note.caller? = done.1.world.calls.map fun _ => id
  working : ∀ t ∈ done.1.cache.tasks, t.refresh = id ∧
    t.phase.Follows r.hook.isSome p.fetchTimeout (calls ++ done.1.world.calls)
  ended : ∀ n ∈ done.2, ∀ outcome, n.Ends id outcome →
    Course r.hook.isSome p.fetchTimeout (calls ++ done.1.world.calls) outcome

namespace Site

variable {r : Remote ω α} {p : Policy} {s : Site ω α} {id : Nat} {calls : List (Outgoing α)}

theorem Advances.after {done : Site (Watched ω α) α × List (Note α)} {passing : List (Note α)}
    (quiet : ∀ n ∈ passing, n.isPassing = true) (advances : Advances r p id calls done) :
    Advances r p id calls (after passing done) where
  attributed := by
    have silent := filterMap_caller?_of_quiet fun n mem => Note.not_call_of_passing (quiet n mem)
    rw [Site.after, List.filterMap_append, silent, List.nil_append]
    exact advances.attributed
  working := advances.working
  ended := by
    intro n mem outcome ends
    rcases List.mem_append.1 mem with low | mem
    · simpa [Note.not_mark_of_passing (quiet n low)] using ends.isMark
    · exact advances.ended n mem outcome ends

/-- A task that has made a call goes on to wait for it. -/
theorem Advances.of_call {phase later : Phase α} {n : Note α}
    {done : Site (Watched ω α) α × List (Note α)} (alone : s.cache.tasks = [⟨id, phase⟩])
    (tasks : done.1.cache.tasks = (s.cache.setPhase id later).tasks) (noted : done.2 = [n])
    (own : [n].filterMap Note.caller? = done.1.world.calls.map fun _ => id)
    (open' : n.isMark = false)
    (follows : later.Follows r.hook.isSome p.fetchTimeout (calls ++ done.1.world.calls)) :
    Advances r p id calls done where
  attributed := noted ▸ own
  working := by
    intro t mem
    rw [tasks, setPhase_of_alone alone] at mem
    rw [List.mem_singleton.1 mem]
    exact ⟨rfl, follows⟩
  ended := by
    intro m mem outcome ends
    rw [noted] at mem
    rw [List.mem_singleton.1 mem] at ends
    exact absurd ends.isMark (by simp [open'])

theorem Advances.of_end {outcome : Option (Except FetchFailure α)}
    {done : Site (Watched ω α) α × List (Note α)} (none : done.1.world.calls = [])
    (gone : done.1.cache.tasks = []) (quiet : ∀ n ∈ done.2, n.isCall = false)
    (only : ∀ n ∈ done.2, ∀ other, n.Ends id other → other = outcome)
    (course : Course r.hook.isSome p.fetchTimeout calls outcome) : Advances r p id calls done where
  attributed := by rw [filterMap_caller?_of_quiet quiet, none, List.map_nil]
  working := by simp [gone]
  ended := by
    intro n mem other ends
    rw [none, List.append_nil, only n mem other ends]
    exact course

/-- A task that goes on keeps to the course. -/
theorem advances_of_onward {phase : Phase α} {done : Site (Watched ω α) α × List (Note α)}
    (onward : Onward r.watched p s.watched id phase done) (alone : s.cache.tasks = [⟨id, phase⟩])
    (follows : phase.Follows r.hook.isSome p.fetchTimeout calls) : Advances r p id calls done := by
  have gone : (s.cache.tasks.filter fun t => t.refresh != id) = [] := by simp [alone]
  cases onward with
  | waits early =>
    constructor
    · rfl
    · simpa [watched, alone] using follows
    · simp
  | first =>
    cases follows with
    | spawned => exact .of_call alone rfl rfl rfl rfl (.first _ _)
  | @hook due result reason hook passing elapsed rejected known quiet =>
    refine .after quiet ?_
    cases follows with
    | first due first =>
      rw [Call.outcome?_bounded] at rejected
      obtain ⟨bare, found, rfl⟩ := Option.map_eq_some_iff.1 known
      exact .of_call alone rfl rfl rfl rfl (.hook _ _ (by simp [found]) rejected)
  | @retries due result passing elapsed returned quiet =>
    refine .after quiet ?_
    cases follows with
    | hook due renewal known rejected =>
      rw [Call.outcome?_bounded] at returned
      exact .of_call alone rfl rfl rfl rfl (.retry _ _ known rejected returned)
  | @settles retry due result outcome passing elapsed came last quiet =>
    refine .after quiet (.of_end rfl ((finish_tasks ..).trans gone) (finish_quiet _ _ _ _) ?_
      (follows.settles came ?_))
    · cases outcome with
      | ok value =>
        intro n mem other ends
        obtain rfl := List.mem_singleton.1 mem
        cases ends
        rfl
      | error e =>
        intro n mem other ends
        obtain rfl := List.mem_singleton.1 mem
        cases ends
        rfl
    · simpa [Remote.Settles] using last
  | @panics phase payload passing elapsed panicked quiet =>
    refine .after quiet (.of_end rfl gone (by simp [taskPanicked, abort, Note.isCall]) ?_
      (follows.panics panicked))
    intro n mem other ends
    obtain rfl := List.mem_singleton.1 mem
    cases ends
    rfl

end Site

/-- The turns so far agree with the cache, and tell the course of every refresh. -/
structure Kept (r : Remote ω α) (p : Policy) (s : Site ω α) (turns : List (Turn α)) : Prop where
  reached : Reached p s.now s.cache (historyOf turns)
  attributed : ∀ t ∈ turns, t.Attributed
  unborn : ∀ id, s.cache.refreshes ≤ id → callsOf id turns = []
  working : ∀ t ∈ s.cache.tasks,
    t.phase.Follows r.hook.isSome p.fetchTimeout (callsOf t.refresh turns)
  ended : ∀ x ∈ historyOf turns, ∀ id outcome, x.2.Ends id outcome →
    Course r.hook.isSome p.fetchTimeout (callsOf id turns) outcome

namespace Kept

variable {r : Remote ω α} {p : Policy} {s : Site ω α} {turns : List (Turn α)}

theorem start (r : Remote ω α) (p : Policy) (world : ω) (origin : Instant) :
    Kept r p (.start world origin) ([] : List (Turn α)) where
  reached := .start origin
  attributed := by simp
  unborn := fun _ _ => rfl
  working := by simp [Site.start, empty]
  ended := by simp [historyOf]

theorem not_ended_of_task {id : Nat} {phase : Phase α} (kept : Kept r p s turns)
    (task : ⟨id, phase⟩ ∈ s.cache.tasks) {x : Instant × Note α} (mem : x ∈ historyOf turns)
    (outcome : Option (Except FetchFailure α)) : ¬ x.2.Ends id outcome := by
  intro ends
  have flight := kept.reached.flight
  have noted := flight.noted_of_task task
  have open' := (flight.open_iff id (flight.noted_lt id noted)).2 noted
  obtain ⟨seen, told⟩ := ends.told
  simp [latest_eq_none_iff.1 open' x mem] at told

/-- A refresh has not begun, is at work or has ended. -/
theorem kinds (kept : Kept r p s turns) (id : Nat) :
    (callsOf id turns).map Outgoing.isHook <+: [false, true, false] := by
  have flight := kept.reached.flight
  rcases Nat.lt_or_ge id s.cache.refreshes with born | unborn
  · cases told : outcomeOf id (historyOf turns) with
    | none =>
      obtain ⟨phase, alone⟩ := flight.alone ((flight.open_iff id born).1 told)
      exact (kept.working ⟨id, phase⟩ (by simp [alone])).kinds
    | some seen =>
      obtain ⟨x, mem, said⟩ := exists_of_latest told
      obtain ⟨outcome, ends⟩ := Note.exists_ends said
      exact (kept.ended x mem id outcome ends).kinds
  · rw [kept.unborn id unborn]
    exact List.nil_prefix

variable {next : Site ω α} {t : Turn α}

/-- A turn in which no task goes on, though one may be added. -/
theorem aside (kept : Kept r p s turns)
    (reached : Reached p next.now next.cache (historyOf (turns ++ [t]))) (none : t.calls = [])
    (quiet : ∀ n ∈ t.notes, n.isCall = false)
    (unended : ∀ n ∈ t.notes, ∀ id outcome, ¬ n.Ends id outcome)
    (number : s.cache.refreshes ≤ next.cache.refreshes)
    (tasks : ∀ task ∈ next.cache.tasks, task ∈ s.cache.tasks ∨
      task = ⟨s.cache.refreshes, .spawned⟩) :
    Kept r p next (turns ++ [t]) where
  reached := reached
  attributed := by
    refine List.forall_mem_append.2 ⟨kept.attributed, List.forall_mem_singleton.2 ⟨0, ?_⟩⟩
    rw [filterMap_caller?_of_quiet quiet, none, List.map_nil]
  unborn := fun id le => (callsOf_append_quiet none).trans (kept.unborn id (Nat.le_trans number le))
  working := by
    intro task mem
    rw [callsOf_append_quiet none]
    rcases tasks task mem with old | rfl
    · exact kept.working task old
    · rw [kept.unborn _ (Nat.le_refl _)]
      exact .spawned
  ended := by
    intro x mem id outcome ends
    rw [callsOf_append_quiet none]
    rcases mem_historyOf_append_one mem with old | new
    · exact kept.ended x old id outcome ends
    · exact absurd ends (unended _ new id outcome)

/-- A turn of the task at work. -/
theorem works {id : Nat} {phase : Phase α} {done : Site (Watched ω α) α × List (Note α)}
    (kept : Kept r p s turns) (alone : s.cache.tasks = [⟨id, phase⟩])
    (reached : Reached p next.now next.cache (historyOf (turns ++ [t])))
    (advances : Site.Advances r p id (callsOf id turns) done) (cache : done.1.cache = next.cache)
    (number : next.cache.refreshes = s.cache.refreshes)
    (own : ∀ n ∈ t.notes, ∀ k outcome, n.Ends k outcome → k = id) (notes : done.2 = t.notes)
    (calls : done.1.world.calls = t.calls) : Kept r p next (turns ++ [t]) := by
  obtain ⟨attributed, working, ended⟩ := advances
  rw [notes, calls] at attributed
  rw [cache, calls, ← callsOf_append_own attributed] at working
  rw [notes, calls, ← callsOf_append_own attributed] at ended
  have task : ⟨id, phase⟩ ∈ s.cache.tasks := by simp [alone]
  have noted := kept.reached.flight.noted_of_task task
  constructor
  case reached => exact reached
  case attributed =>
    exact List.forall_mem_append.2 ⟨kept.attributed, List.forall_mem_singleton.2 ⟨id, attributed⟩⟩
  case unborn =>
    intro k le
    rw [number] at le
    have other : k ≠ id :=
      Nat.ne_of_gt (Nat.lt_of_lt_of_le (kept.reached.flight.noted_lt id noted) le)
    rw [callsOf_append_other other attributed]
    exact kept.unborn k le
  case working =>
    intro u mem
    obtain ⟨rfl, follows⟩ := working u mem
    exact follows
  case ended =>
    intro x mem k outcome ends
    rcases mem_historyOf_append_one mem with old | new
    · have other : k ≠ id := by
        rintro rfl
        exact kept.not_ended_of_task task old outcome ends
      rw [callsOf_append_other other attributed]
      exact kept.ended x old k outcome ends
    · obtain rfl := own _ new k outcome ends
      exact ended _ new outcome ends

theorem step (kept : Kept r p s turns) (action : Action) :
    Kept r p (s.step r p action).1 (turns ++ [s.turn r p action]) := by
  have same := s.step_watched r p action
  have reached : Reached p (s.step r p action).1.now (s.step r p action).1.cache
      (historyOf (turns ++ [s.turn r p action])) := by
    rw [historyOf_append_one]
    have next := Site.step_reached r kept.reached action
    rwa [← same.notes] at next
  have flight : Flight s.watched.cache (historyOf turns) := kept.reached.flight
  have concerns := Site.step_concerns (r := r.watched) (p := p) flight action
  have calls : (s.watched.step r.watched p action).1.world.calls = (s.turn r p action).calls := rfl
  have notes : (s.watched.step r.watched p action).2 = (s.turn r p action).notes := rfl
  have cache := same.site.cache
  generalize s.watched.step r.watched p action = done at concerns calls notes cache
  cases concerns with
  | aside world tasks number clock silent =>
    rw [notes] at silent
    refine kept.aside reached (by rw [← calls, world]; rfl) (fun n mem => (silent n mem).1) ?_ ?_ ?_
    · intro n mem id outcome ends
      simpa [(silent n mem).2] using ends.isMark
    · exact Nat.le_of_eq (number.symm.trans (congrArg Cache.refreshes cache))
    · intro task mem
      rw [← cache, tasks] at mem
      exact .inl mem
  | @begins caller idle =>
    refine kept.aside reached calls.symm ?_ ?_ ?_ ?_
    · rw [← notes]
      simp [Note.isCall]
    · rw [← notes]
      intro n mem id outcome ends
      cases ends <;> simp at mem
    · rw [← cache]
      exact Nat.le_succ _
    · intro task mem
      rw [← cache] at mem
      have idle : s.cache.tasks = [] := idle
      exact .inr (by simpa [spawn, Cache.await, Site.watched, idle] using mem)
  | @works id phase done alone onward =>
    have alone : s.cache.tasks = [⟨id, phase⟩] := alone
    have follows := kept.working ⟨id, phase⟩ (by simp [alone])
    have advances := Site.advances_of_onward onward alone follows
    refine kept.works alone reached advances cache ?_ ?_ notes calls
    · rw [← cache]
      exact onward.refreshes_eq
    · rw [← notes]
      intro n mem k outcome ends
      obtain ⟨outcome', own⟩ := onward.of_mark mem ends.isMark
      cases ends <;> cases own <;> rfl

theorem run (actions : List Action) (kept : Kept r p s turns) :
    Kept r p (s.run r p actions).1 (turns ++ s.turns r p actions) := by
  induction actions generalizing s turns with
  | nil => simpa [Site.turns, Site.run] using kept
  | cons action rest ih =>
    have next := ih (kept.step action)
    rwa [List.append_assoc] at next

end Kept

/-- The first of the calls is an attempt that was rejected. -/
def FirstRejected (limit : Duration) (calls : List (Outgoing α)) : Prop :=
  ∃ (first : Call α) (reason : String), calls.head? = some (.fetch first) ∧
    first.outcome? limit = some (.error (.auth reason))

/-- What holds of the calls of a refresh that came to an outcome. -/
structure Refreshed (hooked : Bool) (limit : Duration) (calls : List (Outgoing α))
    (outcome : Except FetchFailure α) : Prop where
  /-- It makes two attempts, and between them it calls the hook, exactly if there is one and the
  first attempt is rejected. -/
  twice_iff : (∃ first renewal retry, calls = [.fetch first, .hook renewal, .fetch retry]) ↔
    hooked = true ∧ FirstRejected limit calls
  /-- Otherwise it makes one attempt and does not call the hook. -/
  once : ¬ (hooked = true ∧ FirstRejected limit calls) → ∃ first, calls = [.fetch first]
  /-- The outcome is that of the last attempt, whatever the hook came to. -/
  last : ∃ last, calls.getLast? = some (.fetch last) ∧ last.outcome? limit = some outcome

theorem Course.refreshed {hooked : Bool} {limit : Duration} {calls : List (Outgoing α)}
    {outcome : Except FetchFailure α} (course : Course hooked limit calls (some outcome)) :
    Refreshed hooked limit calls outcome := by
  generalize told : some outcome = came at course
  cases course with
  | @once first settled =>
    have apart : ¬ (hooked = true ∧ FirstRejected limit [.fetch first]) := by
      rintro ⟨known, other, reason, same, rejected⟩
      obtain rfl : first = other := by simpa using same
      exact settled known reason rejected
    exact ⟨iff_of_false (by simp) apart, fun _ => ⟨first, rfl⟩, first, rfl, told.symm⟩
  | hookPanicked known rejected panicked => cases told
  | @twice first retry renewal reason known rejected returned =>
    have both : hooked = true ∧
        FirstRejected limit [.fetch first, .hook renewal, .fetch retry] :=
      ⟨known, first, reason, rfl, rejected⟩
    exact ⟨iff_of_true ⟨first, renewal, retry, rfl⟩ both, fun apart => absurd both apart,
      retry, rfl, told.symm⟩

/-- What a run tells of the attempts of its refreshes. -/
structure AttemptsTold (r : Remote ω α) (p : Policy) (s : Site ω α) (actions : List Action) :
    Prop where
  /-- The turns that are watched have the notes of the run. -/
  watched : historyOf (s.turns r p actions) = (s.run r p actions).2
  /-- Every call is one of a refresh, and is noted as it is made. -/
  attributed : ∀ t ∈ s.turns r p actions, t.Attributed
  /-- At no point has a refresh made more calls than an attempt, the hook, and another attempt. -/
  bounded : ∀ id, (callsOf id (s.turns r p actions)).map Outgoing.isHook <+: [false, true, false]
  refreshed : ∀ t n id outcome, (t, n) ∈ (s.run r p actions).2 → n.Ends id (some outcome) →
    Refreshed r.hook.isSome p.fetchTimeout (callsOf id (s.turns r p actions)) outcome
  panicked : ∀ t n id, (t, n) ∈ (s.run r p actions).2 → n.Ends id none →
    Course r.hook.isSome p.fetchTimeout (callsOf id (s.turns r p actions)) none
  /-- Where timers fire when they are due, a refresh that ended did so within three limits. -/
  in_time : s.Punctual r p actions → ∀ t₀ t id n outcome,
    (t₀, .refreshStarted id) ∈ (s.run r p actions).2 → (t, n) ∈ (s.run r p actions).2 →
      n.Ends id outcome → t ≤ t₀ + 3 * p.fetchTimeout.nanos
  /-- One that is under way comes to its end, and within them too. -/
  ends : s.Punctual r p actions → ∀ t₀ id, (t₀, .refreshStarted id) ∈ (s.run r p actions).2 →
    Underway id (s.run r p actions).2 →
      ((s.run r p actions).1.complete r p).1.cache.inflight = none ∧
      ((s.run r p actions).1.complete r p).1.now ≤ t₀ + 3 * p.fetchTimeout.nanos

/-- In every run and whatever the calls behind the cache do, a refresh makes one attempt, or,
rejected where there is a hook, two with the hook between them; its outcome is that of the last
one, and it is over in time. -/
theorem run_attemptsTold (r : Remote ω α) (p : Policy) (world : ω) (origin : Instant)
    (actions : List Action) : AttemptsTold r p (Site.start world origin) actions := by
  have kept := (Kept.start r p world origin).run actions
  have inTime := Site.run_inTime_from (r := r) (p := p) (s := .start world origin) actions
    (.start origin) ⟨by simp, by simp⟩
  have seen := (Site.start world origin).historyOf_turns r p actions
  rw [List.nil_append] at kept inTime
  have flight := kept.reached.flight
  have all := kept.ended
  rw [seen] at flight all
  constructor
  case watched => exact seen
  case attributed => exact kept.attributed
  case bounded => exact kept.kinds
  case refreshed => exact fun t n id outcome told ends => (all (t, n) told id _ ends).refreshed
  case panicked => exact fun t n id told ends => all (t, n) told id _ ends
  case in_time =>
    exact fun punctual t₀ t id n outcome => (inTime punctual).ended t₀ t id n outcome
  case ends =>
    intro punctual t₀ id started underway
    obtain ⟨phase, alone⟩ := flight.alone ((flight.noted_iff_underway id).2 underway)
    have soon := (inTime punctual).working t₀ id phase started (by simp [alone])
    exact ⟨Site.drive_ends r p id _ _ phase alone phase.rank_lt,
      Nat.le_trans (Site.drive_latest r p id _ _ phase alone) soon⟩

-- A first attempt that is rejected at the limit, a hook that hangs and a slow retry need all three.
example :
    let r : Remote Bool Nat :=
      ⟨fun again => (⟨.ofSecs 5, if again then .value 7 else .failed (.auth "401"), []⟩, true),
        some fun again => (⟨.ofSecs 60, .value (), []⟩, again)⟩
    let wait : Action := .pass (.ofSecs 5)
    ((Site.start false 0).run r ⟨"device", .ofSecs 10, .ofSecs 5⟩
      [.get 0, .work 0, wait, .work 0, wait, .work 0, wait, .work 0]).2.getLast? =
        some (3 * 5 * 10 ^ 9, .stored 0 7) := rfl

end CameraTelemetry.Cache
