import CameraTelemetry.Proofs.Cache.Waiting

/-!
# Callers who go away

A caller that goes away leaves nothing behind: if some callers are left out of sight, a run in which
they go away and the run in which they keep waiting are one and the same. Hence neither the refresh
under way nor any other caller can tell whether somebody still waits.
-/
namespace CameraTelemetry.Cache

variable {ω α : Type} {gone : List Nat}

/-! ## A cache without some of its callers -/

/-- The cache as it would be if some callers did not wait. -/
def forget (gone : List Nat) (c : Cache α) : Cache α :=
  { c with waiters := c.waiters.filter fun w => w.caller ∉ gone }

def Note.answersAny (gone : List Nat) : Note α → Bool
  | answered caller _ => caller ∈ gone
  | _ => false

theorem forget_nil (c : Cache α) : c.forget [] = c := by
  have all : (c.waiters.filter fun w => w.caller ∉ ([] : List Nat)) = c.waiters := by
    simp
  rw [forget, all]

theorem forget_await {caller : Nat} (there : caller ∉ gone) (refresh : Nat) (c : Cache α) :
    (c.forget gone).await caller refresh = (c.await caller refresh).forget gone := by
  simp [forget, Cache.await, List.filter_append, there]

theorem forget_isWaiting {caller : Nat} (there : caller ∉ gone) (c : Cache α) :
    (c.forget gone).isWaiting caller = c.isWaiting caller := by
  rw [Bool.eq_iff_iff]
  simp only [isWaiting, forget, List.any_eq_true, List.mem_filter, beq_iff_eq, decide_eq_true_eq]
  constructor
  · rintro ⟨w, ⟨hw, -⟩, rfl⟩
    exact ⟨w, hw, rfl⟩
  · rintro ⟨w, hw, rfl⟩
    exact ⟨w, ⟨hw, there⟩, rfl⟩

theorem forget_leave (caller : Nat) (c : Cache α) :
    (c.forget gone).leave caller = (c.leave caller).forget gone := by
  simp [forget, leave, List.filter_filter, Bool.and_comm]

/-- Whoever leaves is not there, as if it had been left out of sight. -/
theorem leave_forget (caller : Nat) (c : Cache α) :
    (c.forget gone).leave caller = c.forget (caller :: gone) := by
  simp only [forget, leave, List.filter_filter]
  congr 1
  refine List.filter_congr fun w _ => ?_
  by_cases hw : w.caller = caller <;> simp [hw]

theorem wake_filter (refresh : Nat) (outcome : Outcome) (waiters : List Waiter) :
    wake refresh outcome (waiters.filter fun w => w.caller ∉ gone) =
      (wake refresh outcome waiters).filter fun w => w.caller ∉ gone := by
  rw [wake, wake, List.filter_map]
  congr 1
  refine List.filter_congr fun w _ => ?_
  by_cases hw : w.refresh = refresh <;> simp [hw]

theorem forget_endTask (refresh : Nat) (outcome : Outcome) (c : Cache α) :
    (c.forget gone).endTask refresh outcome = (c.endTask refresh outcome).forget gone := by
  simp only [forget, endTask, wake_filter]

theorem forget_finish (c : Cache α) (refresh : Nat) (outcome : Except FetchFailure α)
    (now : Instant) :
    (c.forget gone).finish refresh outcome now =
      ((c.finish refresh outcome now).1.forget gone, (c.finish refresh outcome now).2) := by
  cases outcome with
  | ok value =>
    refine Prod.ext ?_ rfl
    exact forget_endTask refresh (.ok ()) { c with entry := some ⟨value, now⟩, inflight := none }
  | error e =>
    refine Prod.ext ?_ rfl
    exact forget_endTask refresh (.error e)
      { c with inflight := none, counters.failures := c.counters.failures + 1 }

theorem forget_abort (c : Cache α) (refresh : Nat) (payload : String) (inHook : Bool) :
    (c.forget gone).abort refresh payload inHook =
      ((c.abort refresh payload inHook).1.forget gone, (c.abort refresh payload inHook).2) :=
  Prod.ext (forget_endTask refresh (panickedOutcome payload) (c.dropGuard true)) rfl

namespace Site

/-! ## Steps out of sight of some callers -/

def forget (gone : List Nat) (s : Site ω α) : Site ω α := { s with cache := s.cache.forget gone }

/-- What a step comes to when some callers are left out of sight. -/
def unseen (gone : List Nat) (result : Site ω α × List (Note α)) : Site ω α × List (Note α) :=
  (result.1.forget gone, result.2.filter fun n => !n.answersAny gone)

theorem forget_nobody (s : Site ω α) : s.forget [] = s := by
  rw [forget, forget_nil]

theorem forget_now (s : Site ω α) : (s.forget gone).now = s.now := rfl

theorem unseen_after {before : List (Note α)} (quiet : ∀ n ∈ before, n.isPassing = true)
    (result : Site ω α × List (Note α)) :
    after before (unseen gone result) = unseen gone (after before result) := by
  have kept : before.filter (fun n => !n.answersAny gone) = before := by
    rw [List.filter_eq_self]
    intro n hn
    have hq := quiet n hn
    cases n <;> simp_all [Note.isPassing, Note.answersAny]
  simp [after, unseen, List.filter_append, kept]

theorem forget_get (p : Policy) {caller : Nat} (there : caller ∉ gone) (s : Site ω α) :
    (s.forget gone).get p caller = unseen gone (s.get p caller) := by
  by_cases waits : s.cache.isWaiting caller = true
  · simp [get, forget, forget_isWaiting there, waits, unseen]
  · have idle : s.cache.isWaiting caller = false := by simpa using waits
    have idle' : (s.forget gone).cache.isWaiting caller = false := by
      rw [forget, forget_isWaiting there, idle]
    cases fresh : s.cache.fresh? p s.now with
    | some e =>
      have fresh' : (s.forget gone).cache.fresh? p (s.forget gone).now = some e := fresh
      rw [get_of_fresh idle fresh, get_of_fresh idle' fresh']
      simp [unseen, Note.answersAny, there, forget_now]
    | none =>
      have expired : (s.forget gone).cache.fresh? p (s.forget gone).now = none := fresh
      cases noted : s.cache.inflight with
      | some id =>
        rw [get_of_noted idle fresh noted, get_of_noted idle' expired noted]
        exact Prod.ext (congrArg (Site.mk · s.world s.now) (forget_await there id s.cache)) rfl
      | none =>
        rw [get_of_free idle fresh noted, get_of_free idle' expired noted]
        exact Prod.ext (congrArg (Site.mk · s.world s.now) (forget_await there _ s.cache.spawn)) rfl

theorem forget_abandon (caller : Nat) (s : Site ω α) :
    (s.forget gone).abandon caller = (s.abandon caller).forget gone :=
  congrArg (Site.mk · s.world s.now) (forget_leave caller s.cache)

theorem forget_resume_of_gone (p : Policy) {caller : Nat} (away : caller ∈ gone) (s : Site ω α) :
    (s.forget gone).resume p caller = unseen gone (s.resume p caller) := by
  have nobody : (s.forget gone).cache.waiters.find? (fun w => w.caller == caller) = none := by
    simp only [forget, Cache.forget, List.find?_eq_none, List.mem_filter]
    rintro w ⟨-, there⟩ same
    simp_all
  have alone : (s.cache.leave caller).forget gone = s.cache.forget gone := by
    simp only [Cache.forget, leave, List.filter_filter]
    congr 1
    refine List.filter_congr fun w _ => ?_
    by_cases hw : w.caller = caller <;> simp [hw, away]
  have away' : (s.forget gone).resume p caller = (s.forget gone, []) := by
    rw [resume, nobody]
  rw [away', resume]
  split
  · simp [unseen, forget, alone, Note.answersAny, away]
  · rfl

theorem forget_resume (p : Policy) {caller : Nat} (there : caller ∉ gone) (s : Site ω α) :
    (s.forget gone).resume p caller = unseen gone (s.resume p caller) := by
  have same : (s.forget gone).cache.waiters.find? (fun w => w.caller == caller) =
      s.cache.waiters.find? fun w => w.caller == caller := by
    simp only [forget, Cache.forget, List.find?_filter]
    congr 1
    funext w
    by_cases hw : w.caller = caller <;> simp [hw, there]
  rw [resume, resume, same]
  split
  · refine Prod.ext (congrArg (Site.mk · s.world s.now) (forget_leave caller s.cache)) ?_
    simp [unseen, Note.answersAny, there]
    rfl
  · rfl

theorem forget_attemptEnded (r : Remote ω α) (p : Policy) (refresh : Nat) (retry : Bool)
    (outcome : Except FetchFailure α) (s : Site ω α) :
    (s.forget gone).attemptEnded r p refresh retry outcome =
      unseen gone (s.attemptEnded r p refresh retry outcome) := by
  have finished : ∀ outcome : Except FetchFailure α,
      (s.cache.finish refresh outcome s.now).2.filter (fun n => !n.answersAny gone) =
        (s.cache.finish refresh outcome s.now).2 := by
    intro outcome
    cases outcome <;> rfl
  unfold attemptEnded
  split
  · rfl
  · simp [forget, forget_finish, unseen, finished]

theorem forget_taskPanicked (refresh : Nat) (payload : String) (inHook : Bool) (s : Site ω α) :
    (s.forget gone).taskPanicked refresh payload inHook =
      unseen gone (s.taskPanicked refresh payload inHook) :=
  Prod.ext (congrArg (Site.mk · s.world s.now)
    (congrArg Prod.fst (forget_abort s.cache refresh payload inHook))) rfl

theorem forget_startAttempt (r : Remote ω α) (p : Policy) (refresh : Nat) (retry : Bool)
    (s : Site ω α) :
    (s.forget gone).startAttempt r p refresh retry =
      unseen gone (s.startAttempt r p refresh retry) := rfl

theorem forget_proceed (r : Remote ω α) (p : Policy) (refresh : Nat) (s : Site ω α)
    (phase : Phase α) :
    (s.forget gone).proceed r p refresh phase = unseen gone (s.proceed r p refresh phase) := by
  have again (n : Note α) (quiet : n.isPassing = true) :
      after [n] ((s.forget gone).startAttempt r p refresh true) =
        unseen gone (after [n] (s.startAttempt r p refresh true)) := by
    rw [forget_startAttempt, unseen_after (by simp [quiet])]
  cases phase with
  | spawned => exact forget_startAttempt r p refresh false s
  | attempting retry due result =>
    by_cases early : s.now < due
    · simp [proceed, forget_now, early, unseen]
    · have early' : ¬ (s.forget gone).now < due := early
      cases result with
      | cutOff =>
        simp only [proceed, if_neg early, if_neg early']
        exact forget_attemptEnded r p refresh retry _ s
      | ended ending events =>
        simp only [proceed, if_neg early, if_neg early']
        rw [← unseen_after (emitted_passing events)]
        congr 1
        cases ending with
        | value a => exact forget_attemptEnded r p refresh retry _ s
        | failed e => exact forget_attemptEnded r p refresh retry _ s
        | panicked payload => exact forget_taskPanicked refresh payload false s
  | renewing due result =>
    by_cases early : s.now < due
    · simp [proceed, forget_now, early, unseen]
    · have early' : ¬ (s.forget gone).now < due := early
      cases result with
      | cutOff =>
        simp only [proceed, if_neg early, if_neg early']
        exact again _ rfl
      | ended ending events =>
        simp only [proceed, if_neg early, if_neg early']
        rw [← unseen_after (emitted_passing events)]
        congr 1
        cases ending with
        | value u => exact again _ rfl
        | failed e => exact again _ rfl
        | panicked payload => exact forget_taskPanicked refresh payload true s

theorem forget_work (r : Remote ω α) (p : Policy) (refresh : Nat) (s : Site ω α) :
    (s.forget gone).work r p refresh = unseen gone (s.work r p refresh) := by
  unfold work
  have tasks : (s.forget gone).cache.tasks = s.cache.tasks := rfl
  rw [tasks]
  split
  · exact forget_proceed r p refresh s _
  · rfl

/-- Whatever is done, other than a question of a caller out of sight, comes to the same. -/
theorem forget_step (r : Remote ω α) (p : Policy) (s : Site ω α) (action : Action)
    (there : ∀ caller ∈ gone, action ≠ .get caller) :
    (s.forget gone).step r p action = unseen gone (s.step r p action) := by
  cases action with
  | get caller => exact forget_get p (fun away => there caller away rfl) s
  | resume caller =>
    by_cases away : caller ∈ gone
    · exact forget_resume_of_gone p away s
    · exact forget_resume p away s
  | abandon caller => exact Prod.ext (forget_abandon caller s) rfl
  | work refresh => exact forget_work r p refresh s
  | pass time => rfl

end Site

/-! ## Two runs -/

def Action.dropsAny (dropped : List Nat) : Action → Bool
  | abandon caller => caller ∈ dropped
  | _ => false

/-- The same schedule, in which none of some callers goes away. -/
def staying (dropped : List Nat) (actions : List Action) : List Action :=
  actions.filter fun action => !action.dropsAny dropped

/-- A call that was dropped is over: its number is not used again. -/
def Final (dropped : List Nat) (actions : List Action) : Prop :=
  actions.Pairwise fun earlier later =>
    ∀ caller ∈ dropped, earlier = .abandon caller → later ≠ .get caller

instance (dropped : List Nat) (actions : List Action) : Decidable (Final dropped actions) :=
  inferInstanceAs (Decidable (List.Pairwise _ _))

def withoutAnswers (dropped : List Nat) (h : History α) : History α :=
  h.filter fun x => !x.2.answersAny dropped

def Note.answer? (caller : Nat) : Note α → Option (Except NoData (Lookup α))
  | answered c result => if c = caller then some result else none
  | _ => none

def answersTo (caller : Nat) (h : History α) : List (Instant × Except NoData (Lookup α)) :=
  h.filterMap fun x => (x.2.answer? caller).map (x.1, ·)

variable {dropped : List Nat} {h h' : History α}

theorem withoutAnswers_append :
    withoutAnswers dropped (h ++ h') = withoutAnswers dropped h ++ withoutAnswers dropped h' :=
  List.filter_append h h'

/-- What is out of sight of some callers is so of more of them. -/
theorem withoutAnswers_unseen (among : gone ⊆ dropped) (now : Instant)
    (result : Site ω α × List (Note α)) :
    withoutAnswers dropped (stamped now (Site.unseen gone result).2) =
      withoutAnswers dropped (stamped now result.2) := by
  simp only [withoutAnswers, stamped, Site.unseen, List.filter_map, List.filter_filter]
  congr 1
  refine List.filter_congr fun n _ => ?_
  cases n with
  | answered caller result =>
    by_cases away : caller ∈ gone
    · simp [Note.answersAny, away, among away]
    · simp [Note.answersAny, away]
  | _ => rfl

theorem answersTo_withoutAnswers {caller : Nat} (stays : caller ∉ dropped) (h : History α) :
    answersTo caller (withoutAnswers dropped h) = answersTo caller h := by
  rw [answersTo, withoutAnswers, List.filterMap_filter]
  congr 1
  funext ⟨t, n⟩
  cases n with
  | answered c result =>
    by_cases hc : c = caller
    · simp [Note.answersAny, hc, stays]
    · simp [Note.answer?, hc]
  | _ => rfl

/-- Along a schedule more and more callers are out of sight, and that is all that tells the run in
which they go away from the one in which they stay. -/
theorem Site.run_forget (r : Remote ω α) (p : Policy) (actions : List Action) (s : Site ω α)
    (among : gone ⊆ dropped) (ended : ∀ caller ∈ gone, .get caller ∉ actions)
    (final : Final dropped actions) :
    ∃ gone', gone' ⊆ dropped ∧
      ((s.forget gone).run r p actions).1 =
        (s.run r p (staying dropped actions)).1.forget gone' ∧
      withoutAnswers dropped ((s.forget gone).run r p actions).2 =
        withoutAnswers dropped (s.run r p (staying dropped actions)).2 := by
  induction actions generalizing s gone with
  | nil => exact ⟨gone, among, rfl, rfl⟩
  | cons action rest ih =>
    obtain ⟨last, final'⟩ := List.pairwise_cons.1 final
    have ended' : ∀ caller ∈ gone, .get caller ∉ rest :=
      fun caller away asks => ended caller away (List.mem_cons_of_mem _ asks)
    by_cases drop : action.dropsAny dropped = true
    · obtain ⟨caller, chosen, rfl⟩ : ∃ caller ∈ dropped, action = .abandon caller := by
        cases action with
        | abandon caller => exact ⟨caller, by simpa [Action.dropsAny] using drop, rfl⟩
        | _ => simp [Action.dropsAny] at drop
      have away : (s.forget gone).abandon caller = s.forget (caller :: gone) :=
        congrArg (Site.mk · s.world s.now) (leave_forget caller s.cache)
      have skipped : staying dropped (.abandon caller :: rest) = staying dropped rest := by
        simp [staying, drop]
      have next := ih s (List.cons_subset.2 ⟨chosen, among⟩)
        (List.forall_mem_cons.2 ⟨fun asks => last _ asks caller chosen rfl rfl, ended'⟩) final'
      simpa [Site.run, Site.step, away, skipped] using next
    · have kept : staying dropped (action :: rest) = action :: staying dropped rest := by
        simp [staying, drop]
      have there : ∀ caller ∈ gone, action ≠ .get caller := by
        rintro caller away rfl
        exact ended caller away List.mem_cons_self
      obtain ⟨gone', among', site, told⟩ := ih (s.step r p action).1 among ended' final'
      refine ⟨gone', among', ?_, ?_⟩
      · simpa only [Site.run, forget_step r p s action there, kept, unseen] using site
      · simp only [Site.run, forget_step r p s action there, kept, withoutAnswers_append]
        rw [forget_now, withoutAnswers_unseen among]
        exact congrArg _ told

/-- What agrees in two runs, in one of which some callers go away while they stay in the other. -/
structure Undisturbed (dropped : List Nat) (left stayed : Site ω α × History α) : Prop where
  /-- The value with the moment at which it was captured. -/
  entry : left.1.cache.entry = stayed.1.cache.entry
  inflight : left.1.cache.inflight = stayed.1.cache.inflight
  /-- The refresh under way is equally far. -/
  tasks : left.1.cache.tasks = stayed.1.cache.tasks
  /-- The same fetches, failures and renewed credentials are counted. -/
  counters : left.1.cache.counters = stayed.1.cache.counters
  world : left.1.world = stayed.1.world
  now : left.1.now = stayed.1.now
  /-- The other callers wait or do not wait, and carry the same outcome. -/
  waiting : ∀ w : Waiter, w.caller ∉ dropped →
    (w ∈ left.1.cache.waiters ↔ w ∈ stayed.1.cache.waiters)
  /-- The other callers get the same answers at the same moments. -/
  answers : ∀ caller, caller ∉ dropped → answersTo caller left.2 = answersTo caller stayed.2
  /-- All else that happens is the same, too. -/
  history : withoutAnswers dropped left.2 = withoutAnswers dropped stayed.2

/-- Callers may go away whenever they like: at every point of the schedule the cache and the other
callers are as if they had stayed. -/
theorem run_undisturbed (r : Remote ω α) (p : Policy) (world : ω) (origin : Instant)
    (dropped : List Nat) (actions : List Action) (final : Final dropped actions) (n : Nat) :
    Undisturbed dropped ((Site.start world origin).run r p (actions.take n))
      ((Site.start world origin).run r p (staying dropped (actions.take n))) := by
  have sofar : Final dropped (actions.take n) := final.sublist (List.take_sublist n actions)
  obtain ⟨gone, among, site, told⟩ := Site.run_forget r p (actions.take n)
    (Site.start world origin) (List.nil_subset dropped) (by simp) sofar
  rw [Site.forget_nobody] at site told
  generalize (Site.start world origin).run r p (actions.take n) = left at site told
  generalize (Site.start world origin).run r p (staying dropped (actions.take n)) = stayed
    at site told
  obtain ⟨_, later⟩ := left
  subst site
  refine ⟨rfl, rfl, rfl, rfl, rfl, rfl, fun w stays => ?_, fun caller stays => ?_, told⟩
  · have seen : w.caller ∉ gone := fun away => stays (among away)
    simp [Site.forget, forget, seen]
  · rw [← answersTo_withoutAnswers stays, told, answersTo_withoutAnswers stays]

/-- Both callers of a refresh go away during its first attempt, which takes 2 s; the value that it
brings is stored all the same, and the next caller gets it. -/
theorem deserted_refresh_stores :
    let policy : Policy := ⟨"temperature", .ofSecs 60, .ofSecs 5⟩
    let slow : Remote Unit Nat := ⟨fun w => (⟨.ofSecs 2, .value 42, []⟩, w), none⟩
    let actions : List Action := [.get 1, .work 0, .get 2, .pass (.ofSecs 1), .abandon 1,
      .abandon 2, .pass (.ofSecs 1), .work 0, .resume 1, .get 3]
    let left := (Site.start () 0).run slow policy (actions.take 10)
    let stayed := (Site.start () 0).run slow policy (staying [1, 2] (actions.take 10))
    Final [1, 2] actions ∧ Undisturbed [1, 2] left stayed ∧
      left.1.cache.entry = some ⟨42, (Duration.ofSecs 2).nanos⟩ ∧
      answersTo 3 left.2 = [((Duration.ofSecs 2).nanos, .ok ⟨42, false, ⟨0⟩⟩)] :=
  ⟨by decide, run_undisturbed _ _ _ _ _ _ (by decide) 10, rfl, rfl⟩

end CameraTelemetry.Cache
