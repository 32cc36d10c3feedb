import CameraTelemetry.Cache.Schedule

/-!
# Worlds that cannot be told apart

If the calls behind two caches are the same calls as long as the worlds behind them are alike, and
leave them alike, then so are all steps: the caches, the moments and the notes agree, and nothing
that differs between the worlds comes out.
-/
namespace CameraTelemetry.Cache

variable {ω ω' α : Type} {R : ω → ω' → Prop}

/-- In worlds that are alike two calls are the same, and they leave the worlds alike. -/
def CallsAlike {β : Type} (R : ω → ω' → Prop) (k : ω → Call β × ω) (k' : ω' → Call β × ω') : Prop :=
  ∀ v v', R v v' → (k v).1 = (k' v').1 ∧ R (k v).2 (k' v').2

structure Remote.Alike (R : ω → ω' → Prop) (r : Remote ω α) (r' : Remote ω' α) : Prop where
  fetch : CallsAlike R r.fetch r'.fetch
  hook : Option.Rel (CallsAlike R) r.hook r'.hook

namespace Site

/-- Two sites agree up to what differs in the worlds behind them. -/
structure Alike (R : ω → ω' → Prop) (s : Site ω α) (s' : Site ω' α) : Prop where
  cache : s.cache = s'.cache
  world : R s.world s'.world
  now : s.now = s'.now

structure SameStep (R : ω → ω' → Prop) (done : Site ω α × List (Note α))
    (done' : Site ω' α × List (Note α)) : Prop where
  site : Alike R done.1 done'.1
  notes : done.2 = done'.2

theorem SameStep.after {done : Site ω α × List (Note α)} {done' : Site ω' α × List (Note α)}
    (same : SameStep R done done') (before : List (Note α)) :
    SameStep R (after before done) (after before done') :=
  ⟨same.site, congrArg (before ++ ·) same.notes⟩

theorem SameStep.andThen {done : Site ω α × List (Note α)} {done' : Site ω' α × List (Note α)}
    {next : Site ω α → Site ω α × List (Note α)} {next' : Site ω' α → Site ω' α × List (Note α)}
    (same : SameStep R done done')
    (onward : Alike R done.1 done'.1 → SameStep R (next done.1) (next' done'.1)) :
    SameStep R (andThen done next) (andThen done' next') := by
  unfold Site.andThen
  rw [same.notes]
  exact (onward same.site).after _

variable {r : Remote ω α} {r' : Remote ω' α} {p : Policy} {s : Site ω α} {s' : Site ω' α}

theorem Alike.rest (alike : Alike R s s') : SameStep R (s, []) (s', []) := ⟨alike, rfl⟩

theorem Alike.pass (alike : Alike R s s') (time : Duration) :
    Alike R (s.pass time) (s'.pass time) :=
  ⟨alike.cache, alike.world, congrArg (· + time.nanos) alike.now⟩

theorem Alike.startAttempt (remote : r.Alike R r') (alike : Alike R s s') (id : Nat)
    (retry : Bool) : SameStep R (s.startAttempt r p id retry) (s'.startAttempt r' p id retry) := by
  obtain ⟨call, world⟩ := remote.fetch s.world s'.world alike.world
  refine ⟨⟨?_, world, alike.now⟩, rfl⟩
  simp only [Site.startAttempt, alike.cache, alike.now, call]

theorem Alike.startRenewal {hook : ω → Call Unit × ω} {hook' : ω' → Call Unit × ω'}
    (hooks : CallsAlike R hook hook') (alike : Alike R s s') (id : Nat) :
    SameStep R (s.startRenewal hook p id) (s'.startRenewal hook' p id) := by
  obtain ⟨call, world⟩ := hooks s.world s'.world alike.world
  refine ⟨⟨?_, world, alike.now⟩, rfl⟩
  simp only [Site.startRenewal, alike.cache, alike.now, call]

theorem Alike.attemptEnded (remote : r.Alike R r') (alike : Alike R s s') (id : Nat)
    (retry : Bool) (outcome : Except FetchFailure α) :
    SameStep R (s.attemptEnded r p id retry outcome) (s'.attemptEnded r' p id retry outcome) := by
  obtain ⟨cache, world, now⟩ := s
  obtain ⟨cache', world', now'⟩ := s'
  obtain ⟨rfl, worlds, rfl⟩ : cache = cache' ∧ R world world' ∧ now = now' :=
    ⟨alike.cache, alike.world, alike.now⟩
  have ended : SameStep R
      (⟨(cache.finish id outcome now).1, world, now⟩, (cache.finish id outcome now).2)
      (⟨(cache.finish id outcome now).1, world', now⟩, (cache.finish id outcome now).2) :=
    ⟨⟨rfl, worlds, rfl⟩, rfl⟩
  have hooks := remote.hook
  unfold Site.attemptEnded
  generalize r.hook = hook, r'.hook = hook' at hooks
  cases hooks with
  | none => simpa using ended
  | some both =>
    cases retry with
    | true => exact ended
    | false =>
      cases outcome with
      | ok a => exact ended
      | error e =>
        cases e with
        | auth reason => exact alike.startRenewal both id
        | _ => exact ended

theorem Alike.taskPanicked (alike : Alike R s s') (id : Nat) (payload : String) (inHook : Bool) :
    SameStep R (s.taskPanicked id payload inHook) (s'.taskPanicked id payload inHook) := by
  obtain ⟨same, worlds, now⟩ := alike
  exact ⟨⟨congrArg (fun c => (c.abort id payload inHook).1) same, worlds, now⟩, rfl⟩

theorem Alike.proceed (remote : r.Alike R r') (alike : Alike R s s') (id : Nat) (phase : Phase α) :
    SameStep R (s.proceed r p id phase) (s'.proceed r' p id phase) := by
  cases phase with
  | spawned => exact alike.startAttempt remote id false
  | attempting retry due result =>
    simp only [Site.proceed, alike.now]
    split
    · exact alike.rest
    · cases result with
      | cutOff => exact alike.attemptEnded remote id retry _
      | ended ending events =>
        refine SameStep.after ?_ _
        cases ending with
        | value a => exact alike.attemptEnded remote id retry _
        | failed e => exact alike.attemptEnded remote id retry _
        | panicked payload => exact alike.taskPanicked id payload false
  | renewing due result =>
    have again := alike.startAttempt (p := p) remote id true
    simp only [Site.proceed, alike.now]
    split
    · exact alike.rest
    · cases result with
      | cutOff => exact again.after _
      | ended ending events =>
        refine SameStep.after ?_ _
        cases ending with
        | value u => exact again.after _
        | failed e => exact again.after _
        | panicked payload => exact alike.taskPanicked id payload true

theorem Alike.work (remote : r.Alike R r') (alike : Alike R s s') (id : Nat) :
    SameStep R (s.work r p id) (s'.work r' p id) := by
  simp only [Site.work, alike.cache]
  split
  · exact alike.proceed remote id _
  · exact alike.rest

theorem Alike.get (alike : Alike R s s') (caller : Nat) :
    SameStep R (s.get p caller) (s'.get p caller) := by
  obtain ⟨cache, world, now⟩ := s
  obtain ⟨cache', world', now'⟩ := s'
  obtain ⟨rfl, worlds, rfl⟩ : cache = cache' ∧ R world world' ∧ now = now' :=
    ⟨alike.cache, alike.world, alike.now⟩
  simp only [Site.get]
  split
  · exact alike.rest
  · split
    · exact ⟨alike, rfl⟩
    · exact ⟨⟨rfl, worlds, rfl⟩, rfl⟩

theorem Alike.resume (alike : Alike R s s') (caller : Nat) :
    SameStep R (s.resume p caller) (s'.resume p caller) := by
  obtain ⟨cache, world, now⟩ := s
  obtain ⟨cache', world', now'⟩ := s'
  obtain ⟨rfl, worlds, rfl⟩ : cache = cache' ∧ R world world' ∧ now = now' :=
    ⟨alike.cache, alike.world, alike.now⟩
  simp only [Site.resume]
  split
  · exact ⟨⟨rfl, worlds, rfl⟩, rfl⟩
  · exact alike.rest

theorem Alike.abandon (alike : Alike R s s') (caller : Nat) :
    Alike R (s.abandon caller) (s'.abandon caller) :=
  ⟨congrArg (·.leave caller) alike.cache, alike.world, alike.now⟩

/-- Steps cannot tell the worlds apart. -/
theorem Alike.step (remote : r.Alike R r') (alike : Alike R s s') (action : Action) :
    SameStep R (s.step r p action) (s'.step r' p action) := by
  cases action with
  | get caller => exact alike.get caller
  | resume caller => exact alike.resume caller
  | abandon caller => exact (alike.abandon caller).rest
  | work id => exact alike.work remote id
  | pass time => exact (alike.pass time).rest

/-! ## By the clock -/

theorem Alike.drive (remote : r.Alike R r') (deadline : Option Instant) (moments : Nat)
    (alike : Alike R s s') :
    SameStep R (s.drive r p deadline moments) (s'.drive r' p deadline moments) := by
  induction moments generalizing s s' with
  | zero => exact alike.rest
  | succ moments ih =>
    simp only [Site.drive, alike.cache, alike.now]
    split
    · exact alike.rest
    · split
      · exact ((alike.pass _).work remote _).andThen ih
      · exact alike.rest

theorem Alike.complete (remote : r.Alike R r') (alike : Alike R s s') :
    SameStep R (s.complete r p) (s'.complete r' p) :=
  alike.drive remote none momentsPerRefresh

theorem SameStep.foldl {done : Site ω α × List (Note α)} {done' : Site ω' α × List (Note α)}
    {next : Nat → Site ω α → Site ω α × List (Note α)}
    {next' : Nat → Site ω' α → Site ω' α × List (Note α)} (same : SameStep R done done')
    (onward : ∀ c s s', Alike R s s' → SameStep R (next c s) (next' c s')) (callers : List Nat) :
    SameStep R (callers.foldl (fun done c => Site.andThen done (next c)) done)
      (callers.foldl (fun done' c => Site.andThen done' (next' c)) done') := by
  induction callers generalizing done done' with
  | nil => exact same
  | cons c rest ih => exact ih (same.andThen (onward c _ _))

theorem Alike.getAll (remote : r.Alike R r') (alike : Alike R s s') (callers : List Nat) :
    SameStep R (s.getAll r p callers) (s'.getAll r' p callers) := by
  have asked := alike.rest.foldl (fun c _ _ alike => alike.get (p := p) c) callers
  unfold Site.getAll
  refine SameStep.foldl ?_ (fun c _ _ alike => alike.resume (p := p) c) callers
  simp only [asked.site.cache]
  split
  · exact asked
  · exact asked.andThen fun alike => alike.complete remote

end Site

end CameraTelemetry.Cache
