import CameraTelemetry.Proofs.Cache.Waiting

/-!
# The entry is the last success

The entry is read off the history: it is the value of the latest refresh that succeeded, with the
moment at which it did. A caller carries the outcome of the refresh that it joined, however late it
takes its answer, so that it is told of missing data exactly while no refresh has succeeded.
-/
namespace CameraTelemetry.Cache

variable {ω α : Type} {p : Policy} {now : Instant} {c c' : Cache α} {h : History α}
  {notes : List (Note α)}

theorem lastSuccess_eq_none_iff : lastSuccess h = none ↔ ∀ t, ¬ SucceededAt t h := by
  rw [lastSuccess, latest_eq_none_iff]
  constructor
  · rintro silent t ⟨id, value, hx⟩
    simpa [Note.stored?] using silent _ hx
  · rintro failed ⟨t, n⟩ hx
    cases n with
    | stored id value => exact absurd ⟨id, value, hx⟩ (failed t)
    | _ => rfl

theorem succeededAt_of_lastSuccess {e : Entry α} (he : lastSuccess h = some e) :
    SucceededAt e.capturedAt h := by
  obtain ⟨⟨t, n⟩, hx, hn⟩ := exists_of_latest he
  cases n with
  | stored id value =>
    obtain rfl : ⟨value, t⟩ = e := by simpa [Note.stored?] using hn
    exact ⟨id, value, hx⟩
  | _ => simp [Note.stored?] at hn

/-- Only a refresh that stored a value is told as a success. -/
theorem Note.stored_of_outcome {n : Note α} {id : Nat} (told : n.outcome? id = some (.ok ())) :
    ∃ value, n = .stored id value := by
  cases n with
  | stored k value =>
    obtain rfl : k = id := by simpa [outcome?] using told
    exact ⟨value, rfl⟩
  | _ => simp [outcome?, panickedOutcome] at told

theorem stored_of_outcomeOf {id : Nat} (told : outcomeOf id h = some (.ok ())) :
    ∃ t value, (t, .stored id value) ∈ h := by
  obtain ⟨⟨t, n⟩, hx, hn⟩ := exists_of_latest told
  obtain ⟨value, rfl⟩ := Note.stored_of_outcome hn
  exact ⟨t, value, hx⟩

/-- The notes of a move say what it does to the entry. -/
theorem Move.entry (move : Move p now c notes c') :
    c'.entry = (lastSuccess (stamped now notes)).or c.entry := by
  cases move <;> rfl

theorem lastSuccess_passing {passing : List (Note α)} (quiet : ∀ n ∈ passing, n.isPassing = true) :
    lastSuccess (stamped now passing) = none := by
  refine latest_stamped fun n hn => ?_
  have hq := quiet n hn
  cases n <;> simp_all [Note.isPassing, Note.stored?]

theorem lastSuccess_append (h h' : History α) :
    lastSuccess (h ++ h') = (lastSuccess h').or (lastSuccess h) := latest_append

theorem Reached.entry (reached : Reached p now c h) : c.entry = lastSuccess h := by
  induction reached with
  | start now => rfl
  | pass time reached ih => exact ih
  | murmur reached quiet ih =>
    rw [lastSuccess_append, lastSuccess_passing quiet, Option.none_or, ih]
  | move reached move ih => rw [lastSuccess_append, move.entry, ih]

theorem Reached.past (reached : Reached p now c h) : ∀ x ∈ h, x.1 ≤ now := by
  have extend {now : Instant} {h : History α} (notes : List (Note α)) (past : ∀ x ∈ h, x.1 ≤ now) :
      ∀ x ∈ h ++ stamped now notes, x.1 ≤ now := by
    rintro ⟨t, n⟩ hx
    rcases List.mem_append.1 hx with hx | hx
    · exact past _ hx
    · exact Nat.le_of_eq (mem_stamped.1 hx).1
  induction reached with
  | start now => simp
  | pass time reached ih => exact fun x hx => Nat.le_trans (ih x hx) (Nat.le_add_right _ _)
  | murmur reached quiet ih => exact extend _ ih
  | move reached move ih => exact extend _ ih

theorem Reached.succeeded (reached : Reached p now c h) {e : Entry α} (he : c.entry = some e) :
    SucceededAt e.capturedAt h :=
  succeededAt_of_lastSuccess (reached.entry.symm.trans he)

theorem Reached.captured_le (reached : Reached p now c h) {e : Entry α} (he : c.entry = some e) :
    e.capturedAt ≤ now := by
  obtain ⟨id, value, hx⟩ := reached.succeeded he
  exact reached.past _ hx

/-- What is stored now is no older than the entry. -/
theorem Reached.younger (reached : Reached p now c h) {e : Entry α} (he : c.entry = some e)
    (notes : List (Note α)) :
    ∃ later, (lastSuccess (stamped now notes)).or c.entry = some later ∧
      e.capturedAt ≤ later.capturedAt := by
  cases success : lastSuccess (stamped now notes) with
  | none => exact ⟨e, by simp [he], Nat.le_refl _⟩
  | some later =>
    obtain ⟨id, value, hx⟩ := succeededAt_of_lastSuccess success
    exact ⟨later, rfl, (mem_stamped.1 hx).1 ▸ reached.captured_le he⟩

/-- A step never puts an older entry in the place of one, nor none at all. -/
theorem Site.step_entry (r : Remote ω α) {s : Site ω α} (reached : Reached p s.now s.cache h)
    (action : Action) {e : Entry α} (he : s.cache.entry = some e) :
    ∃ later, (s.step r p action).1.cache.entry = some later ∧ e.capturedAt ≤ later.capturedAt := by
  rw [(step_reached r reached action).entry, lastSuccess_append, ← reached.entry]
  exact reached.younger he _

theorem Site.run_entry (r : Remote ω α) {s : Site ω α} (reached : Reached p s.now s.cache h)
    (actions : List Action) {e : Entry α} (he : s.cache.entry = some e) :
    ∃ later, (s.run r p actions).1.cache.entry = some later ∧ e.capturedAt ≤ later.capturedAt := by
  induction actions generalizing s h e with
  | nil => exact ⟨e, he, Nat.le_refl _⟩
  | cons action rest ih =>
    obtain ⟨mid, hmid, young⟩ := step_entry r reached action he
    obtain ⟨later, hlater, younger⟩ := ih (step_reached r reached action) hmid
    exact ⟨later, hlater, Nat.le_trans young younger⟩

/-- An attempt that brought a value ends with its being stored. -/
theorem Site.proceed_stores (r : Remote ω α) (p : Policy) {id : Nat} {retry : Bool} {due : Instant}
    {result : Bounded α} {value : α} (s : Site ω α) (elapsed : due ≤ s.now)
    (came : result.outcome? p.fetchTimeout = some (.ok value)) :
    .stored id value ∈ (s.proceed r p id (.attempting retry due result)).2 := by
  simp only [proceed, if_neg (Nat.not_lt.2 elapsed)]
  cases result with
  | cutOff => simp [Bounded.outcome?] at came
  | ended ending events =>
    cases ending with
    | value a =>
      obtain rfl : a = value := by simpa [Bounded.outcome?] using came
      simp [after, attemptEnded, finish_ok]
    | failed e => simp [Bounded.outcome?] at came
    | panicked payload => simp [Bounded.outcome?] at came

/-- An answer is an error where there is no entry, and it then hands on the outcome. -/
theorem resolve_error_iff {metric : String} {entry : Option (Entry α)} {outcome : Outcome}
    {now : Instant} : (∃ e, resolve metric entry outcome now = .error e) ↔ entry = none := by
  cases entry <;> cases outcome <;> simp [resolve]

/-- A caller who is not waiting is answered at once from the entry, or waits from then on. -/
theorem Site.get_answers (r : Remote ω α) (s : Site ω α) {caller : Nat}
    (idle : s.cache.isWaiting caller = false) :
    (∃ e, s.cache.entry = some e ∧
      .answered caller (.ok (e.lookup s.now false)) ∈ (s.step r p (.get caller)).2) ∨
    ∃ w ∈ (s.step r p (.get caller)).1.cache.waiters, w.caller = caller := by
  simp only [step, get, idle, Bool.false_eq_true, if_false]
  cases fresh : s.cache.fresh? p s.now with
  | some e => exact .inl ⟨e, (fresh?_eq_some_iff.1 fresh).1, by simp⟩
  | none =>
    refine .inr ?_
    cases noted : s.cache.inflight with
    | some id => exact ⟨⟨caller, id, none⟩, by simp [join, noted, await], rfl⟩
    | none => exact ⟨⟨caller, s.cache.refreshes, none⟩, by simp [join, noted, await], rfl⟩

/-- Waiting entries of one caller agree in the refresh that it joined, and so in its outcome. -/
theorem Reached.resume_answers (r : Remote ω α) {s : Site ω α}
    (reached : Reached p s.now s.cache h) {w : Waiter} {outcome : Outcome}
    (hw : w ∈ s.cache.waiters) (woken : w.outcome = some outcome) :
    (s.step r p (.resume w.caller)).2 =
      [.answered w.caller (resolve p.name s.cache.entry outcome s.now)] := by
  cases found : s.cache.waiters.find? (fun v => v.caller == w.caller) with
  | none => exact absurd (List.find?_eq_none.1 found w hw) (by simp)
  | some v =>
    have caller : v.caller = w.caller := by simpa using List.find?_some found
    have carried := reached.waits v (List.mem_of_find?_eq_some found)
    have joined := carried.joined
    rw [caller, (reached.waits w hw).joined, Option.some.injEq] at joined
    have same : v.outcome = some outcome := by
      rw [carried.outcome, ← joined, ← (reached.waits w hw).outcome, woken]
    obtain ⟨_, _, _⟩ := v
    subst same
    simp only [Site.step, Site.resume, found]

/-- What holds of the entry and of the answers at a point of a run. -/
structure EntryTold (r : Remote ω α) (p : Policy) (s : Site ω α) (h : History α) : Prop where
  /-- The entry is the value of the latest success, with its moment. -/
  entry_eq : s.cache.entry = lastSuccess h
  entry_none_iff : s.cache.entry = none ↔ ∀ t, ¬ SucceededAt t h
  /-- A stored value is what an attempt of the refresh has brought. -/
  brought : ∀ action id value, .stored id value ∈ (s.step r p action).2 →
    ∃ retry due result, ⟨id, .attempting retry due result⟩ ∈ s.cache.tasks ∧
      result.outcome? p.fetchTimeout = some (.ok value)
  /-- A task whose attempt is over and has brought a value stores it when it is run. -/
  brings : ∀ id retry due result value, ⟨id, .attempting retry due result⟩ ∈ s.cache.tasks →
    due ≤ s.now → result.outcome? p.fetchTimeout = some (.ok value) →
    .stored id value ∈ (s.work r p id).2
  /-- A refresh that failed or panicked leaves the entry as it was. -/
  kept : ∀ action id n e, n ∈ (s.step r p action).2 → n.outcome? id = some (.error e) →
    (s.step r p action).1.cache.entry = s.cache.entry
  /-- Once there is an entry there is one at least as young from then on. -/
  younger : ∀ actions e, s.cache.entry = some e →
    ∃ later, (s.run r p actions).1.cache.entry = some later ∧ e.capturedAt ≤ later.capturedAt
  /-- Whoever asks has an answer at once or waits, -/
  asked : ∀ caller, s.cache.isWaiting caller = false →
    (∃ e, s.cache.entry = some e ∧
      .answered caller (.ok (e.lookup s.now false)) ∈ (s.step r p (.get caller)).2) ∨
    ∃ w ∈ (s.step r p (.get caller)).1.cache.waiters, w.caller = caller
  /-- carries the outcome of the refresh that it joined as soon as there is one, -/
  carried : ∀ w ∈ s.cache.waiters,
    joinedBy w.caller h = some w.refresh ∧ w.outcome = outcomeOf w.refresh h
  /-- and is then answered when it goes on. -/
  answered : ∀ w ∈ s.cache.waiters, ∀ outcome, w.outcome = some outcome →
    (s.step r p (.resume w.caller)).2 =
      [.answered w.caller (resolve p.name s.cache.entry outcome s.now)]
  /-- A caller is told of missing data exactly while no refresh has succeeded. -/
  no_data_iff : ∀ action caller result, .answered caller result ∈ (s.step r p action).2 →
    ((∃ e, result = .error e) ↔ ∀ t, ¬ SucceededAt t h)
  /-- It is told the metric and why the refresh that it joined has failed. -/
  no_data : ∀ action caller e, .answered caller (.error e) ∈ (s.step r p action).2 →
    e.metric = p.name ∧
      ∃ id, joinedBy caller h = some id ∧ outcomeOf id h = some (.error e.cause)
  /-- Nobody carries a success while there is no entry. -/
  no_empty_success : ∀ w ∈ s.cache.waiters, w.outcome = some (.ok ()) → s.cache.entry ≠ none

/-- At every point of every run the entry is exactly the last success, and the answers say so. -/
theorem run_entryTold (r : Remote ω α) (p : Policy) (world : ω) (origin : Instant)
    (actions : List Action) :
    EntryTold r p ((Site.start world origin).run r p actions).1
      ((Site.start world origin).run r p actions).2 := by
  have reached := Site.run_reached r p world origin actions
  generalize ((Site.start world origin).run r p actions).1 = s at reached
  generalize ((Site.start world origin).run r p actions).2 = h at reached
  have none_iff : s.cache.entry = none ↔ ∀ t, ¬ SucceededAt t h := by
    rw [reached.entry, lastSuccess_eq_none_iff]
  have no_empty_success (w : Waiter) (hw : w ∈ s.cache.waiters) (ok : w.outcome = some (.ok ())) :
      s.cache.entry ≠ none := by
    intro none
    obtain ⟨t, value, stored⟩ := stored_of_outcomeOf ((reached.waits w hw).outcome.symm.trans ok)
    exact none_iff.1 none t ⟨w.refresh, value, stored⟩
  constructor
  case entry_eq => exact reached.entry
  case entry_none_iff => exact none_iff
  case brought =>
    intro action id value hn
    obtain ⟨notes, hn, move⟩ := Site.exists_move_of_note hn rfl
    obtain ⟨⟨retry, due, result, task, -, came⟩, -⟩ := move.of_stored hn
    exact ⟨retry, due, result, task, came⟩
  case brings =>
    intro id retry due result value task elapsed came
    rw [Site.work_of_alone (reached.flight.alone_of_task task)]
    exact s.proceed_stores r p elapsed came
  case kept =>
    intro action id n e hn failed
    obtain ⟨notes, hn, move⟩ := Site.exists_move_of_note hn (Note.loud_of_outcome failed)
    exact (move.of_error hn failed).2.2
  case younger => exact fun actions e he => Site.run_entry r reached actions he
  case asked => exact fun caller idle => s.get_answers r idle
  case carried => exact fun w hw => ⟨(reached.waits w hw).joined, (reached.waits w hw).outcome⟩
  case answered => exact fun w hw outcome woken => reached.resume_answers r hw woken
  case no_data_iff =>
    intro action caller result hn
    rw [← none_iff]
    rcases Site.answered_cases hn with ⟨e, fresh, rfl, -⟩ | ⟨w, hw, -, outcome, -, rfl, -⟩
    · simp [(fresh?_eq_some_iff.1 fresh).1]
    · exact resolve_error_iff
  case no_data =>
    intro action caller e hn
    rcases Site.answered_cases hn with ⟨e, -, nope, -⟩ | ⟨w, hw, rfl, outcome, woken, answer, -⟩
    · cases nope
    · have carried := (reached.waits w hw).outcome.symm.trans woken
      have none := resolve_error_iff.1 ⟨e, answer.symm⟩
      rw [none] at answer
      cases outcome with
      | ok u => exact absurd none (no_empty_success w hw woken)
      | error cause =>
        simp only [resolve, Except.error.injEq] at answer
        subst answer
        exact ⟨rfl, w.refresh, (reached.waits w hw).joined, carried⟩
  case no_empty_success => exact no_empty_success

end CameraTelemetry.Cache
