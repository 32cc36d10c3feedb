import CameraTelemetry.Proofs.Cache.SingleFlight

/-!
# What a waiting caller carries

A caller that waits after a move waited before it, came with it, or was woken by it. Hence it
carries the outcome of the refresh that it joined as soon as there is one, and keeps it until it
takes its answer, whatever refreshes follow.
-/
namespace CameraTelemetry.Cache

variable {ω α : Type} {p : Policy} {now : Instant} {c c' : Cache α} {h : History α}
  {notes : List (Note α)}

def Note.arrives (caller : Nat) : Note α → Bool
  | asked k | joined k _ => k == caller
  | _ => false

theorem Note.asks_of_not_arrives {n : Note α} {caller : Nat} (hn : n.arrives caller = false) :
    n.asks caller = false := by
  cases n <;> simp_all [arrives, asks]

theorem Note.joined?_of_not_arrives {n : Note α} {caller : Nat} (hn : n.arrives caller = false) :
    n.joined? caller = none := by
  cases n <;> simp_all [arrives, joined?]

theorem Note.not_arrives_of_passing {n : Note α} (hn : n.isPassing = true) (caller : Nat) :
    n.arrives caller = false := by
  cases n <;> simp_all [isPassing, arrives]

theorem ne_of_idle {caller : Nat} {w : Waiter} (idle : c.isWaiting caller = false)
    (hw : w ∈ c.waiters) : w.caller ≠ caller := by
  simp only [isWaiting, List.any_eq_false, beq_iff_eq] at idle
  exact idle w hw

/-- A caller is answered from a fresh entry as it asks, or later with the outcome that it carries.
-/
theorem Site.answered_cases {r : Remote ω α} {s : Site ω α} {action : Action} {caller : Nat}
    {result : Except NoData (Lookup α)} (hn : .answered caller result ∈ (s.step r p action).2) :
    (∃ e, s.cache.fresh? p s.now = some e ∧ result = .ok (e.lookup s.now false) ∧
      .asked caller ∈ (s.step r p action).2) ∨
    ∃ w ∈ s.cache.waiters, w.caller = caller ∧ ∃ outcome, w.outcome = some outcome ∧
      result = resolve p.name s.cache.entry outcome s.now ∧
      ∀ n ∈ (s.step r p action).2, n.arrives caller = false := by
  rcases s.step_moved r p action with ⟨-, passing, notes, parts, quiet, move⟩ | ⟨time, passed⟩
  · rw [parts] at hn ⊢
    have said : .answered caller result ∈ notes := by
      refine (List.mem_append.1 hn).resolve_left fun low => ?_
      simpa [Note.isPassing] using quiet _ low
    rcases move.of_answered said with
      ⟨e, fresh, answer, asks⟩ | ⟨w, hw, hc, outcome, woken, answer, rfl⟩
    · exact .inl ⟨e, fresh, answer, List.mem_append_right _ asks⟩
    · refine .inr ⟨w, hw, hc, outcome, woken, answer, fun n hn => ?_⟩
      rcases List.mem_append.1 hn with low | last
      · exact Note.not_arrives_of_passing (quiet n low) _
      · obtain rfl := List.mem_singleton.1 last
        rfl
  · simp [passed] at hn

/-- How a caller that waits after a move came to do so. -/
inductive Carries (c : Cache α) (now : Instant) (notes : List (Note α)) (w : Waiter) : Prop
  /-- It waited before, and the move has nothing to do with it. -/
  | before (old : w ∈ c.waiters) (apart : ∀ n ∈ notes, n.arrives w.caller = false)
      (unended : ∀ n ∈ notes, n.outcome? w.refresh = none)
  /-- It joined the refresh under way, or that which it started. -/
  | arrived (asks : .asked w.caller ∈ notes)
      (joins : joinedBy w.caller (stamped now notes) = some w.refresh)
      (shared : c.inflight = some w.refresh ∨ c.refreshes = w.refresh)
      (unended : ∀ n ∈ notes, n.outcome? w.refresh = none) (waits : w.outcome = none)
  /-- Its refresh ended with the move. -/
  | woken (v : Waiter) (outcome : Outcome) (old : v ∈ c.waiters)
      (apart : ∀ n ∈ notes, n.arrives v.caller = false)
      (told : outcomeOf v.refresh (stamped now notes) = some outcome)
      (same : w = { v with outcome := some outcome })

theorem carries_of_arrival {caller id : Nat} {w : Waiter}
    (hw : w ∈ c.waiters ++ [⟨caller, id, none⟩]) (idle : c.isWaiting caller = false)
    (shared : c.inflight = some id ∨ c.refreshes = id) (asks : .asked caller ∈ notes)
    (joins : joinedBy caller (stamped now notes) = some id)
    (apart : ∀ n ∈ notes, ∀ k, caller ≠ k → n.arrives k = false)
    (unended : ∀ n ∈ notes, ∀ k, n.outcome? k = none) : Carries c now notes w := by
  rcases List.mem_append.1 hw with old | new
  · exact .before old (fun n hn => apart n hn _ (ne_of_idle idle old).symm) fun n hn =>
      unended n hn _
  · obtain rfl := List.mem_singleton.1 new
    exact .arrived asks joins shared (fun n hn => unended n hn _) rfl

theorem carries_of_wake {id : Nat} {seen : Outcome} {n : Note α} {w : Waiter}
    (hw : w ∈ wake id seen c.waiters)
    (mark : ∀ k, n.outcome? k = if id = k then some seen else none)
    (apart : ∀ k, n.arrives k = false) : Carries c now [n] w := by
  obtain ⟨v, hv, rfl⟩ := List.mem_map.1 hw
  by_cases hid : v.refresh = id
  · subst hid
    rw [if_pos rfl]
    exact .woken v seen hv (by simp [apart]) (by simp [outcomeOf, mark]) rfl
  · rw [if_neg hid]
    exact .before hv (by simp [apart]) (by simp [mark, Ne.symm hid])

theorem Move.carries {w : Waiter} (move : Move p now c notes c') (hw : w ∈ c'.waiters) :
    Carries c now notes w := by
  cases move with
  | rest => exact .before hw (by simp) (by simp)
  | leave caller => exact .before (List.mem_filter.1 hw).1 (by simp) (by simp)
  | hit idle fresh =>
    have other := (ne_of_idle idle hw).symm
    exact .before hw (by simp [Note.arrives, other]) (by simp [Note.outcome?])
  | join idle expired noted =>
    exact carries_of_arrival hw idle (.inl noted) (by simp) (by simp [joinedBy, Note.joined?])
      (by simp [Note.arrives]) (by simp [Note.outcome?])
  | start idle expired free =>
    exact carries_of_arrival hw idle (.inr rfl) (by simp) (by simp [joinedBy, Note.joined?])
      (by simp [Note.arrives]) (by simp [Note.outcome?])
  | attempt due result task => exact .before hw (by simp [Note.arrives]) (by simp [Note.outcome?])
  | renew due result task elapsed rejected =>
    exact .before hw (by simp [Note.arrives]) (by simp [Note.outcome?])
  | retry due result task elapsed =>
    exact .before hw (by simp [Note.arrives]) (by simp [Note.outcome?])
  | store task elapsed brought => exact carries_of_wake hw (fun k => rfl) fun k => rfl
  | fail task elapsed failed => exact carries_of_wake hw (fun k => rfl) fun k => rfl
  | abort payload task ran => exact carries_of_wake hw (fun k => rfl) fun k => rfl
  | resume waits woken =>
    exact .before (List.mem_filter.1 hw).1 (by simp [Note.arrives]) (by simp [Note.outcome?])

/-- Notes that tell of no arrival of a caller leave what it joined as it was. -/
theorem joinedBy_append {caller : Nat} (apart : ∀ n ∈ notes, n.arrives caller = false) :
    joinedBy caller (h ++ stamped now notes) = joinedBy caller h := by
  rw [joinedBy, latest_append, latest_stamped fun n hn => Note.joined?_of_not_arrives (apart n hn),
    Option.none_or]
  rfl

theorem askedAt_append {caller : Nat} (apart : ∀ n ∈ notes, n.arrives caller = false) :
    askedAt caller (h ++ stamped now notes) = askedAt caller h := by
  rw [askedAt, latest_append,
    latest_stamped fun n hn => by simp [Note.asks_of_not_arrives (apart n hn)], Option.none_or]
  rfl

theorem askedAt_of_asked {caller : Nat} (asks : .asked caller ∈ notes) :
    askedAt caller (h ++ stamped now notes) = some now := by
  rw [askedAt, latest_append, Option.or_eq_some_iff]
  refine .inl ?_
  cases hl : latest (fun x => if x.2.asks caller then some x.1 else none) (stamped now notes) with
  | none => simpa [Note.asks] using latest_eq_none_iff.1 hl (now, .asked caller) (by simp [asks])
  | some t =>
    obtain ⟨⟨t', n⟩, hx, hn⟩ := exists_of_latest hl
    simp only [mem_stamped] at hx
    simp only [Option.ite_none_right_eq_some, Option.some.injEq] at hn
    rw [← hn.2, hx.1]

theorem outcomeOf_append {id : Nat} (unended : ∀ n ∈ notes, n.outcome? id = none) :
    outcomeOf id (h ++ stamped now notes) = outcomeOf id h := by
  rw [outcomeOf, latest_append, latest_stamped unended, Option.none_or]
  rfl

/-- The history tells which refresh a waiting caller joined, and the caller carries its outcome. -/
structure Waits (h : History α) (w : Waiter) : Prop where
  joined : joinedBy w.caller h = some w.refresh
  outcome : w.outcome = outcomeOf w.refresh h

theorem Waits.silent {w : Waiter} (waits : Waits h w)
    (apart : ∀ n ∈ notes, n.arrives w.caller = false)
    (unended : ∀ n ∈ notes, n.outcome? w.refresh = none) : Waits (h ++ stamped now notes) w where
  joined := (joinedBy_append apart).trans waits.joined
  outcome := waits.outcome.trans (outcomeOf_append unended).symm

theorem Reached.waits (reached : Reached p now c h) : ∀ w ∈ c.waiters, Waits h w := by
  induction reached with
  | start now => simp [empty]
  | pass time reached ih => exact ih
  | murmur reached quiet ih =>
    exact fun w hw => (ih w hw).silent (fun n hn => Note.not_arrives_of_passing (quiet n hn) _)
      fun n hn => Note.outcome?_of_not_mark (Note.not_mark_of_passing (quiet n hn)) _
  | move reached move ih =>
    intro w hw
    cases move.carries hw with
    | before old apart unended => exact (ih w old).silent apart unended
    | arrived asks joins shared unended waits =>
      have flight := reached.flight
      constructor
      · rw [joinedBy, latest_append]
        exact congrArg (Option.or · _) joins
      · rw [waits, outcomeOf_append unended]
        rcases shared with noted | number
        · exact ((flight.noted_iff_underway _).1 noted).2.symm
        · exact (flight.unborn _ (Nat.le_of_eq number)).symm
    | woken v outcome old apart told same =>
      subst same
      constructor
      · exact (joinedBy_append apart).trans (ih v old).joined
      · rw [outcomeOf, latest_append]
        exact (congrArg (Option.or · _) told).symm

end CameraTelemetry.Cache
