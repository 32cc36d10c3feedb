import CameraTelemetry.Proofs.Camera.Dealing

/-!
# The credentials held

Two caches share a client, and move in any order while the source of the credentials changes. What
the client holds is what was acquired last, with nothing given up since, and each request carries
it.
-/
namespace CameraTelemetry.Camera

open Cache

variable {ν : Type} {w : Surroundings ν} {setup : ClientSetup} {policy : Metric → Policy}

/-! ## Histories of both caches -/

def historyOf (m : Metric) (h : List Episode) : History m.Value :=
  h.flatMap fun e => stamped e.moment (e.notes m)

@[simp] theorem historyOf_nil (m : Metric) : historyOf m [] = [] := rfl

@[simp] theorem historyOf_append (m : Metric) (h h' : List Episode) :
    historyOf m (h ++ h') = historyOf m h ++ historyOf m h' := List.flatMap_append

@[simp] theorem historyOf_singleton (m : Metric) (e : Episode) :
    historyOf m [e] = stamped e.moment (e.notes m) := by
  simp [historyOf]

/-- The credentials were acquired in some episode, and since then none were asked for. -/
def LastAcquired (c : Credentials) (h : List Episode) : Prop :=
  ∃ before e after, h = before ++ e :: after ∧ .acquired (.ok c) ∈ e.deeds ∧
    ∀ e' ∈ after, ¬ e'.Acquires ∧ ¬ e'.Renews

theorem LastAcquired.extend {c : Credentials} {h : List Episode} {e : Episode}
    (last : LastAcquired c h) (calm : ¬ e.Acquires ∧ ¬ e.Renews) : LastAcquired c (h ++ [e]) := by
  obtain ⟨before, x, after, rfl, acquired, since⟩ := last
  refine ⟨before, x, after ++ [e], by simp, acquired, fun y mem => ?_⟩
  rcases List.mem_append.1 mem with old | new
  · exact since y old
  · rwa [List.mem_singleton.1 new]

/-- What was acquired last was acquired no earlier than in an episode in which some were asked for.
-/
theorem LastAcquired.since {c : Credentials} {before after : List Episode} {e : Episode}
    (last : LastAcquired c (before ++ e :: after)) (asked : e.Acquires) :
    ∃ e' ∈ e :: after, .acquired (.ok c) ∈ e'.deeds := by
  obtain ⟨before', x, after', split, acquired, since⟩ := last
  have later : e ∉ after' := fun mem => (since e mem).1 asked
  refine ⟨x, ?_, acquired⟩
  rcases List.append_eq_append_iff.1 split with ⟨between, rfl, parts⟩ | ⟨between, rfl, parts⟩
  · cases between with
    | nil =>
      obtain ⟨rfl, rfl⟩ : e = x ∧ after = after' := by simpa using parts
      exact List.mem_cons_self
    | cons y between =>
      obtain ⟨rfl, rfl⟩ : e = y ∧ after = between ++ x :: after' := by simpa using parts
      simp
  · cases between with
    | nil =>
      obtain ⟨rfl, rfl⟩ : x = e ∧ after' = after := by simpa using parts
      exact List.mem_cons_self
    | cons y between =>
      obtain ⟨rfl, rfl⟩ : x = y ∧ after' = between ++ e :: after := by simpa using parts
      simp at later

theorem split_last {h earlier later : List Episode} {e last : Episode}
    (split : h ++ [last] = earlier ++ e :: later) :
    (earlier = h ∧ e = last ∧ later = []) ∨
      ∃ later', later = later' ++ [last] ∧ h = earlier ++ e :: later' := by
  rcases List.eq_nil_or_concat later with rfl | ⟨later', y, rfl⟩
  · have parts := List.append_inj' split rfl
    simp only [List.cons.injEq, and_true] at parts
    exact .inl ⟨parts.1.symm, parts.2.symm, rfl⟩
  · rw [List.concat_eq_append, ← List.cons_append, ← List.append_assoc] at split
    have parts := List.append_inj' split rfl
    simp only [List.cons.injEq, and_true] at parts
    exact .inr ⟨later', by rw [List.concat_eq_append, parts.2], parts.1⟩

/-! ## Steps -/

namespace Shared

variable (w : Surroundings ν) (setup : ClientSetup) (policy : Metric → Policy) {s : Shared ν}
  {h : List Episode}

theorem step_caches_of_ne {m m' : Metric} (other : m' ≠ m) (action : Action) :
    (s.step w setup policy (.step m action)).1.caches m' = s.caches m' ∧
      (s.step w setup policy (.step m action)).2.notes m' = [] := by
  simp [step, Function.update_of_ne other]

theorem step_caches_self (m : Metric) (action : Action) :
    (s.step w setup policy (.step m action)).1.caches m =
        ((s.site m).step (m.remote w.recorded setup) (policy m) action).1.cache ∧
      (s.step w setup policy (.step m action)).2.notes m =
        ((s.site m).step (m.remote w.recorded setup) (policy m) action).2 := by
  simp [step]

theorem step_now (occurrence : Occurrence ν) :
    ∃ time : Duration, (s.step w setup policy occurrence).1.now = s.now + time.nanos := by
  cases occurrence with
  | change f => exact ⟨⟨0⟩, rfl⟩
  | step m action =>
    rcases (s.site m).step_moved (m.remote w.recorded setup) (policy m) action with
      ⟨still, -⟩ | ⟨time, passed⟩
    · exact ⟨⟨0⟩, still⟩
    · exact ⟨time, congrArg (·.1.now) passed⟩

/-- A cache that does not move is reached by letting time pass. -/
theorem reached_of_still {m : Metric} {occurrence : Occurrence ν}
    (reached : Reached (policy m) s.now (s.caches m) (historyOf m h))
    (same : (s.step w setup policy occurrence).1.caches m = s.caches m)
    (silent : (s.step w setup policy occurrence).2.notes m = []) :
    Reached (policy m) (s.step w setup policy occurrence).1.now
      ((s.step w setup policy occurrence).1.caches m)
      (historyOf m (h ++ [(s.step w setup policy occurrence).2])) := by
  obtain ⟨time, now⟩ := step_now w setup policy occurrence (s := s)
  simpa [same, silent, now] using reached.pass time

theorem reached_step (reached : ∀ m, Reached (policy m) s.now (s.caches m) (historyOf m h))
    (occurrence : Occurrence ν) (m : Metric) :
    Reached (policy m) (s.step w setup policy occurrence).1.now
      ((s.step w setup policy occurrence).1.caches m)
      (historyOf m (h ++ [(s.step w setup policy occurrence).2])) := by
  cases occurrence with
  | change f => exact reached_of_still w setup policy (reached m) rfl rfl
  | step m' action =>
    by_cases own : m = m'
    · subst own
      obtain ⟨cache, notes⟩ := step_caches_self w setup policy m action
      have next := (s.site m).step_reached (m.remote w.recorded setup) (reached m) action
      rw [historyOf_append, historyOf_singleton, cache, notes, step_moment]
      exact next
    · obtain ⟨same, silent⟩ := step_caches_of_ne w setup policy own action
      exact reached_of_still w setup policy (reached m) same silent

end Shared

/-! ## The credentials held -/

section

variable {s s' : Shared ν} {h : List Episode} {e : Episode}

/-- Whatever is held was acquired last. -/
def Holding (s : Shared ν) (h : List Episode) : Prop :=
  ∀ c, s.client.held = some c → LastAcquired c h

theorem holding_step (holding : Holding s h)
    (stepped : Shared.Stepped w setup policy s s' e) : Holding s' (h ++ [e]) := by
  intro c held'
  cases stepped with
  | quiet held deeds calls tasks =>
    refine (holding c (held ▸ held')).extend ⟨?_, ?_⟩
    · rintro ⟨result, mem⟩
      simp [deeds] at mem
    · rintro ⟨m, id, mem⟩
      simpa [Note.isCall] using calls m _ mem
  | fetched task leads fetched held deeds calls alone others still =>
    cases fetched with
    | refused without failed => simp [held] at held'
    | @sent c' first outside exchange delay found =>
      obtain rfl : c' = c := by simpa [held] using held'
      rcases found with ⟨had, rfl⟩ | ⟨-, -, rfl⟩
      · refine (holding c' had).extend ⟨?_, calls.not_renews⟩
        rintro ⟨result, mem⟩
        simp [deeds] at mem
      · exact ⟨h, e, [], rfl, by simp [deeds], by simp⟩
  | renewed task rejected renewed held deeds calls alone others still =>
    cases renewed with
    | refused failed => simp [held] at held'
    | @renewed c' fresh =>
      obtain rfl : c' = c := by simpa [held] using held'
      exact ⟨h, e, [], rfl, by simp [deeds], by simp⟩

/-- A request carries what is held, or what has been acquired for it. -/
theorem carried_step (holding : Holding s h) (stepped : Shared.Stepped w setup policy s s' e)
    {r : Request} {x : Exchange} {d : Duration} (sent : .sent r x d ∈ e.deeds) :
    ¬ e.Renews ∧ (e.deeds = [.acquired (.ok r.credentials), .sent r x d] ∨
      e.deeds = [.sent r x d] ∧ LastAcquired r.credentials h) := by
  cases stepped with
  | quiet held deeds calls tasks => simp [deeds] at sent
  | fetched task leads fetched held deeds calls alone others still =>
    refine ⟨calls.not_renews, ?_⟩
    cases fetched with
    | refused without failed => simp [deeds] at sent
    | @sent c first outside exchange delay found =>
      rcases found with ⟨had, rfl⟩ | ⟨-, -, rfl⟩
      · simp only [deeds, List.nil_append, List.mem_singleton, Deed.sent.injEq] at sent
        obtain ⟨rfl, rfl, rfl⟩ := sent
        exact .inr ⟨deeds, holding c had⟩
      · simp only [deeds, List.singleton_append, List.mem_cons, reduceCtorEq, false_or,
          List.not_mem_nil, or_false, Deed.sent.injEq] at sent
        obtain ⟨rfl, rfl, rfl⟩ := sent
        exact .inl deeds
  | renewed task rejected renewed held deeds calls alone others still =>
    cases renewed <;> simp [deeds] at sent

theorem refused_step (stepped : Shared.Stepped w setup policy s s' e) {f : FetchFailure}
    (failed : .acquired (.error f) ∈ e.deeds) : e.deeds = [.acquired (.error f)] := by
  cases stepped with
  | quiet held deeds calls tasks => simp [deeds] at failed
  | fetched task leads fetched held deeds calls alone others still =>
    cases fetched with
    | refused without error =>
      simp only [deeds, List.mem_singleton, Deed.acquired.injEq, Except.error.injEq] at failed
      rw [deeds, failed]
    | sent outside exchange delay found =>
      rcases found with ⟨-, rfl⟩ | ⟨-, -, rfl⟩ <;> simp [deeds] at failed
  | renewed task rejected renewed held deeds calls alone others still =>
    cases renewed with
    | refused error =>
      simp only [deeds, List.mem_singleton, Deed.acquired.injEq, Except.error.injEq] at failed
      rw [deeds, failed]
    | renewed fresh => simp [deeds] at failed

end

end CameraTelemetry.Camera
