import CameraTelemetry.Camera.Sharing
import CameraTelemetry.Proofs.Cache.Likeness
import Mathlib.Data.List.Forall2

/-!
# Surroundings that cannot be told apart

If a client gets credentials that count as the same wherever its surroundings count as the same, and
its requests with such credentials have the same outcome, then both its calls and the steps of the
caches over it agree. One case is that its deeds are put down: that changes nothing.
-/
namespace CameraTelemetry.Camera

open Cache Journal

variable {ν ν' : Type} {Q : Credentials → Credentials → Prop} {R : ν → ν' → Prop}
  {w : Surroundings ν} {w' : Surroundings ν'}

/-- Credentials that count as the same, or the same failure. -/
inductive AcquiredAlike (Q : Credentials → Credentials → Prop) :
    Except FetchFailure Credentials → Except FetchFailure Credentials → Prop
  | failed (e : FetchFailure) : AcquiredAlike Q (.error e) (.error e)
  | ok {c c' : Credentials} (alike : Q c c') : AcquiredAlike Q (.ok c) (.ok c')

/-- Surroundings that agree in what they do, as long as what is outside and the credentials used
count as the same. -/
structure Surroundings.Alike (Q : Credentials → Credentials → Prop) (R : ν → ν' → Prop)
    (w : Surroundings ν) (w' : Surroundings ν') : Prop where
  acquire : ∀ v v', R v v' → AcquiredAlike Q (w.acquire v) (w'.acquire v')
  acquired : ∀ v v', R v v' → R (w.acquired v) (w'.acquired v')
  exchange : ∀ query c c' v v', Q c c' → R v v' →
    (w.exchange ⟨query, c⟩ v).1 = (w'.exchange ⟨query, c'⟩ v').1 ∧
      (w.exchange ⟨query, c⟩ v).2.1 = (w'.exchange ⟨query, c'⟩ v').2.1 ∧
      R (w.exchange ⟨query, c⟩ v).2.2 (w'.exchange ⟨query, c'⟩ v').2.2
  identityFaults : w.identityFaults = w'.identityFaults

/-- Putting deeds down does not change what surroundings do. -/
theorem Surroundings.Alike.recorded (alike : w.Alike Q R w') :
    w.recorded.Alike Q (fun v v' => R v.world v'.world) w'.recorded where
  acquire := fun v v' same => alike.acquire v.world v'.world same
  acquired := fun v v' same => alike.acquired v.world v'.world same
  exchange := fun query c c' v v' creds same =>
    alike.exchange query c c' v.world v'.world creds same
  identityFaults := alike.identityFaults

theorem Surroundings.recorded_alike (w : Surroundings ν) :
    w.recorded.Alike Eq (fun v v' => v.world = v') w where
  acquire := by
    rintro v _ rfl
    change AcquiredAlike Eq (w.acquire v.world) (w.acquire v.world)
    cases w.acquire v.world with
    | error e => exact .failed e
    | ok c => exact .ok rfl
  acquired := by
    rintro v _ rfl
    rfl
  exchange := by
    rintro query c _ v _ rfl rfl
    exact ⟨rfl, rfl, rfl⟩
  identityFaults := rfl

theorem optionRel_eq_iff {α : Type} {a b : Option α} : Option.Rel Eq a b ↔ a = b := by
  constructor
  · rintro (_ | _)
    · rename_i same
      rw [same]
    · rfl
  · rintro rfl
    cases a with
    | none => exact .none
    | some a => exact .some rfl

namespace Client

structure Alike (Q : Credentials → Credentials → Prop) (R : ν → ν' → Prop) (c : Client ν)
    (c' : Client ν') : Prop where
  held : Option.Rel Q c.held c'.held
  outside : R c.outside c'.outside

theorem send_alike {α : Type} (setup : ClientSetup) (alike : w.Alike Q R w') (query : Query)
    (read : String → Except FetchFailure α × List Event) :
    CallsAlike (Alike Q R) (send w setup query read) (send w' setup query read) := by
  rintro ⟨held, v⟩ ⟨held', v'⟩ ⟨creds, outside⟩
  unfold send credentials
  cases creds with
  | @some c c' creds =>
    obtain ⟨exchange, delay, world⟩ := alike.exchange query c c' v v' creds outside
    exact ⟨by simp only [exchange, delay], .some creds, world⟩
  | none =>
    have acquired := alike.acquire v v' outside
    have outside' := alike.acquired v v' outside
    simp only
    generalize w.acquire v = result, w'.acquire v' = result' at acquired
    cases acquired with
    | failed e => exact ⟨rfl, .none, outside'⟩
    | @ok c c' creds =>
      obtain ⟨exchange, delay, world⟩ := alike.exchange query c c' _ _ creds outside'
      exact ⟨by simp only [exchange, delay], .some creds, world⟩

/-- A renewal tells the user of the new credentials and nothing else of them. -/
theorem renew_alike (alike : w.Alike Q R w') (users : ∀ c c', Q c c' → c.username = c'.username) :
    CallsAlike (Alike Q R) (renew w) (renew w') := by
  rintro ⟨held, v⟩ ⟨held', v'⟩ ⟨-, outside⟩
  have acquired := alike.acquire v v' outside
  have outside' := alike.acquired v v' outside
  unfold renew
  simp only
  generalize w.acquire v = result, w'.acquire v' = result' at acquired
  cases acquired with
  | failed e => exact ⟨rfl, .none, outside'⟩
  | @ok c c' creds => exact ⟨by simp only [renewedEvent, users c c' creds], .some creds, outside'⟩

end Client

theorem Metric.remote_alike (setup : ClientSetup) (alike : w.Alike Q R w')
    (users : ∀ c c', Q c c' → c.username = c'.username) (m : Metric) :
    (m.remote w setup).Alike (Client.Alike Q R) (m.remote w' setup) := by
  rw [Metric.remote_eq, Metric.remote_eq, alike.identityFaults]
  exact ⟨Client.send_alike setup alike _ _, .some (Client.renew_alike alike users)⟩

/-! ## Two caches -/

/-- The same thing happens: a cache moves, or what is outside changes into what counts as the same.
-/
inductive Occurrence.Alike (R : ν → ν' → Prop) : Occurrence ν → Occurrence ν' → Prop
  | step (m : Metric) (action : Action) : Alike R (.step m action) (.step m action)
  | change {f : ν → ν} {f' : ν' → ν'} (same : ∀ v v', R v v' → R (f v) (f' v')) :
    Alike R (.change f) (.change f')

/-- The same happened, the deeds of the client apart. -/
def Episode.Alike (e e' : Episode) : Prop := e.moment = e'.moment ∧ e.notes = e'.notes

def Episode.log (policy : Metric → Policy) (e : Episode) : List Event :=
  events (policy .temperature) (e.notes .temperature)
    ++ events (policy .identity) (e.notes .identity)

theorem Episode.log_alike (policy : Metric → Policy) {h h' : List Episode}
    (alike : List.Forall₂ Episode.Alike h h') : h.map (·.log policy) = h'.map (·.log policy) := by
  induction alike with
  | nil => rfl
  | @cons e e' rest rest' first _ ih =>
    have same : e.log policy = e'.log policy := by simp only [Episode.log, first.2]
    rw [List.map_cons, List.map_cons, same, ih]

namespace Shared

structure Alike (Q : Credentials → Credentials → Prop) (R : ν → ν' → Prop) (s : Shared ν)
    (s' : Shared ν') : Prop where
  caches : s.caches = s'.caches
  client : s.client.Alike Q R s'.client
  now : s.now = s'.now

theorem Alike.step (setup : ClientSetup) (policy : Metric → Policy) {s : Shared ν}
    {s' : Shared ν'} {x : Occurrence ν} {x' : Occurrence ν'}
    (surroundings : w.Alike Q R w') (users : ∀ c c', Q c c' → c.username = c'.username)
    (alike : Alike Q R s s') (same : x.Alike R x') :
    Alike Q R (s.step w setup policy x).1 (s'.step w' setup policy x').1 ∧
      (s.step w setup policy x).2.Alike (s'.step w' setup policy x').2 := by
  cases same with
  | change same =>
    exact ⟨⟨alike.caches, ⟨alike.client.held, same _ _ alike.client.outside⟩, alike.now⟩,
      alike.now, rfl⟩
  | step m action =>
    have site : Site.Alike (Client.Alike Q fun v v' => R v.world v'.world) (s.site m) (s'.site m) :=
      ⟨congrFun alike.caches m, ⟨alike.client.held, alike.client.outside⟩, alike.now⟩
    obtain ⟨⟨cache, world, now⟩, notes⟩ :=
      site.step (p := policy m) (Metric.remote_alike setup surroundings.recorded users m) action
    refine ⟨⟨?_, ⟨world.held, world.outside⟩, now⟩, alike.now, ?_⟩
    · simp only [Shared.step, cache, alike.caches]
    · simp only [Shared.step, notes]

/-- Two runs in which the same things happen leave the same notes. -/
theorem Alike.run (setup : ClientSetup) (policy : Metric → Policy) {s : Shared ν}
    {s' : Shared ν'} {xs : List (Occurrence ν)} {xs' : List (Occurrence ν')}
    (surroundings : w.Alike Q R w') (users : ∀ c c', Q c c' → c.username = c'.username)
    (alike : Alike Q R s s') (same : List.Forall₂ (Occurrence.Alike R) xs xs') :
    Alike Q R (s.run w setup policy xs).1 (s'.run w' setup policy xs').1 ∧
      List.Forall₂ Episode.Alike (s.run w setup policy xs).2 (s'.run w' setup policy xs').2 := by
  induction same generalizing s s' with
  | nil => exact ⟨alike, .nil⟩
  | cons first rest ih =>
    obtain ⟨next, episode⟩ := alike.step setup policy surroundings users first
    obtain ⟨last, later⟩ := ih next
    exact ⟨last, .cons episode later⟩

/-- Two caches with the client they share move as each of them does over that client. -/
theorem step_unrecorded (w : Surroundings ν) (setup : ClientSetup) (policy : Metric → Policy)
    (s : Shared ν) (m : Metric) (action : Action) :
    let plain := (⟨s.caches m, s.client, s.now⟩ : Site (Client ν) m.Value).step (m.remote w setup)
      (policy m) action
    (s.step w setup policy (.step m action)).1 =
        ⟨Function.update s.caches m plain.1.cache, plain.1.world, plain.1.now⟩ ∧
      (s.step w setup policy (.step m action)).2.notes m = plain.2 := by
  intro plain
  have start : Site.Alike (Client.Alike Eq fun v v' => v.world = v') (s.site m)
      (⟨s.caches m, s.client, s.now⟩ : Site (Client ν) m.Value) :=
    ⟨rfl, ⟨optionRel_eq_iff.2 rfl, rfl⟩, rfl⟩
  have same := start.step (p := policy m)
    (Metric.remote_alike setup w.recorded_alike (fun c c' same => same ▸ rfl) m) action
  have client : (⟨((s.site m).step (m.remote w.recorded setup) (policy m) action).1.world.held,
      ((s.site m).step (m.remote w.recorded setup) (policy m) action).1.world.outside.world⟩ :
        Client ν) = plain.1.world := by
    rw [optionRel_eq_iff.1 same.site.world.held, same.site.world.outside]
  refine ⟨?_, ?_⟩
  · simp only [Shared.step, client, same.site.cache, same.site.now, plain]
  · simp only [Shared.step, Function.update_self, same.notes, plain]

end Shared

end CameraTelemetry.Camera
