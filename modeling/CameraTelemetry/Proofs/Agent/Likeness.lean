import CameraTelemetry.Agent.History
import CameraTelemetry.Proofs.Cache.Likeness
import Mathlib.Data.List.Forall2

/-!
# Agents that cannot be told apart

If the surroundings of two agents agree in what they do as long as they count as the same, then so
do the agents: whatever happens to both, they serve the same responses and keep the same events.
-/
namespace CameraTelemetry.Agent

open Cache Journal

variable {ω ω' : Type} {R : ω → ω' → Prop} {w : Surroundings ω} {w' : Surroundings ω'}

/-- Surroundings that agree in what they do, as long as they count as the same. -/
structure Surroundings.Alike (R : ω → ω' → Prop) (w : Surroundings ω) (w' : Surroundings ω') :
    Prop where
  readings : ∀ v v', R v v' → w.readings v = w'.readings v'
  reachable : ∀ v v', R v v' → w.reachable v = w'.reachable v'
  temperature : w.temperature.Alike R w'.temperature
  device : w.device.Alike R w'.device
  timestamp : w.timestamp = w'.timestamp

structure Alike (R : ω → ω' → Prop) (a : Agent ω) (a' : Agent ω') : Prop where
  sampler : a.sampler = a'.sampler
  temperature : a.temperature = a'.temperature
  device : a.device = a'.device
  journal : a.journal = a'.journal
  requests : a.requests = a'.requests
  now : a.now = a'.now
  world : R a.world a'.world

structure SameDone {β : Type} (R : ω → ω' → Prop) (done : β × Agent ω) (done' : β × Agent ω') :
    Prop where
  result : done.1 = done'.1
  agent : Alike R done.2 done'.2

variable {a : Agent ω} {a' : Agent ω'}

theorem start_alike (capacity : Nat) (now : Instant) {v : ω} {v' : ω'} (same : R v v') :
    Alike R (start capacity now v) (start capacity now v') :=
  ⟨rfl, rfl, rfl, rfl, rfl, rfl, same⟩

theorem Alike.pass (alike : Alike R a a') (time : Duration) :
    Alike R (a.pass time) (a'.pass time) :=
  { alike with now := congrArg (· + time.nanos) alike.now }

theorem Alike.record (setup : Setup) (surroundings : w.Alike R w') (events : List Event)
    (alike : Alike R a a') : Alike R (a.record setup w events) (a'.record setup w' events) :=
  { alike with
    journal := by
      simp only [Agent.record, alike.journal, alike.now, surroundings.timestamp] }

theorem Alike.poll (setup : Setup) (surroundings : w.Alike R w') (alike : Alike R a a') :
    SameDone R (a.poll setup w) (a'.poll setup w') := by
  have polled :
      a.sampler.sample (w.readings a.world) = a'.sampler.sample (w'.readings a'.world) := by
    rw [alike.sampler, surroundings.readings _ _ alike.world]
  have agent : Alike R { a with sampler := (a.sampler.sample (w.readings a.world)).sampler }
      { a' with sampler := (a'.sampler.sample (w'.readings a'.world)).sampler } :=
    { alike with sampler := congrArg (·.sampler) polled }
  unfold Agent.poll
  rw [polled] at agent ⊢
  simp only
  split
  · exact ⟨rfl, agent.record setup surroundings _⟩
  · exact ⟨rfl, agent.record setup surroundings _⟩

/-! ## Asking -/

theorem ask_alike {α : Type} {r : Remote ω α} {r' : Remote ω' α} (p : Policy) {s : Site ω α}
    {s' : Site ω' α} (remote : r.Alike R r') (alike : s.Alike R s') :
    (ask r p s).1 = (ask r' p s').1 ∧ (ask r p s).2.1.Alike R (ask r' p s').2.1 ∧
      (ask r p s).2.2 = (ask r' p s').2.2 := by
  have same := alike.getAll (p := p) remote [0]
  refine ⟨?_, same.site, ?_⟩
  · simp only [ask, same.notes, same.site.cache, same.site.now]
  · simp only [ask, same.notes]

theorem Alike.askTemperature (setup : Setup) (surroundings : w.Alike R w') (alike : Alike R a a') :
    SameDone R (a.askTemperature setup w) (a'.askTemperature setup w') := by
  unfold Agent.askTemperature
  cases setup.temperature with
  | none => exact ⟨rfl, alike⟩
  | some p =>
    obtain ⟨feed, site, events⟩ := ask_alike p surroundings.temperature
      (⟨alike.temperature, alike.world, alike.now⟩ : Site.Alike R
        ⟨a.temperature, a.world, a.now⟩ ⟨a'.temperature, a'.world, a'.now⟩)
    refine ⟨congrArg some feed, ?_⟩
    simp only [events]
    exact Alike.record setup surroundings _
      { alike with temperature := site.cache, world := site.world, now := site.now }

theorem Alike.askDevice (setup : Setup) (surroundings : w.Alike R w') (alike : Alike R a a') :
    SameDone R (a.askDevice setup w) (a'.askDevice setup w') := by
  unfold Agent.askDevice
  cases setup.device with
  | none => exact ⟨rfl, alike⟩
  | some p =>
    obtain ⟨feed, site, events⟩ := ask_alike p surroundings.device
      (⟨alike.device, alike.world, alike.now⟩ : Site.Alike R
        ⟨a.device, a.world, a.now⟩ ⟨a'.device, a'.world, a'.now⟩)
    refine ⟨congrArg some feed, ?_⟩
    simp only [events]
    exact Alike.record setup surroundings _
      { alike with device := site.cache, world := site.world, now := site.now }

theorem Alike.scrape (setup : Setup) (surroundings : w.Alike R w') (alike : Alike R a a') :
    SameDone R (a.scrape setup w) (a'.scrape setup w') := by
  have polled := alike.poll setup surroundings
  have temperature := polled.agent.askTemperature setup surroundings
  have device := temperature.agent.askDevice setup surroundings
  refine ⟨?_, device.agent⟩
  simp only [Agent.scrape, polled.result, temperature.result, device.result, device.agent.requests]

theorem Alike.health (setup : Setup) (surroundings : w.Alike R w') (alike : Alike R a a') :
    SameDone R (a.health setup w) (a'.health setup w') := by
  have polled := alike.poll setup surroundings
  have asked := polled.agent.askTemperature setup surroundings
  refine ⟨?_, asked.agent⟩
  simp only [Agent.health, polled.result, asked.result, asked.agent.now, surroundings.timestamp,
    surroundings.reachable _ _ asked.agent.world]

/-! ## Serving -/

theorem Alike.getMetrics (setup : Setup) (surroundings : w.Alike R w') (alike : Alike R a a') :
    SameDone R (a.getMetrics setup w) (a'.getMetrics setup w') := by
  have scraped := alike.scrape setup surroundings
  simp only [Agent.getMetrics, scraped.result]
  split
  · exact ⟨rfl, scraped.agent.record setup surroundings _⟩
  · exact ⟨rfl, scraped.agent.record setup surroundings _⟩

theorem Alike.getHealth (setup : Setup) (surroundings : w.Alike R w') (alike : Alike R a a') :
    SameDone R (a.getHealth setup w) (a'.getHealth setup w') := by
  have judged := alike.health setup surroundings
  refine ⟨?_, judged.agent⟩
  simp only [Agent.getHealth, judged.result]

theorem Alike.getDevice (setup : Setup) (surroundings : w.Alike R w') (alike : Alike R a a') :
    SameDone R (a.getDevice setup w) (a'.getDevice setup w') := by
  have asked := alike.askDevice setup surroundings
  unfold Agent.getDevice
  generalize a.askDevice setup w = done, a'.askDevice setup w' = done' at asked
  obtain ⟨feed, b⟩ := done
  obtain ⟨feed', b'⟩ := done'
  obtain ⟨rfl, agent⟩ : feed = feed' ∧ Alike R b b' := ⟨asked.result, asked.agent⟩
  cases feed with
  | none => exact ⟨rfl, agent⟩
  | some feed =>
    simp only
    split
    · exact ⟨rfl, agent⟩
    · exact ⟨rfl, agent⟩

theorem Alike.get (setup : Setup) (surroundings : w.Alike R w') (alike : Alike R a a')
    (query : String) (route : Route) :
    SameDone R (a.get setup w query route) (a'.get setup w' query route) := by
  unfold Agent.get
  cases route with
  | metrics => exact alike.getMetrics setup surroundings
  | health => exact alike.getHealth setup surroundings
  | device => exact alike.getDevice setup surroundings
  | logs =>
    have answered : a.getLogs query = a'.getLogs query := by simp only [getLogs, alike.journal]
    exact ⟨answered, alike⟩

theorem Alike.respond (setup : Setup) (surroundings : w.Alike R w') (alike : Alike R a a')
    (r : Http.Request) : SameDone R (a.respond setup w r) (a'.respond setup w' r) := by
  unfold Agent.respond
  split
  · exact ⟨rfl, alike⟩
  · rename_i route _
    have got := alike.get setup surroundings r.query route
    split
    · exact got
    · split
      · exact ⟨congrArg (·.withoutBody) got.result, got.agent⟩
      · exact ⟨rfl, alike⟩

theorem Alike.serve (setup : Setup) (surroundings : w.Alike R w') (alike : Alike R a a')
    (r : Http.Request) : SameDone R (a.serve setup w r) (a'.serve setup w' r) := by
  have counted :
      Alike R { a with requests := a.requests + 1 } { a' with requests := a'.requests + 1 } :=
    { alike with requests := congrArg (· + 1) alike.requests }
  have recorded := counted.record setup surroundings [requestEvent r]
  unfold Agent.serve
  exact recorded.respond setup surroundings r

/-! ## Runs -/

/-- The same happens to two agents: what changes outside changes into what counts as the same. -/
inductive Happening.Alike (R : ω → ω' → Prop) : Happening ω → Happening ω' → Prop
  | request (r : Http.Request) : Alike R (.request r) (.request r)
  | pass (time : Duration) : Alike R (.pass time) (.pass time)
  | turn {v : ω} {v' : ω'} (same : R v v') : Alike R (.turn v) (.turn v')

theorem Alike.step (setup : Setup) (surroundings : w.Alike R w') (alike : Alike R a a')
    {x : Happening ω} {x' : Happening ω'} (same : x.Alike R x') :
    Alike R (a.step setup w x).1 (a'.step setup w' x').1 ∧
      (a.step setup w x).2 = (a'.step setup w' x').2 := by
  cases same with
  | request r =>
    have served := alike.serve setup surroundings r
    refine ⟨served.agent, ?_⟩
    simp only [Agent.step, served.result, surroundings.readings _ _ alike.world]
  | pass time => exact ⟨alike.pass time, rfl⟩
  | turn same => exact ⟨{ alike with world := same }, rfl⟩

/-- Agents that agree go on to agree, and serve the same. -/
theorem Alike.run (setup : Setup) (surroundings : w.Alike R w') (alike : Alike R a a')
    {xs : List (Happening ω)} {xs' : List (Happening ω')}
    (same : List.Forall₂ (Happening.Alike R) xs xs') :
    Alike R (a.run setup w xs).1 (a'.run setup w' xs').1 ∧
      (a.run setup w xs).2 = (a'.run setup w' xs').2 := by
  induction same generalizing a a' with
  | nil => exact ⟨alike, rfl⟩
  | cons first rest ih =>
    obtain ⟨next, served⟩ := alike.step setup surroundings first
    obtain ⟨last, later⟩ := ih next
    exact ⟨last, by simp only [Agent.run, served, later]⟩

end CameraTelemetry.Agent
