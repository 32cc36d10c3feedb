import CameraTelemetry.Proofs.Agent.ScrapeText
import CameraTelemetry.Proofs.Cache.Counting
import CameraTelemetry.Proofs.Exposition.Counters
import Mathlib.Data.List.Forall2

/-!
# The counters that an agent exports

A scrape makes its counters anew, from the count of requests and from what the caches have counted.
Every request is counted, also one that is refused, and nothing that an agent does takes anything
off the counts of a cache. The counters of later scrapes are therefore never below earlier ones.
-/
namespace CameraTelemetry.Agent

open Cache (Counters Policy)
open Exposition
open Http (Request Response)
open Number

variable {ω : Type} {setup : Setup} {w : Surroundings ω} {a a' a'' : Agent ω}

/-! ## What is counted -/

/-- From one agent to what became of it: so many more requests, and counters that have grown. -/
structure Onward (requests : Nat) (a a' : Agent ω) : Prop where
  requests : a'.requests = a.requests + requests
  temperature : a.temperature.counters.Grown a'.temperature.counters
  device : a.device.counters.Grown a'.device.counters

namespace Onward

theorem refl (a : Agent ω) : Onward 0 a a := ⟨rfl, .refl _, .refl _⟩

theorem trans {m n : Nat} (first : Onward m a a') (second : Onward n a' a'') :
    Onward (m + n) a a'' :=
  ⟨by rw [second.requests, first.requests, Nat.add_assoc],
    first.temperature.trans second.temperature, first.device.trans second.device⟩

end Onward

theorem record_onward (events : List Journal.Event) (a : Agent ω) :
    Onward 0 a (a.record setup w events) := ⟨rfl, .refl _, .refl _⟩

theorem poll_onward (setup : Setup) (w : Surroundings ω) (a : Agent ω) :
    Onward 0 a (a.poll setup w).2 := by
  simp only [poll]
  split <;> exact ⟨rfl, .refl _, .refl _⟩

theorem ask_grown {α : Type} (r : Cache.Remote ω α) (p : Policy) (s : Cache.Site ω α) :
    s.cache.counters.Grown (ask r p s).2.1.cache.counters :=
  Cache.Site.getAll_grown r p [0] s

theorem askTemperature_onward (setup : Setup) (w : Surroundings ω) (a : Agent ω) :
    Onward 0 a (a.askTemperature setup w).2 := by
  unfold askTemperature
  cases setup.temperature with
  | none => exact .refl a
  | some p => exact ⟨rfl, ask_grown w.temperature p ⟨a.temperature, a.world, a.now⟩, .refl _⟩

theorem askDevice_onward (setup : Setup) (w : Surroundings ω) (a : Agent ω) :
    Onward 0 a (a.askDevice setup w).2 := by
  unfold askDevice
  cases setup.device with
  | none => exact .refl a
  | some p => exact ⟨rfl, .refl _, ask_grown w.device p ⟨a.device, a.world, a.now⟩⟩

theorem scrape_onward (setup : Setup) (w : Surroundings ω) (a : Agent ω) :
    Onward 0 a (a.scrape setup w).2 :=
  ((poll_onward setup w a).trans (askTemperature_onward setup w _)).trans
    (askDevice_onward setup w _)

theorem getMetrics_onward (setup : Setup) (w : Surroundings ω) (a : Agent ω) :
    Onward 0 a (a.getMetrics setup w).2 := by
  have scraped := scrape_onward setup w a
  simp only [getMetrics]
  split <;> exact scraped.trans (record_onward _ _)

theorem getHealth_onward (setup : Setup) (w : Surroundings ω) (a : Agent ω) :
    Onward 0 a (a.getHealth setup w).2 :=
  (poll_onward setup w a).trans (askTemperature_onward setup w _)

theorem getDevice_onward (setup : Setup) (w : Surroundings ω) (a : Agent ω) :
    Onward 0 a (a.getDevice setup w).2 := by
  have asked := askDevice_onward setup w a
  unfold getDevice
  split
  · simp_all
  · split <;> simp_all

theorem get_onward (setup : Setup) (w : Surroundings ω) (query : String) (a : Agent ω)
    (route : Route) : Onward 0 a (a.get setup w query route).2 := by
  cases route with
  | metrics => exact getMetrics_onward setup w a
  | health => exact getHealth_onward setup w a
  | device => exact getDevice_onward setup w a
  | logs => exact .refl a

theorem respond_onward (setup : Setup) (w : Surroundings ω) (r : Request) (a : Agent ω) :
    Onward 0 a (a.respond setup w r).2 := by
  unfold respond
  split
  · exact .refl a
  · have got := get_onward setup w r.query a
    split
    · exact got _
    · split
      · exact got _
      · exact .refl a

/-- Every request is counted, whatever becomes of it. -/
theorem serve_onward (setup : Setup) (w : Surroundings ω) (r : Request) (a : Agent ω) :
    Onward 1 a (a.serve setup w r).2 := by
  have noticed : Onward 1 a (noticed setup w r a) := ⟨rfl, .refl _, .refl _⟩
  exact noticed.trans (respond_onward setup w r _)

theorem step_onward (setup : Setup) (w : Surroundings ω) (a : Agent ω) (happening : Happening ω) :
    Onward (a.step setup w happening).2.length a (a.step setup w happening).1 := by
  cases happening with
  | request r => exact serve_onward setup w r a
  | pass time => exact ⟨rfl, .refl _, .refl _⟩
  | turn world => exact ⟨rfl, .refl _, .refl _⟩

/-! ## What a scrape tells of it -/

/-- The requests that were counted, and the counters of the caches that are kept, by their names. -/
structure Counts where
  requests : Nat
  caches : List (String × Counters)

def counts (setup : Setup) (a : Agent ω) : Counts where
  requests := a.requests
  caches := setup.temperature.toList.map (fun p => (p.name, a.temperature.counters))
    ++ setup.device.toList.map (fun p => (p.name, a.device.counters))

def Scrape.counts (s : Scrape) : Counts where
  requests := s.requests
  caches := s.temperature.toList.map (fun feed => (feed.cache, feed.counters))
    ++ s.device.toList.map (fun feed => (feed.cache, feed.counters))

/-- The same caches, and counters that have grown. -/
def Counts.Grown (c c' : Counts) : Prop :=
  List.Forall₂ (fun x x' => x.1 = x'.1 ∧ Counters.Grown x.2 x'.2) c.caches c'.caches

theorem Onward.counts_grown {n : Nat} (setup : Setup) (onward : Onward n a a') :
    (counts setup a).Grown (counts setup a') := by
  refine List.rel_append ?_ ?_
  · cases setup.temperature with
    | none => exact .nil
    | some p => exact .cons ⟨rfl, onward.temperature⟩ .nil
  · cases setup.device with
    | none => exact .nil
    | some p => exact .cons ⟨rfl, onward.device⟩ .nil

@[simp] theorem counts_record (events : List Journal.Event) :
    counts setup (a.record setup w events) = counts setup a := rfl

/-- A scrape tells what the agent has counted once it is done. -/
theorem scrape_counts (setup : Setup) (w : Surroundings ω) (a : Agent ω) :
    (a.scrape setup w).1.counts = counts setup (a.scrape setup w).2 := by
  have polled := (poll_onward setup w a).requests
  cases temperature : setup.temperature <;> cases device : setup.device <;>
    simp [scrape, Scrape.counts, counts, askTemperature, askDevice, temperature, device, ask,
      record, polled]

/-! ## The counters in a set -/

def cacheMetrics : List (String × (Counters → Nat)) :=
  [("camwatch_remote_fetches_total", Counters.fetches),
    ("camwatch_remote_fetch_failures_total", Counters.failures)]

/-- No count is too great for a double to be exact. -/
structure Counts.Exact (c : Counts) : Prop where
  requests : c.requests < 2 ^ 53
  caches : ∀ cache ∈ c.caches, ∀ metric ∈ cacheMetrics, metric.2 cache.2 < 2 ^ 53

def requestMetric : String := "camwatch_http_requests_total"

namespace Scrape

theorem fetches_eq (s : Scrape) : feedFetches s.temperature ++ feedFetches s.device =
    s.counts.caches.flatMap fun (name, c) => fetchObservations name c := by
  simp [feedFetches, Scrape.counts, List.flatMap_append, List.flatMap_map]

/-- Each counter of the caches is observed once of every cache. -/
theorem filter_fetchObservations {name : String} {count : Counters → Nat}
    (listed : (name, count) ∈ cacheMetrics) :
    ∃ help, ∀ cache c, (fetchObservations cache c).filter (fun o => o.name == name) =
      [Observation.counter name help [("source", cache)] (.ofNat (count c))] := by
  simp only [cacheMetrics, List.mem_cons, Prod.mk.injEq, List.not_mem_nil, or_false] at listed
  rcases listed with ⟨rfl, rfl⟩ | ⟨rfl, rfl⟩
  all_goals exact ⟨_, fun _ _ => rfl⟩

/-- Under the name of such a counter a scrape observes the caches and nothing else. -/
theorem filter_caches (s : Scrape) {name : String} {count : Counters → Nat}
    (listed : (name, count) ∈ cacheMetrics) :
    s.observations.filter (fun o => o.name == name) =
      (s.counts.caches.flatMap fun (cache, c) => fetchObservations cache c).filter
        fun o => o.name == name := by
  have own : name ∈ Part.caches.names := List.mem_map_of_mem (f := Prod.fst) listed
  rw [s.filter_part own, ofPart, fetches_eq]

theorem filter_requests (s : Scrape) :
    s.observations.filter (fun o => o.name == requestMetric) =
      [.counter "camwatch_http_requests_total" "HTTP requests served" [] (.ofNat s.requests)] :=
  s.filter_part_of_single (p := .requests) rfl

end Scrape

/-- A counter with a sample for each cache. Without caches there is no such metric. -/
def cacheCounter? (count : Counters → Nat) : List (String × Counters) → Option (Kind × List Sample)
  | [] => none
  | first :: rest =>
    some (.counter, (first :: rest).map fun cache =>
      ⟨[("source", cache.1)], .ofNat (count cache.2)⟩)

/-- A set tells of the requests once, and of each cache once under each of its counters. -/
structure CountsShown (c : Counts) (set : MetricSet) : Prop where
  requests : set.metric? requestMetric = some (.counter, [⟨[], .ofNat c.requests⟩])
  caches : ∀ metric ∈ cacheMetrics, set.metric? metric.1 = cacheCounter? metric.2 c.caches

/-- A text has a line for the requests, and one for each counter of each cache. -/
structure CountsWritten (c : Counts) (text : String) : Prop where
  requests : Shows text (countLine requestMetric [] c.requests)
  caches : ∀ metric ∈ cacheMetrics, ∀ cache ∈ c.caches,
    Shows text (countLine metric.1 [("source", cache.1)] (metric.2 cache.2))

theorem sample_counter {name help : String} {labels : Labels} {n : Nat} (small : n < 2 ^ 53) :
    (Observation.counter name help labels (.ofNat n)).sample = ⟨labels, .ofNat n⟩ := by
  have whole : (UInt64.ofNat n).toNat = n :=
    UInt64.toNat_ofNat_of_lt' (Nat.lt_of_lt_of_le small (by decide))
  simp only [Observation.counter, Observation.sample, whole]

namespace Scrape

theorem metric?_requests (s : Scrape) (small : s.requests < 2 ^ 53) :
    s.metrics.1.metric? requestMetric = some (.counter, [⟨[], .ofNat s.requests⟩]) := by
  rw [metrics, MetricSet.metric?_addAll s.agreeing, s.filter_requests, metricOf, List.map_singleton,
    sample_counter small]
  rfl

theorem metric?_cache (s : Scrape) {name : String} {count : Counters → Nat}
    (listed : (name, count) ∈ cacheMetrics)
    (small : ∀ cache ∈ s.counts.caches, count cache.2 < 2 ^ 53) :
    s.metrics.1.metric? name = cacheCounter? count s.counts.caches := by
  obtain ⟨help, one⟩ := filter_fetchObservations listed
  rw [metrics, MetricSet.metric?_addAll s.agreeing, s.filter_caches listed]
  simp only [List.filter_flatMap, one, ← List.map_eq_flatMap]
  cases found : s.counts.caches with
  | nil => rfl
  | cons first rest =>
    rw [found] at small
    have kinds (cache : String × Counters) : (Observation.counter name help [("source", cache.1)]
        (.ofNat (count cache.2))).kind = .counter := rfl
    have samples : (first :: rest).map (fun cache => (Observation.counter name help
        [("source", cache.1)] (.ofNat (count cache.2))).sample) =
          (first :: rest).map fun cache => ⟨[("source", cache.1)], .ofNat (count cache.2)⟩ :=
      List.map_congr_left fun cache mem => sample_counter (small cache mem)
    rw [metricOf_map kinds, samples, cacheCounter?]

theorem countsShown (s : Scrape) (small : s.counts.Exact) : CountsShown s.counts s.metrics.1 where
  requests := s.metric?_requests small.requests
  caches := fun metric listed =>
    s.metric?_cache listed fun cache mem => small.caches cache mem metric listed

/-- What the set of a scrape tells is in its text, if the caches have different names. -/
theorem countsWritten (s : Scrape) (small : s.counts.Exact)
    (apart : (s.counts.caches.map Prod.fst).Nodup) : CountsWritten s.counts s.metrics.1.text := by
  have shown := s.countsShown small
  constructor
  case requests =>
    exact shows_count s.registrable shown.requests (by simp) (List.mem_singleton_self _)
      small.requests
  case caches =>
    intro metric listed cache mem
    have samples := shown.caches metric listed
    cases found : s.counts.caches with
    | nil => simp [found] at mem
    | cons first rest =>
      rw [found] at mem apart samples
      refine shows_count s.registrable samples ?_ (List.mem_map_of_mem mem) ?_
      · simpa [sampleKey, Function.comp_def] using apart
      · exact small.caches cache (found ▸ mem) metric listed

end Scrape

/-! ## Along a run -/

theorem getMetrics_counts (setup : Setup) (w : Surroundings ω) (a : Agent ω) :
    counts setup (a.getMetrics setup w).2 = (a.scrape setup w).1.counts := by
  rw [scrape_counts]
  simp only [getMetrics]
  split <;> exact counts_record _

def inAnswerTo (r : Request) (response : Http.Response) : Http.Response :=
  if r.method = "HEAD" then response.withoutBody else response

/-- Whoever asks for the metrics is shown a scrape, and it tells what is counted by then. -/
theorem serve_scrape (setup : Setup) (w : Surroundings ω) (a : Agent ω) {r : Request}
    (asked : document? r = some .metrics) :
    ∃ s : Scrape, (a.serve setup w r).1 = inAnswerTo r (shown s.metrics.1) ∧
      counts setup (a.serve setup w r).2 = s.counts := by
  refine ⟨((noticed setup w r a).scrape setup w).1, ?_⟩
  rw [← getMetrics_response, ← getMetrics_counts]
  unfold document? at asked
  split at asked
  case isFalse other => cases asked
  case isTrue method =>
    rcases method with get | head
    · simp [serve, respond, inAnswerTo, noticed, Agent.get, get, asked]
    · simp [serve, respond, inAnswerTo, noticed, Agent.get, head, asked]

/-- What an agent has counted after each request of a run. -/
def tallies (setup : Setup) (w : Surroundings ω) (a : Agent ω) : List (Happening ω) → List Counts
  | [] => []
  | happening :: rest =>
    let (next, served) := a.step setup w happening
    served.map (fun _ => counts setup next) ++ next.tallies setup w rest

def Setup.cacheNames (setup : Setup) : List String :=
  setup.temperature.toList.map (·.name) ++ setup.device.toList.map (·.name)

theorem Setup.cacheNames_nodup (s : Settings) (checks : List Health.Check) (hostname : String)
    (filter : Journal.Filter) (logLimit : Journal.Level) :
    (Setup.ofSettings s checks hostname filter logLimit).1.cacheNames.Nodup := by
  simp only [ofSettings]
  split
  · simp [cacheNames, temperatureName, deviceName]
  · simp [cacheNames]

/-- A request for the metrics is answered with a set that shows these counts, in a text that has a
line for each of them if the caches have different names. -/
def Told (setup : Setup) (x : Served) (c : Counts) : Prop :=
  document? x.request = some .metrics → c.Exact →
    ∃ set, x.response = inAnswerTo x.request (.text 200 contentType set.text) ∧
      CountsShown c set ∧ (setup.cacheNames.Nodup → CountsWritten c set.text)

/-- What an agent that begins at no requests tells of its counts. -/
structure CountersTold (setup : Setup) (h : List Served) (told : List Counts) : Prop where
  /-- The requests are counted from one, whatever they ask for. -/
  numbered : told.map (·.requests) = List.range' 1 h.length
  /-- Each cache that is configured is told of. -/
  configured : ∀ c ∈ told, c.caches.map Prod.fst = setup.cacheNames
  /-- Settings give the caches different names. -/
  apart : ∀ s checks hostname filter logLimit,
    setup = (Setup.ofSettings s checks hostname filter logLimit).1 → setup.cacheNames.Nodup
  /-- Between two requests no counter of a cache decreases. -/
  growing : told.Pairwise Counts.Grown
  /-- Every scrape shows the counts after its request. -/
  scrapes : List.Forall₂ (Told setup) h told

theorem counts_names (setup : Setup) (a : Agent ω) :
    (counts setup a).caches.map Prod.fst = setup.cacheNames := by
  simp [counts, Setup.cacheNames, Function.comp_def]

theorem serve_told (setup : Setup) (w : Surroundings ω) (a : Agent ω) (r : Request) :
    Told setup ⟨r, w.readings a.world, (a.serve setup w r).1⟩
      (counts setup (a.serve setup w r).2) := by
  intro asked small
  obtain ⟨s, answered, told⟩ := serve_scrape setup w a asked
  have names := told ▸ counts_names setup (a.serve setup w r).2
  rw [told] at small ⊢
  refine ⟨s.metrics.1, ?_, s.countsShown small, fun apart => s.countsWritten small (names ▸ apart)⟩
  rw [← shown_metrics]
  exact answered

/-- Each tally of a run is what some later state of the agent has counted. -/
theorem exists_onward_of_mem {happenings : List (Happening ω)} {c : Counts}
    (mem : c ∈ a.tallies setup w happenings) : ∃ n a', Onward n a a' ∧ c = counts setup a' := by
  induction happenings generalizing a with
  | nil => cases mem
  | cons happening rest ih =>
    have next := step_onward setup w a happening
    rcases List.mem_append.1 mem with now | later
    · obtain ⟨x, -, rfl⟩ := List.mem_map.1 now
      exact ⟨_, _, next, rfl⟩
    · obtain ⟨n, a', onward, rfl⟩ := ih later
      exact ⟨_, a', next.trans onward, rfl⟩

theorem tallies_grown {happenings : List (Happening ω)} {c : Counts}
    (mem : c ∈ a.tallies setup w happenings) : (counts setup a).Grown c := by
  obtain ⟨n, a', onward, rfl⟩ := exists_onward_of_mem mem
  exact onward.counts_grown setup

theorem tallies_names {happenings : List (Happening ω)} {c : Counts}
    (mem : c ∈ a.tallies setup w happenings) : c.caches.map Prod.fst = setup.cacheNames := by
  obtain ⟨n, a', -, rfl⟩ := exists_onward_of_mem mem
  exact counts_names setup a'

theorem tallies_requests (setup : Setup) (w : Surroundings ω) (a : Agent ω)
    (happenings : List (Happening ω)) :
    (a.tallies setup w happenings).map (·.requests) =
      List.range' (a.requests + 1) (a.run setup w happenings).2.length := by
  induction happenings generalizing a with
  | nil => rfl
  | cons happening rest ih =>
    cases happening with
    | request r =>
      have counted : (a.serve setup w r).2.requests = a.requests + 1 :=
        (serve_onward setup w r a).requests
      simp [tallies, run, step, ih, counts, counted, List.range'_succ]
    | pass time => exact ih _
    | turn world => exact ih _

theorem tallies_growing (setup : Setup) (w : Surroundings ω) (a : Agent ω)
    (happenings : List (Happening ω)) : (a.tallies setup w happenings).Pairwise Counts.Grown := by
  induction happenings generalizing a with
  | nil => exact .nil
  | cons happening rest ih =>
    cases happening with
    | request r => exact .cons (fun _ later => tallies_grown later) (ih _)
    | pass time => exact ih _
    | turn world => exact ih _

theorem run_told (setup : Setup) (w : Surroundings ω) (a : Agent ω)
    (happenings : List (Happening ω)) :
    List.Forall₂ (Told setup) (a.run setup w happenings).2 (a.tallies setup w happenings) := by
  induction happenings generalizing a with
  | nil => exact .nil
  | cons happening rest ih =>
    cases happening with
    | request r => exact .cons (serve_told setup w a r) (ih _)
    | pass time => exact ih _
    | turn world => exact ih _

/-- The counters that an agent exports only ever increase: whatever it is asked for, whatever time
passes and whatever becomes of the refreshes. -/
theorem run_countersTold (setup : Setup) (w : Surroundings ω) (capacity : Nat) (now : Instant)
    (world : ω) (happenings : List (Happening ω)) :
    CountersTold setup ((start capacity now world).run setup w happenings).2
      ((start capacity now world).tallies setup w happenings) where
  numbered := tallies_requests setup w _ happenings
  configured := fun _ mem => tallies_names mem
  apart := by
    rintro s checks hostname filter logLimit rfl
    exact Setup.cacheNames_nodup s checks hostname filter logLimit
  growing := tallies_growing setup w _ happenings
  scrapes := run_told setup w _ happenings

end CameraTelemetry.Agent
