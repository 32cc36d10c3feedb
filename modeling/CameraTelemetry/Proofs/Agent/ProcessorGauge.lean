import CameraTelemetry.Proofs.Agent.MetricNames
import CameraTelemetry.Proofs.Agent.Serving
import CameraTelemetry.Proofs.Exposition.Collection

/-!
# The gauge of the processor

The gauge of a scrape shows the usage since the latest poll, whichever document that was for. It is
the usage since the previous scrape only as long as nobody asks for the health document in between.
-/
namespace CameraTelemetry.Agent

open Cpu (Ticks Usage usageBetween)
open Exposition (MetricSet)
open Host Http

variable {ω : Type} {setup : Setup} {w : Surroundings ω} {a : Agent ω}

def usageGauge : String := "camwatch_cpu_usage_percent"

/-- The family that shows a usage. One that is unknown is not shown. -/
def usageFamily? (usage : Usage) : Option Exposition.Family :=
  usage.percent?.map fun share =>
    ⟨usageGauge, "CPU busy share since the previous scrape", .gauge, [⟨[], share⟩]⟩

theorem Scrape.get?_usageGauge (s : Scrape) :
    s.metrics.1.get? usageGauge = usageFamily? s.snapshot.cpu := by
  have own : usageGauge ∈ metricNames .cpu := List.mem_singleton_self _
  rw [metrics, MetricSet.get?_addAll, s.filter_observations own]
  cases known : s.snapshot.cpu.percent? with
  | none => simp [ofFamily, usageFamily?, known, MetricSet.empty, MetricSet.get?]
  | some share =>
    simp [ofFamily, usageFamily?, known, MetricSet.empty, MetricSet.get?, Exposition.grow,
      Exposition.Observation.gauge, usageGauge]

def usageNow (w : Surroundings ω) (a : Agent ω) : Usage :=
  if (w.readings a.world).panics then .unknown .sourceUnavailable
  else a.sampler.usage (w.readings a.world).cpu

/-- The usage is unknown where a family panics or the processor cannot be read. -/
theorem usageNow_of_unread
    (unread : (w.readings a.world).panics = true ∨
      ∀ ticks, (w.readings a.world).cpu ≠ .value ticks) :
    usageNow w a = .unknown .sourceUnavailable := by
  rcases unread with panics | bad
  · exact if_pos panics
  · have down : a.sampler.usage (w.readings a.world).cpu = .unknown .sourceUnavailable := by
      unfold Sampler.usage
      split
      case h_1 ticks good => exact absurd good (bad ticks)
      case h_2 => rfl
    rw [usageNow, down, ite_self]

/-- Without an earlier sample the usage is unknown, for whatever reason. -/
theorem usageNow_of_first (first : a.sampler.tracker.previous = none) :
    (usageNow w a).percent? = none := by
  unfold usageNow Sampler.usage
  split
  · rfl
  · split
    · simp [Cpu.Tracker.usage, first, Usage.percent?]
    · rfl

theorem usageNow_of_good {previous ticks : Ticks}
    (baseline : a.sampler.tracker.previous = some previous)
    (calm : (w.readings a.world).panics = false) (good : (w.readings a.world).cpu = .value ticks) :
    usageNow w a = usageBetween previous ticks := by
  rw [usageNow, if_neg (by simp [calm]), good, Sampler.usage, Cpu.Tracker.usage, baseline]

theorem poll_cpu : (a.poll setup w).1.cpu = usageNow w a := by
  have ends := Sampler.sample_completes a.sampler (w.readings a.world)
  rw [poll_snapshot, usageNow]
  split
  case h_1 snapshot completed =>
    rw [if_neg (by simp [ends.1 ⟨snapshot, completed⟩]), Sampler.sample_cpu completed]
  case h_2 payload broken =>
    have panics : (w.readings a.world).panics = true := by
      simpa [broken] using ends
    rw [if_pos panics]
    rfl

/-- A request for the metrics is answered with a set in which the gauge is that of the usage now. -/
theorem serve_usageGauge (setup : Setup) (w : Surroundings ω) (a : Agent ω) {r : Request}
    (get : r.method = "GET") (path : Route.ofPath? r.path = some .metrics) :
    ∃ set, (a.serve setup w r).1 = shown set ∧
      set.get? usageGauge = usageFamily? (usageNow w a) := by
  refine ⟨_, serve_metrics get path, ?_⟩
  rw [Scrape.get?_usageGauge, scrape_snapshot, poll_cpu]
  rfl

/-- The latest request of a run for which the processor was read with success, and what the read
brought. -/
def LatestPoll (x : Served) (ticks : Ticks) (h : List Served) : Prop :=
  ∃ before between, h = before ++ x :: between ∧ x.polls = true ∧ x.readings.cpu = .value ticks ∧
    ∀ y ∈ between, y.polls = true → ∀ ticks, y.readings.cpu ≠ .value ticks

theorem LatestPoll.lastTicks {x : Served} {ticks : Ticks} {h : List Served}
    (latest : LatestPoll x ticks h) : lastTicks? (polled h) = some ticks := by
  obtain ⟨before, between, rfl, polls, good, quiet⟩ := latest
  refine lastTicks?_eq_some_iff.2
    ⟨polled before, x.readings, polled between, by simp [polled, polls], good, fun r mem => ?_⟩
  obtain ⟨y, hy, rfl⟩ := List.mem_map.1 mem
  exact quiet y (List.mem_filter.1 hy).1 (List.mem_filter.1 hy).2

theorem lastTicks?_polled_of_never {h : List Served}
    (never : ∀ x ∈ h, x.polls = true → ∀ ticks, x.readings.cpu ≠ .value ticks) :
    lastTicks? (polled h) = none := by
  refine lastTicks?_eq_none_iff.2 fun r mem => ?_
  obtain ⟨y, hy, rfl⟩ := List.mem_map.1 mem
  exact never y (List.mem_filter.1 hy).1 (List.mem_filter.1 hy).2

/-- What the gauge of a scrape shows, after a run and with what the host answers at the moment. -/
structure GaugeTold (h : List Served) (r : Readings) (gauge : Option Exposition.Family) : Prop where
  /-- Nothing, if the processor cannot be read or another family ends the poll. -/
  unread : (r.panics = true ∨ ∀ ticks, r.cpu ≠ .value ticks) → gauge = none
  /-- Nothing, if the processor was never read before. -/
  first : (∀ x ∈ h, x.polls = true → ∀ ticks, x.readings.cpu ≠ .value ticks) → gauge = none
  /-- The usage since the latest poll, be it for the metrics or for the health document. -/
  since : ∀ x previous ticks, LatestPoll x previous h → r.panics = false → r.cpu = .value ticks →
    gauge = usageFamily? (usageBetween previous ticks)
  /-- The usage since the previous scrape, if the health document was not asked for since. -/
  alone : ∀ before x between previous ticks, h = before ++ x :: between →
    document? x.request = some .metrics → x.readings.cpu = .value previous →
    (∀ y ∈ between, document? y.request ≠ some .metrics ∧ document? y.request ≠ some .health) →
    r.panics = false → r.cpu = .value ticks → gauge = usageFamily? (usageBetween previous ticks)

/-- The agent shows this in answer to every request for the metrics. -/
structure ScrapesTold (setup : Setup) (w : Surroundings ω) (a : Agent ω) (h : List Served) :
    Prop where
  shows : ∀ r, r.method = "GET" → Route.ofPath? r.path = some .metrics →
    ∃ set, (a.serve setup w r).1 = shown set ∧
      GaugeTold h (w.readings a.world) (set.get? usageGauge)

theorem polls_iff {x : Served} :
    x.polls = true ↔ document? x.request = some .metrics ∨ document? x.request = some .health := by
  unfold Served.polls
  rcases document? x.request with _ | _ | _ | _ | _ <;> simp [Route.polls]

theorem run_gaugeTold (setup : Setup) (w : Surroundings ω) (capacity : Nat) (now : Instant)
    (world : ω) (happenings : List (Happening ω)) :
    GaugeTold ((start capacity now world).run setup w happenings).2
      (w.readings ((start capacity now world).run setup w happenings).1.world)
      (usageFamily? (usageNow w ((start capacity now world).run setup w happenings).1)) := by
  have sampler := run_sampler setup w (start capacity now world) happenings
  generalize ((start capacity now world).run setup w happenings).1 = a at sampler ⊢
  generalize ((start capacity now world).run setup w happenings).2 = h at sampler ⊢
  have baseline : a.sampler.tracker.previous = lastTicks? (polled h) := by
    simp [sampler, start, Sampler.after_previous, Sampler.empty, Cpu.Tracker.empty]
  constructor
  case unread =>
    intro unread
    rw [usageNow_of_unread unread]
    rfl
  case first =>
    intro never
    have unknown : (usageNow w a).percent? = none :=
      usageNow_of_first (baseline.trans (lastTicks?_polled_of_never never))
    rw [usageFamily?, unknown]
    rfl
  case since =>
    intro x previous ticks latest calm good
    rw [usageNow_of_good (baseline.trans latest.lastTicks) calm good]
  case alone =>
    intro before x between previous ticks parts scrape read quiet calm good
    have latest : LatestPoll x previous h := by
      refine ⟨before, between, parts, polls_iff.2 (.inl scrape), read, fun y hy polls => ?_⟩
      exact ((polls_iff.1 polls).elim (quiet y hy).1 (quiet y hy).2).elim
    rw [usageNow_of_good (baseline.trans latest.lastTicks) calm good]

/-- At every point of every run, the gauge is the usage since the latest poll of any kind. -/
theorem run_scrapesTold (setup : Setup) (w : Surroundings ω) (capacity : Nat) (now : Instant)
    (world : ω) (happenings : List (Happening ω)) :
    ScrapesTold setup w ((start capacity now world).run setup w happenings).1
      ((start capacity now world).run setup w happenings).2 := by
  constructor
  intro r get path
  obtain ⟨set, response, gauge⟩ := serve_usageGauge setup w _ get path
  exact ⟨set, response, gauge ▸ run_gaugeTold setup w capacity now world happenings⟩

/-- Of two scrapes between which a fifth of the ticks were busy the second one shows so, if it was
alone. A request for the health document in between takes part of that usage away, or all of it. -/
theorem gauge_misleads :
    let w : Surroundings Ticks :=
      { readings := fun ticks =>
          ⟨.failed (.malformed .uptime ""), .failed (.malformed .memory ""),
            .failed (.malformed .load ""), .value ticks, .failed (.malformed .network ""),
            .failed (.malformed .filesystem ""), .failed (.malformed .processes "")⟩
        reachable := fun _ _ => false
        temperature := ⟨fun ticks => (⟨⟨0⟩, .failed (.transport "down"), []⟩, ticks), none⟩
        device := ⟨fun ticks => (⟨⟨0⟩, .failed (.transport "down"), []⟩, ticks), none⟩
        timestamp := fun _ => "" }
    let setup : Setup := ⟨"camwatch", "cam-1", [], [], none, none, .ofSetting none, .info⟩
    let scrape : Request := ⟨"GET", "/metrics"⟩
    let check : Request := ⟨"GET", "/health"⟩
    let first : Ticks := ⟨1000, 0, 500, 8000, 0, 0, 0, 0⟩
    let busy : Ticks := ⟨1150, 0, 550, 8000, 0, 0, 0, 0⟩
    let last : Ticks := ⟨1150, 0, 550, 8800, 0, 0, 0, 0⟩
    let after (happenings : List (Happening Ticks)) : Agent Ticks :=
      ((start 100 0 first).run setup w (.request scrape :: happenings)).1
    let shows (a : Agent Ticks) (gauge : Option Exposition.Family) : Prop :=
      ∃ set, (a.serve setup w scrape).1 = shown set ∧ set.get? usageGauge = gauge
    usageBetween first last = .percent 20 ∧ usageFamily? (.percent 20) ≠ usageFamily? (.percent 0) ∧
    shows (after [.turn last]) (usageFamily? (.percent 20)) ∧
    shows (after [.turn busy, .request check, .turn last]) (usageFamily? (.percent 0)) ∧
    shows (after [.turn last, .request check, .turn last]) none := by
  intro w setup scrape check first busy last after shows
  have path : Route.ofPath? scrape.path = some .metrics := by decide +kernel
  have scraped : (document? scrape).any Route.polls = true := by decide +kernel
  have checked : (document? check).any Route.polls = true := by decide +kernel
  have told {happenings : List (Happening Ticks)} {x : Served} {previous : Ticks}
      (latest : LatestPoll x previous
        ((start 100 0 first).run setup w (.request scrape :: happenings)).2)
      (world : (after happenings).world = last) :
      shows (after happenings) (usageFamily? (usageBetween previous last)) := by
    obtain ⟨set, response, gauge⟩ := serve_usageGauge setup w (after happenings) rfl path
    have calm := congrArg (fun ticks => (w.readings ticks).panics) world
    have good := congrArg (fun ticks => (w.readings ticks).cpu) world
    have point := run_gaugeTold setup w 100 0 first (.request scrape :: happenings)
    exact ⟨set, response, gauge.trans (point.since x previous last latest calm good)⟩
  have alone : shows (after [.turn last]) (usageFamily? (usageBetween first last)) :=
    told ⟨[], [], rfl, scraped, rfl, by simp⟩ rfl
  have disturbed (seen : Ticks) : shows (after [.turn seen, .request check, .turn last])
      (usageFamily? (usageBetween seen last)) :=
    told ⟨[_], [], rfl, checked, rfl, by simp⟩ rfl
  have whole : usageBetween first last = .percent 20 := by decide +kernel
  have rest : usageBetween busy last = .percent 0 := by decide +kernel
  have still : usageFamily? (usageBetween last last) = none := by decide +kernel
  refine ⟨whole, by decide +kernel, whole ▸ alone, rest ▸ disturbed busy, ?_⟩
  exact still ▸ disturbed last

end CameraTelemetry.Agent
