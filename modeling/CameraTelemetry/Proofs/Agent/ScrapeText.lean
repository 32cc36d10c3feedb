import CameraTelemetry.Proofs.Agent.MetricNames
import CameraTelemetry.Proofs.Agent.Serving
import CameraTelemetry.Proofs.Exposition.Rendering

/-!
# The metrics are always answered

Whatever a scrape gathers, each of its observations is presented as in a scrape in which nothing is
missing, so that the set has a text. Where a family of the host panics the text still comes, and
says of every family that it is down.
-/
namespace CameraTelemetry.Agent

open Exposition
open Host (Snapshot)
open Http (Request)
open Number (Binary64)

/-! ## How a scrape is presented -/

@[simp] theorem presentation_gauge (name help : String) (labels : Labels) (x : Binary64) :
    (Observation.gauge name help labels x).presentation =
      ⟨name, help, .gauge, labels.map Prod.fst⟩ := rfl

@[simp] theorem presentation_counter (name help : String) (labels : Labels) (n : UInt64) :
    (Observation.counter name help labels n).presentation =
      ⟨name, help, .counter, labels.map Prod.fst⟩ := rfl

/-- A scrape in which nothing is missing. -/
def fullScrape : Scrape :=
  { snapshot :=
      ⟨.ok .nan, .ok ⟨0, 0⟩, .ok ⟨.nan, .nan, .nan⟩, .percent .nan, .ok [⟨"", 0, 0, 0, 0, 0, 0⟩],
        .ok ⟨"", 0, 0⟩, .ok 0⟩
    temperature := some ⟨"", .ok ⟨.nan, false, ⟨0⟩⟩, ⟨0, 0, 0⟩⟩
    device := some ⟨"", .ok ⟨⟨none, none, none, none, none⟩, false, ⟨0⟩⟩, ⟨0, 0, 0⟩⟩
    requests := 0 }

instance (p : Presentation) : Decidable (p.check = .ok ()) :=
  decidable_of_iff (p.check.isOk = true) (by cases p.check <;> simp [Except.isOk, Except.toBool])

theorem fullScrape_valid : ∀ o ∈ fullScrape.observations, o.presentation.check = .ok () := by
  decide +kernel

theorem fullScrape_agreeing : Agreeing fullScrape.observations := by
  have closed : ∀ p ∈ fullScrape.observations.map (·.presentation),
      ∀ q ∈ fullScrape.observations.map (·.presentation), p.name = q.name → p = q := by
    decide +kernel
  exact fun o mem o' mem' =>
    closed _ (List.mem_map_of_mem mem) _ (List.mem_map_of_mem mem')

/-- Observations that differ from others in their values only are presented as these are. -/
theorem alike {observations known : List Observation} {o : Observation} (mem : o ∈ observations)
    (same : observations.map (·.presentation) = known.map (·.presentation)) :
    ∃ o' ∈ known, o'.presentation = o.presentation :=
  List.mem_map.1 (same ▸ List.mem_map_of_mem mem)

theorem alike_ofFamily {s : Snapshot} {f : Family} {o : Observation} (mem : o ∈ ofFamily s f) :
    ∃ o' ∈ ofFamily fullScrape.snapshot f, o'.presentation = o.presentation := by
  cases f with
  | cpu =>
    obtain ⟨x, -, rfl⟩ := List.mem_map.1 mem
    exact ⟨_, List.mem_singleton_self _, by simp⟩
  | network =>
    obtain ⟨interfaces, -, listed⟩ := mem_ofResult.1 mem
    obtain ⟨i, -, mem⟩ := List.mem_flatMap.1 listed
    exact alike mem (by simp [interfaceObservations, ofFamily, fullScrape, ofResult])
  | memory =>
    obtain ⟨m, -, mem⟩ := mem_ofResult.1 mem
    exact alike mem (by simp [memoryObservations, ofFamily, fullScrape, ofResult])
  | load =>
    obtain ⟨l, -, mem⟩ := mem_ofResult.1 mem
    exact alike mem (by simp [loadObservations, ofFamily, fullScrape, ofResult])
  | filesystem =>
    obtain ⟨x, -, mem⟩ := mem_ofResult.1 mem
    exact alike mem (by simp [filesystemObservations, ofFamily, fullScrape, ofResult])
  | _ =>
    obtain ⟨x, -, mem⟩ := mem_ofResult.1 mem
    exact alike mem (by simp [ofFamily, fullScrape, ofResult])

namespace Scrape

theorem alike_source (name : String) (up : Bool) :
    ∃ o' ∈ fullScrape.others,
      o'.presentation = (sourceObservation name up).presentation := by
  refine ⟨sourceObservation "temperature" true, ?_, by simp [sourceObservation]⟩
  simp [others, fullScrape, feedSource, Feed.found?, Except.toOption]

theorem alike_feedSource {α : Type} {name : String} {feed : Option (Feed α)} {o : Observation}
    (mem : o ∈ feedSource name feed) :
    ∃ o' ∈ fullScrape.others, o'.presentation = o.presentation := by
  obtain ⟨f, -, rfl⟩ := List.mem_map.1 mem
  exact alike_source ..

theorem alike_feedFetches {α : Type} {feed : Option (Feed α)} {o : Observation}
    (mem : o ∈ feedFetches feed) : ∃ o' ∈ fullScrape.others, o'.presentation = o.presentation := by
  obtain ⟨f, -, mem⟩ := List.mem_flatMap.1 mem
  have part : feedFetches fullScrape.temperature ⊆ fullScrape.others := by
    intro o' mem'
    simp [others, mem']
  obtain ⟨o', mem', same⟩ := alike mem
    (show _ = (feedFetches fullScrape.temperature).map (·.presentation) by
      simp [feedFetches, fetchObservations, fullScrape])
  exact ⟨o', part mem', same⟩

theorem alike_others {s : Scrape} {o : Observation} (mem : o ∈ s.others) :
    ∃ o' ∈ fullScrape.others, o'.presentation = o.presentation := by
  simp only [others, List.mem_append, or_assoc] at mem
  rcases mem with mem | mem | mem | mem | mem | mem | mem | mem
  · obtain ⟨l, -, mem⟩ := List.mem_flatMap.1 mem
    obtain ⟨o', mem', same⟩ := alike mem
      (show _ = (temperatureObservations ⟨.nan, false, ⟨0⟩⟩).map (·.presentation) by
        simp [temperatureObservations])
    refine ⟨o', ?_, same⟩
    simp [others, fullScrape, Feed.found?, Except.toOption, mem']
  · obtain ⟨l, -, rfl⟩ := List.mem_map.1 mem
    refine ⟨deviceObservation ⟨none, none, none, none, none⟩, ?_, by simp [deviceObservation]⟩
    simp [others, fullScrape, Feed.found?, Except.toOption]
  · obtain ⟨source, -, rfl⟩ := List.mem_map.1 mem
    exact alike_source ..
  · exact alike_feedSource mem
  · exact alike_feedSource mem
  · exact alike_feedFetches mem
  · exact alike_feedFetches mem
  · obtain rfl := List.mem_singleton.1 mem
    exact ⟨.counter "camwatch_http_requests_total" "HTTP requests served" [] (.ofNat 0),
      by simp [others, fullScrape], by simp⟩

/-- Every observation is presented as one of the scrape in which nothing is missing. -/
theorem alike_observations {s : Scrape} {o : Observation} (mem : o ∈ s.observations) :
    ∃ o' ∈ fullScrape.observations, o'.presentation = o.presentation := by
  rw [observations_eq, List.mem_append] at mem
  rcases mem with host | other
  · obtain ⟨f, shown, mem⟩ := List.mem_flatMap.1 host
    obtain ⟨o', mem', same⟩ := alike_ofFamily mem
    refine ⟨o', ?_, same⟩
    rw [observations_eq]
    exact List.mem_append_left _ (List.mem_flatMap.2 ⟨f, shown, mem'⟩)
  · obtain ⟨o', mem', same⟩ := alike_others other
    refine ⟨o', ?_, same⟩
    rw [observations_eq]
    exact List.mem_append_right _ mem'

theorem agreeing (s : Scrape) : Agreeing s.observations := by
  intro o mem p mem' named
  obtain ⟨o₁, known, same⟩ := alike_observations mem
  obtain ⟨p₁, known', same'⟩ := alike_observations mem'
  have names : o₁.name = p₁.name := by
    calc o₁.name = o.name := congrArg Presentation.name same
      _ = p.name := named
      _ = p₁.name := (congrArg Presentation.name same').symm
  rw [← same, ← same', fullScrape_agreeing o₁ known p₁ known' names]

theorem valid (s : Scrape) : ∀ o ∈ s.observations, o.presentation.check = .ok () := by
  intro o mem
  obtain ⟨o', known, same⟩ := alike_observations mem
  rw [← same, fullScrape_valid o' known]

/-- The metric set of a scrape meets every precondition of its registration. -/
theorem registrable (s : Scrape) : Registrable s.metrics.1 :=
  registrable_addAll s.agreeing s.valid

/-- No observation is dropped on its way into the set. -/
theorem metrics_silent (s : Scrape) : s.metrics.2 = [] :=
  MetricSet.madeOf_empty.addAll_silent s.agreeing

/-! ## The sources -/

def sourcesUp (s : Scrape) : List (String × Bool) :=
  s.snapshot.sources.map (fun (family, up) => (family.name, up))
    ++ s.temperature.toList.map (fun f => ("temperature", f.found?.isSome))
    ++ s.device.toList.map (fun f => ("device_info", f.found?.isSome))

def sourceMetric : String := "camwatch_source_up"

theorem filter_sources (s : Scrape) :
    s.observations.filter (fun o => o.name == sourceMetric) =
      s.sourcesUp.map fun (source, up) => sourceObservation source up := by
  refine (s.filter_part_of_single (p := .sources) rfl).trans ?_
  simp [ofPart, sourcesUp, feedSource, Function.comp_def]

def sourceRow (source : String) (up : Bool) : Row := ⟨[("source", source)], 0, flag up⟩

def sourceNames : List String :=
  ["uptime", "memory", "load", "cpu", "network", "filesystem", "processes", "temperature",
    "device_info"]

theorem sourcesUp_sublist (s : Scrape) : (s.sourcesUp.map Prod.fst).Sublist sourceNames := by
  rcases s with ⟨snapshot, temperature, device, requests⟩
  cases temperature <;> cases device <;>
    simp only [sourcesUp, Snapshot.sources, List.map_append, List.map_cons, List.map_nil,
      Option.toList_none, Option.toList_some] <;> decide

/-- The metric of the sources has a sample of each source, with what the scrape found of it. -/
theorem sources_family (s : Scrape) :
    s.metrics.1.get? sourceMetric = some ⟨sourceMetric,
      "1 when the source produced a value on this scrape", .gauge,
      s.sourcesUp.map fun (source, up) => ⟨[("source", source)], flag up⟩⟩ := by
  obtain ⟨first, rest, split⟩ : ∃ first rest, s.sourcesUp = first :: rest := ⟨_, _, rfl⟩
  have gauges : ∀ o ∈ rest.map fun (source, up) => sourceObservation source up,
      o.kind = (sourceObservation first.1 first.2).kind := by
    simp only [List.forall_mem_map]
    exact fun _ _ => rfl
  calc s.metrics.1.get? sourceMetric
    _ = (s.sourcesUp.map fun (source, up) => sourceObservation source up).foldl grow none := by
      rw [← filter_sources]
      exact MetricSet.get?_addAll ..
    _ = _ := by
      rw [split, List.map_cons, foldl_grow_eq gauges]
      simp [sourceObservation, Observation.gauge, Observation.sample, sourceMetric,
        Function.comp_def]

theorem sources_rows (s : Scrape) : ∃ f ∈ s.metrics.1.families, f.name = sourceMetric ∧
    f.rows = s.sourcesUp.map fun (source, up) => sourceRow source up := by
  have mem := List.mem_of_find?_eq_some s.sources_family
  refine ⟨_, mem, rfl, ?_⟩
  rw [Family.rows_eq_of_distinct rfl (s.registrable.accepts _ mem)]
  · simp [sourceRow, Function.comp_def]
  · have keys : s.sourcesUp.map Prod.fst = s.sourcesUp.map fun (source, _) =>
        sampleKey [("source", source)] := by
      simp [sampleKey]
    have distinct : sourceNames.Nodup := by decide
    simpa [Function.comp_def] using keys ▸ distinct.sublist s.sourcesUp_sublist

def sourceLine (source : String) (up : Bool) : String :=
  sourceMetric ++ "\x7bsource=\"" ++ source ++ "\"\x7d " ++ (if up then "1" else "0") ++ "\n"

theorem line_sourceRow {source : String} (plain : escapeValue source = source) (up : Bool) :
    Row.line sourceMetric { sourceRow source up with
      labels := sortLabels (sourceRow source up).labels } = sourceLine source up := by
  have value : (flag up).plain = if up then "1" else "0" := by
    cases up <;> decide +kernel
  have opening : "\x7b" ++ "source" ++ "=\"" = "\x7bsource=\"" := by decide
  simp [Row.line, sourceRow, sortLabels, labelsText, plain, value, sourceLine, String.append_assoc]
  rw [← opening, String.append_assoc, String.append_assoc]

theorem sourcesUp_plain {s : Scrape} {source : String} {up : Bool}
    (mem : (source, up) ∈ s.sourcesUp) : escapeValue source = source := by
  -- As a check, since a decision about all characters would go through all of them.
  have plain : sourceNames.all (fun name =>
      name.toList.all fun c => c != '\\' && c != '\n' && c != '"') = true := by
    decide +kernel
  have listed := s.sourcesUp_sublist.subset (List.mem_map_of_mem (f := Prod.fst) mem)
  refine escapeValue_eq_self fun c part => ?_
  simpa [and_assoc] using List.all_eq_true.1 (List.all_eq_true.1 plain source listed) c part

theorem shows_source {s : Scrape} {source : String} {up : Bool} (mem : (source, up) ∈ s.sourcesUp) :
    Shows s.metrics.1.text (sourceLine source up) := by
  obtain ⟨f, listed, named, rows⟩ := s.sources_rows
  have row : sourceRow source up ∈ f.rows := rows ▸ List.mem_map.2 ⟨_, mem, rfl⟩
  have line := (shows_family listed).trans (shows_row row)
  rwa [named, line_sourceRow (sourcesUp_plain mem)] at line

end Scrape

/-! ## The service -/

variable {ω : Type} {setup : Setup} {w : Surroundings ω} {a : Agent ω}

/-- After a poll that a panic ended every family of the host is down. -/
theorem sources_of_panic (panics : (w.readings a.world).panics = true) (f : Family) :
    (f, false) ∈ (a.poll setup w).1.sources := by
  have ended : ∀ snapshot, (a.sampler.sample (w.readings a.world)).outcome ≠ .ok snapshot := by
    intro snapshot completed
    have survived := (Host.Sampler.sample_completes ..).1 ⟨snapshot, completed⟩
    rw [panics] at survived
    cases survived
  rw [poll_snapshot]
  split
  case h_1 snapshot completed => exact absurd completed (ended snapshot)
  case h_2 payload _ =>
    cases f <;> simp [Snapshot.unavailable, Snapshot.sources, Except.isOk, Except.toBool]

theorem shown_metrics (s : Scrape) :
    shown s.metrics.1 = .text 200 contentType s.metrics.1.text := by
  rw [shown, s.registrable.render_eq]

theorem serve_metrics_status (setup : Setup) (w : Surroundings ω) (a : Agent ω) {r : Request}
    (path : Route.ofPath? r.path = some .metrics) :
    (a.serve setup w r).1.status = 200 ∨ (a.serve setup w r).1.status = 405 := by
  have got (a : Agent ω) : (a.getMetrics setup w).1.status = 200 := by
    rw [getMetrics_response, shown_metrics]
    rfl
  simp only [serve, respond, path, Agent.get]
  split
  case isTrue get => exact .inl (got _)
  case isFalse other =>
    split
    case isTrue head =>
      simp only [Http.Response.withoutBody, got, true_or]
    case isFalse refused => exact .inr rfl

/-- The metrics are always there: every scrape makes a set with a text, whatever it gathered, and in
whatever state an agent is, whoever gets the metrics is given such a text. If a family of the host
panics while it is read the text says of all of them that they are down. Nobody who asks for the
metrics is told of an error of the server. -/
structure AlwaysAnswered (setup : Setup) (w : Surroundings ω) : Prop where
  rendered : ∀ s : Scrape, Registrable s.metrics.1 ∧ s.metrics.1.render = (.ok s.metrics.1.text, [])
  complete : ∀ s : Scrape, s.metrics.2 = []
  answered : ∀ (a : Agent ω) (r : Request), r.method = "GET" →
    Route.ofPath? r.path = some .metrics →
      ∃ text, (a.serve setup w r).1 = .text 200 contentType text ∧
        ((w.readings a.world).panics = true →
          ∀ f : Family, Shows text (Scrape.sourceLine f.name false))
  never : ∀ (a : Agent ω) (r : Request), Route.ofPath? r.path = some .metrics →
    (a.serve setup w r).1.status ≠ 500

theorem metrics_alwaysAnswered (setup : Setup) (w : Surroundings ω) : AlwaysAnswered setup w where
  rendered := fun s => ⟨s.registrable, s.registrable.render_eq⟩
  complete := Scrape.metrics_silent
  answered := by
    intro a r get path
    let scrape := ((noticed setup w r a).scrape setup w).1
    refine ⟨scrape.metrics.1.text, (serve_metrics get path).trans (shown_metrics scrape), ?_⟩
    intro panics f
    have down : (f, false) ∈ scrape.snapshot.sources :=
      sources_of_panic (a := noticed setup w r a) panics f
    refine Scrape.shows_source ?_
    simp only [Scrape.sourcesUp, List.append_assoc]
    exact List.mem_append_left _ (List.mem_map.2 ⟨_, down, rfl⟩)
  never := by
    intro a r path failed
    have status := serve_metrics_status setup w a path
    omega

end CameraTelemetry.Agent
