import CameraTelemetry.Agent.Scrape

/-!
# The names of the metrics

Every family of host counters has metrics of its own, which show nothing else. What a scrape
observes under one of their names is therefore what it observes of that family.
-/
namespace CameraTelemetry.Agent

open Exposition (Observation)
open Host

def metricNames : Family → List String
  | .uptime => ["camwatch_uptime_seconds"]
  | .memory => ["camwatch_memory_total_bytes", "camwatch_memory_available_bytes"]
  | .load => ["camwatch_load_average_1m", "camwatch_load_average_5m", "camwatch_load_average_15m"]
  | .cpu => ["camwatch_cpu_usage_percent"]
  | .network =>
    ["camwatch_network_rx_bytes_total", "camwatch_network_rx_packets_total",
      "camwatch_network_rx_errors_total", "camwatch_network_tx_bytes_total",
      "camwatch_network_tx_packets_total", "camwatch_network_tx_errors_total"]
  | .filesystem => ["camwatch_disk_total_bytes", "camwatch_disk_free_bytes"]
  | .processes => ["camwatch_process_count"]

def otherNames : List String :=
  ["camwatch_temperature_celsius", "camwatch_temperature_stale", "camwatch_device_info",
    "camwatch_source_up", "camwatch_remote_fetches_total", "camwatch_remote_fetch_failures_total",
    "camwatch_http_requests_total"]

theorem metricNames_disjoint {f g : Family} {name : String} (mine : name ∈ metricNames f)
    (yours : name ∈ metricNames g) : f = g := by
  have apart : f ≠ g → ∀ n ∈ metricNames f, n ∉ metricNames g := by
    cases f <;> cases g <;> decide
  exact Classical.byContradiction fun ne => apart ne name mine yours

theorem not_mem_otherNames {f : Family} {name : String} (mine : name ∈ metricNames f) :
    name ∉ otherNames := by
  have apart : ∀ n ∈ metricNames f, n ∉ otherNames := by
    cases f <;> decide
  exact apart name mine

theorem name_mem {names : List String} {observations : List Observation} {o : Observation}
    (mem : o ∈ observations) (known : observations.map (·.name) ⊆ names) : o.name ∈ names :=
  known (List.mem_map_of_mem mem)

theorem mem_ofResult {α : Type} {result : Except SourceFailure α} {observe : α → List Observation}
    {o : Observation} : o ∈ ofResult result observe ↔ ∃ a, result = .ok a ∧ o ∈ observe a := by
  cases result <;> simp [ofResult]

theorem name_of_ofFamily {s : Snapshot} {f : Family} {o : Observation} (mem : o ∈ ofFamily s f) :
    o.name ∈ metricNames f := by
  cases f with
  | cpu =>
    obtain ⟨x, -, rfl⟩ := List.mem_map.1 mem
    exact List.mem_singleton_self _
  | network =>
    obtain ⟨interfaces, -, listed⟩ := mem_ofResult.1 mem
    obtain ⟨i, -, mem⟩ := List.mem_flatMap.1 listed
    exact name_mem mem (List.Subset.refl _)
  | _ =>
    obtain ⟨a, -, mem⟩ := mem_ofResult.1 mem
    exact name_mem mem (List.Subset.refl _)

namespace Scrape

def others (s : Scrape) : List Observation :=
  (s.temperature.bind (·.found?)).toList.flatMap temperatureObservations
    ++ (s.device.bind (·.found?)).toList.map (deviceObservation ·.value)
    ++ s.snapshot.sources.map (fun (family, up) => sourceObservation family.name up)
    ++ feedSource "temperature" s.temperature
    ++ feedSource "device_info" s.device
    ++ feedFetches s.temperature
    ++ feedFetches s.device
    ++ [.counter "camwatch_http_requests_total" "HTTP requests served" [] (.ofNat s.requests)]

theorem observations_eq (s : Scrape) : s.observations = ofSnapshot s.snapshot ++ s.others := by
  simp only [observations, others, List.append_assoc]

/-- The parts of a scrape besides the host. -/
inductive Part
  | camera
  | sources
  | caches
  | requests
deriving DecidableEq, Repr

def Part.names : Part → List String
  | camera =>
    ["camwatch_temperature_celsius", "camwatch_temperature_stale", "camwatch_device_info"]
  | sources => ["camwatch_source_up"]
  | caches => ["camwatch_remote_fetches_total", "camwatch_remote_fetch_failures_total"]
  | requests => ["camwatch_http_requests_total"]

def ofPart (s : Scrape) : Part → List Observation
  | .camera =>
    (s.temperature.bind (·.found?)).toList.flatMap temperatureObservations
      ++ (s.device.bind (·.found?)).toList.map (deviceObservation ·.value)
  | .sources =>
    s.snapshot.sources.map (fun (family, up) => sourceObservation family.name up)
      ++ feedSource "temperature" s.temperature
      ++ feedSource "device_info" s.device
  | .caches => feedFetches s.temperature ++ feedFetches s.device
  | .requests =>
    [.counter "camwatch_http_requests_total" "HTTP requests served" [] (.ofNat s.requests)]

theorem others_eq (s : Scrape) : s.others =
    s.ofPart .camera ++ s.ofPart .sources ++ s.ofPart .caches ++ s.ofPart .requests := by
  simp only [others, ofPart, List.append_assoc]

theorem Part.names_disjoint {p q : Part} {name : String} (mine : name ∈ p.names)
    (yours : name ∈ q.names) : p = q := by
  have apart : p ≠ q → ∀ n ∈ p.names, n ∉ q.names := by
    cases p <;> cases q <;> decide
  exact Classical.byContradiction fun ne => apart ne name mine yours

theorem Part.names_subset (p : Part) : p.names ⊆ otherNames := by
  have known : ∀ n ∈ p.names, n ∈ otherNames := by
    cases p <;> decide
  exact fun n mem => known n mem

theorem name_of_feedSource {α : Type} {name : String} {feed : Option (Feed α)} {o : Observation}
    (mem : o ∈ feedSource name feed) : o.name ∈ Part.sources.names := by
  obtain ⟨f, -, rfl⟩ := List.mem_map.1 mem
  exact List.mem_singleton_self _

theorem name_of_feedFetches {α : Type} {feed : Option (Feed α)} {o : Observation}
    (mem : o ∈ feedFetches feed) : o.name ∈ Part.caches.names := by
  obtain ⟨f, -, mem⟩ := List.mem_flatMap.1 mem
  exact name_mem mem (List.Subset.refl _)

theorem name_of_ofPart {s : Scrape} {p : Part} {o : Observation} (mem : o ∈ s.ofPart p) :
    o.name ∈ p.names := by
  cases p with
  | camera =>
    rcases List.mem_append.1 mem with temperature | device
    · obtain ⟨l, -, mem⟩ := List.mem_flatMap.1 temperature
      exact List.mem_append_left [_] (name_mem mem (List.Subset.refl _))
    · obtain ⟨l, -, rfl⟩ := List.mem_map.1 device
      exact List.mem_append_right [_, _] (List.mem_singleton_self _)
  | sources =>
    simp only [ofPart, List.mem_append, or_assoc] at mem
    rcases mem with host | temperature | device
    · obtain ⟨source, -, rfl⟩ := List.mem_map.1 host
      exact List.mem_singleton_self _
    · exact name_of_feedSource temperature
    · exact name_of_feedSource device
  | caches =>
    rcases List.mem_append.1 mem with temperature | device
    · exact name_of_feedFetches temperature
    · exact name_of_feedFetches device
  | requests =>
    obtain rfl := List.mem_singleton.1 mem
    exact List.mem_singleton_self _

theorem name_of_others {s : Scrape} {o : Observation} (mem : o ∈ s.others) :
    o.name ∈ otherNames := by
  simp only [others_eq, List.mem_append, or_assoc] at mem
  rcases mem with mem | mem | mem | mem
  all_goals exact Part.names_subset _ (name_of_ofPart mem)

/-- Under a name of a family a scrape observes that family and nothing else. -/
theorem filter_observations (s : Scrape) {f : Family} {name : String} (own : name ∈ metricNames f) :
    s.observations.filter (fun o => o.name == name) =
      (ofFamily s.snapshot f).filter fun o => o.name == name := by
  have other : s.others.filter (fun o => o.name == name) = [] := by
    simp only [List.filter_eq_nil_iff, beq_iff_eq]
    rintro o mem rfl
    exact not_mem_otherNames own (name_of_others mem)
  have foreign (g : Family) (apart : f ≠ g) :
      (ofFamily s.snapshot g).filter (fun o => o.name == name) = [] := by
    simp only [List.filter_eq_nil_iff, beq_iff_eq]
    rintro o mem rfl
    exact apart (metricNames_disjoint own (name_of_ofFamily mem))
  rw [observations_eq, List.filter_append, other, List.append_nil, ofSnapshot]
  cases f <;> simp [shownFamilies, foreign]

theorem filter_part (s : Scrape) {p : Part} {name : String} (own : name ∈ p.names) :
    s.observations.filter (fun o => o.name == name) =
      (s.ofPart p).filter fun o => o.name == name := by
  have host : (ofSnapshot s.snapshot).filter (fun o => o.name == name) = [] := by
    simp only [List.filter_eq_nil_iff, beq_iff_eq]
    rintro o mem rfl
    obtain ⟨f, -, mem⟩ := List.mem_flatMap.1 mem
    exact not_mem_otherNames (name_of_ofFamily mem) (p.names_subset own)
  have foreign (q : Part) (apart : p ≠ q) :
      (s.ofPart q).filter (fun o => o.name == name) = [] := by
    simp only [List.filter_eq_nil_iff, beq_iff_eq]
    rintro o mem rfl
    exact apart (Part.names_disjoint own (name_of_ofPart mem))
  rw [observations_eq, List.filter_append, host, List.nil_append, others_eq]
  cases p <;> simp [foreign]

theorem filter_part_of_single (s : Scrape) {p : Part} {name : String} (single : p.names = [name]) :
    s.observations.filter (fun o => o.name == name) = s.ofPart p := by
  rw [s.filter_part (single ▸ List.mem_singleton_self _), List.filter_eq_self]
  intro o mem
  have own := name_of_ofPart mem
  rw [single, List.mem_singleton] at own
  exact beq_iff_eq.2 own

end Scrape

end CameraTelemetry.Agent
