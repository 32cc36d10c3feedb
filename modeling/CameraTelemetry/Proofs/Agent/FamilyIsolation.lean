import CameraTelemetry.Proofs.Agent.ScrapeText
import CameraTelemetry.Proofs.Exposition.Comparison
import CameraTelemetry.Proofs.Host.Isolation

/-!
# A failed family leaves the other metrics alone

Several families write to one metric, that of the sources. Where two snapshots differ in one
family, the metric sets made of them differ in that family's own metrics and in its sample of the
sources, and in nothing else.
-/
namespace CameraTelemetry.Agent

open Exposition (Exempt MetricSet Observation)
open Host Number

/-! ## Metric sets -/

def ownSource (f : Family) : Exempt :=
  fun name labels => name = Scrape.sourceMetric ∧ labels = [("source", f.name)]

/-- The part of a set that is not a family's own. -/
def outside (f : Family) (set : MetricSet) : MetricSet := set.under (· ∉ metricNames f)

/-- The sets differ at most in the metrics of a family and in the sample that tells whether it is
up. -/
def AlikeBut (f : Family) (set set' : MetricSet) : Prop :=
  (outside f set).Alike (ownSource f) (outside f set')

variable {f : Family}

theorem ofFamily_eq {s s' : Snapshot} (same : s.SameBut f s') {g : Family} (other : f ≠ g) :
    ofFamily s g = ofFamily s' g := by
  cases g with
  | uptime => simp only [ofFamily, same.uptime other]
  | memory => simp only [ofFamily, same.memory other]
  | load => simp only [ofFamily, same.load other]
  | cpu => simp only [ofFamily, same.cpu other]
  | network => simp only [ofFamily, same.network other]
  | filesystem => simp only [ofFamily, same.filesystem other]
  | processes => simp only [ofFamily, same.processes other]

/-- Outside of a family's own metrics, the host is observed alike. -/
theorem filter_ofSnapshot {s s' : Snapshot} (same : s.SameBut f s') :
    (ofSnapshot s).filter (fun o => decide (o.name ∉ metricNames f)) =
      (ofSnapshot s').filter fun o => decide (o.name ∉ metricNames f) := by
  have own (s : Snapshot) :
      (ofFamily s f).filter (fun o => decide (o.name ∉ metricNames f)) = [] := by
    simpa [List.filter_eq_nil_iff] using fun o mem => name_of_ofFamily mem
  rw [ofSnapshot, ofSnapshot, List.filter_flatMap, List.filter_flatMap]
  refine List.flatMap_congr fun g _ => ?_
  by_cases mine : f = g
  · rw [← mine, own, own]
  · rw [ofFamily_eq same mine]

theorem sourceObservation_alike (g : Family) {up up' : Bool} (same : f ≠ g → up = up') :
    (sourceObservation g.name up).Alike (ownSource f) (sourceObservation g.name up') := by
  refine ⟨rfl, rfl, rfl, rfl, ?_⟩
  by_cases mine : f = g
  · exact .inl ⟨rfl, by rw [mine]; rfl⟩
  · exact .inr (by rw [same mine])

/-- Of the sources only the one that differs is told differently. -/
theorem sources_alike {s s' : Snapshot} (same : s.SameBut f s') :
    List.Forall₂ (Observation.Alike (ownSource f))
      (s.sources.map fun (family, up) => sourceObservation family.name up)
      (s'.sources.map fun (family, up) => sourceObservation family.name up) := by
  refine .cons ?_ (.cons ?_ (.cons ?_ (.cons ?_ (.cons ?_ (.cons ?_ (.cons ?_ .nil))))))
  · exact sourceObservation_alike .uptime fun other => by rw [same.uptime other]
  · exact sourceObservation_alike .memory fun other => by rw [same.memory other]
  · exact sourceObservation_alike .load fun other => by rw [same.load other]
  · exact sourceObservation_alike .cpu fun other => by rw [same.cpu other]
  · exact sourceObservation_alike .network fun other => by rw [same.network other]
  · exact sourceObservation_alike .filesystem fun other => by rw [same.filesystem other]
  · exact sourceObservation_alike .processes fun other => by rw [same.processes other]

namespace Scrape

def withSnapshot (s : Scrape) (snapshot : Snapshot) : Scrape := { s with snapshot }

theorem others_alike (s : Scrape) {snapshot : Snapshot} (same : s.snapshot.SameBut f snapshot) :
    List.Forall₂ (Observation.Alike (ownSource f)) s.others (s.withSnapshot snapshot).others := by
  have equal (observations : List Observation) :
      List.Forall₂ (Observation.Alike (ownSource f)) observations observations :=
    List.forall₂_same.2 fun o _ => .refl o
  unfold others
  refine List.rel_append (List.rel_append (List.rel_append (List.rel_append (List.rel_append
    (List.rel_append (List.rel_append ?_ ?_) ?_) ?_) ?_) ?_) ?_) ?_
  case refine_3 => exact sources_alike same
  all_goals exact equal _

theorem metrics_alikeBut (s : Scrape) {snapshot : Snapshot}
    (same : s.snapshot.SameBut f snapshot) :
    AlikeBut f s.metrics.1 (s.withSnapshot snapshot).metrics.1 := by
  have kept (s : Scrape) :
      s.others.filter (fun o => decide (o.name ∉ metricNames f)) = s.others := by
    refine List.filter_eq_self.2 fun o mem => decide_eq_true ?_
    exact fun own => not_mem_otherNames own (name_of_others mem)
  rw [AlikeBut, outside, outside, metrics, metrics, MetricSet.under_addAll, MetricSet.under_addAll]
  refine MetricSet.Alike.addAll .nil ?_
  rw [observations_eq, observations_eq, List.filter_append, List.filter_append, kept, kept,
    filter_ofSnapshot same]
  refine List.rel_append ?_ (s.others_alike same)
  exact List.forall₂_same.2 fun o _ => .refl o

end Scrape

/-! ## Runs -/

/-- Two runs of a sampler differ in one family at one step. -/
structure Isolated (f : Family) (n : Nat) (polls polls' : List Poll) : Prop where
  /-- At every step all other families agree. -/
  others : List.Forall₂ (fun poll poll' => SameOutcome f poll.outcome poll'.outcome) polls polls'
  before : polls.take n = polls'.take n
  /-- Later polls agree entirely, unless it is the processor that differs. -/
  later : f ≠ .cpu → polls.drop (n + 1) = polls'.drop (n + 1)
  /-- The metrics of that step, whatever else is scraped with them. -/
  metrics : ∀ poll poll' snapshot snapshot', polls[n]? = some poll → polls'[n]? = some poll' →
    poll.outcome = .ok snapshot → poll'.outcome = .ok snapshot' → ∀ temperature device requests,
      AlikeBut f (Scrape.metrics ⟨snapshot, temperature, device, requests⟩).1
        (Scrape.metrics ⟨snapshot', temperature, device, requests⟩).1

/-- What one family answers at one step touches no other family, and every family that is down is
warned about once. -/
structure FamiliesIsolated (s : Sampler) : Prop where
  isolated : ∀ f earlier r r' later, r.SameBut f r' → r.payload? f = none → r'.payload? f = none →
    Isolated f earlier.length (s.polls (earlier ++ r :: later)) (s.polls (earlier ++ r' :: later))
  /-- A poll is carried out unless a family panics. -/
  completes : ∀ rs, List.Forall₂ (fun r poll =>
    (∃ snapshot, poll.outcome = .ok snapshot) ↔ r.panics = false) rs (s.polls rs)
  warned : ∀ rs, List.Forall₂ (fun r poll => ∀ snapshot, poll.outcome = .ok snapshot →
    Warned r poll.events snapshot) rs (s.polls rs)

theorem polls_familiesIsolated (s : Sampler) : FamiliesIsolated s := by
  constructor
  case completes => exact s.polls_completes
  case warned => exact s.polls_warned
  case isolated =>
    intro f earlier r r' later same calm calm'
    have alike : r.Alike f r' := ⟨same, calm.trans calm'.symm⟩
    have others : List.Forall₂ (fun poll poll' => SameOutcome f poll.outcome poll'.outcome)
        (s.polls (earlier ++ r :: later)) (s.polls (earlier ++ r' :: later)) :=
      Sampler.polls_alike (List.rel_append (List.forall₂_same.2 fun r _ => .refl f r)
        (.cons alike (List.forall₂_same.2 fun r _ => .refl f r))) fun _ => rfl
    constructor
    case others => exact others
    case before => simp [Sampler.polls_append, Sampler.polls_length]
    case later =>
      intro other
      rw [Sampler.polls_drop, Sampler.polls_drop, Sampler.sample_sampler_eq alike other]
    case metrics =>
      intro poll poll' snapshot snapshot' here here' completed completed' temperature device
        requests
      rw [Sampler.polls_getElem?] at here here'
      have outcome := (s.after earlier).sample_alike alike fun _ => rfl
      rw [Option.some.inj here, Option.some.inj here', completed, completed'] at outcome
      obtain ⟨same⟩ := outcome
      exact Scrape.metrics_alikeBut ⟨snapshot, temperature, device, requests⟩ same

end CameraTelemetry.Agent
