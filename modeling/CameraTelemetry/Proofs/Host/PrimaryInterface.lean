import CameraTelemetry.Agent.HealthDocument

/-!
# The interface under which a host is known

Interfaces are ranked by the bytes that they have received and, where these are as many, by their
names. Of any two interfaces one ranks first or they agree in both, so that a list has one name at
its top, whatever its order. The loopback interface is left out, and only a list of nothing else
has no top.
-/
namespace CameraTelemetry.Host

open Agent

section

variable {i j k : Interface} {interfaces permuted : List Interface}

/-! ## The ranking -/

/-- The interface has received more bytes than the other, or as many and its name is not behind. -/
def Interface.RanksFirst (i j : Interface) : Prop :=
  j.rxBytes < i.rxBytes ∨ i.rxBytes = j.rxBytes ∧ i.name ≤ j.name

theorem Interface.RanksFirst.refl (i : Interface) : i.RanksFirst i :=
  .inr ⟨rfl, String.le_refl i.name⟩

theorem Interface.RanksFirst.trans (first : i.RanksFirst j) (second : j.RanksFirst k) :
    i.RanksFirst k := by
  rcases first with more | ⟨level, before⟩
  · rcases second with more' | ⟨level', -⟩
    · exact .inl (UInt64.lt_trans more' more)
    · exact .inl (level' ▸ more)
  · rcases second with more' | ⟨level', before'⟩
    · exact .inl (level ▸ more')
    · exact .inr ⟨level.trans level', String.le_trans before before'⟩

/-- Two interfaces that both rank first agree in bytes and name. -/
theorem Interface.RanksFirst.agree (first : i.RanksFirst j) (second : j.RanksFirst i) :
    i.rxBytes = j.rxBytes ∧ i.name = j.name := by
  rcases first with more | ⟨level, before⟩
  · rcases second with more' | ⟨level', -⟩
    · exact absurd more (UInt64.lt_asymm more')
    · exact absurd (level' ▸ more) (UInt64.lt_irrefl _)
  · rcases second with more' | ⟨-, before'⟩
    · exact absurd (level ▸ more') (UInt64.lt_irrefl _)
    · exact ⟨level, String.le_antisymm before before'⟩

namespace Snapshot

/-- Of two interfaces the one is taken that ranks first. -/
theorem busier_cases (i j : Interface) :
    busier i j = i ∧ i.RanksFirst j ∨ busier i j = j ∧ j.RanksFirst i := by
  unfold busier
  split
  case isTrue more => exact .inl ⟨rfl, .inl more⟩
  case isFalse notMore =>
    split
    case isTrue less => exact .inr ⟨rfl, .inl less⟩
    case isFalse notLess =>
      have level : i.rxBytes = j.rxBytes :=
        UInt64.le_antisymm (UInt64.not_lt.1 notMore) (UInt64.not_lt.1 notLess)
      split
      case isTrue before =>
        exact .inl ⟨rfl, .inr ⟨level, String.not_lt.1 (String.lt_asymm before)⟩⟩
      case isFalse notBefore => exact .inr ⟨rfl, .inr ⟨level.symm, String.not_lt.1 notBefore⟩⟩

/-- The interface of a list that ranks first. -/
structure IsTop (interfaces : List Interface) (i : Interface) : Prop where
  mem : i ∈ interfaces
  ranks : ∀ j ∈ interfaces, i.RanksFirst j

theorem isTop_foldl (first : Interface) (rest : List Interface) :
    IsTop (first :: rest) (rest.foldl busier first) := by
  induction rest generalizing first with
  | nil => exact ⟨List.mem_cons_self, by simpa using Interface.RanksFirst.refl first⟩
  | cons next rest ih =>
    rw [List.foldl_cons]
    obtain ⟨mem, ranks⟩ := ih (busier first next)
    have top := ranks _ List.mem_cons_self
    have later : ∀ j ∈ rest, (rest.foldl busier (busier first next)).RanksFirst j :=
      fun j among => ranks j (List.mem_cons_of_mem _ among)
    -- Whichever of the first two is taken, it ranks before the other.
    rcases busier_cases first next with ⟨taken, beats⟩ | ⟨taken, beats⟩
    · rw [taken] at mem top later ⊢
      refine ⟨?_, List.forall_mem_cons.2 ⟨top, List.forall_mem_cons.2 ⟨top.trans beats, later⟩⟩⟩
      rw [List.mem_cons] at mem ⊢
      exact mem.imp_right (List.mem_cons_of_mem _)
    · rw [taken] at mem top later ⊢
      exact ⟨List.mem_cons_of_mem _ mem,
        List.forall_mem_cons.2 ⟨top.trans beats, List.forall_mem_cons.2 ⟨top, later⟩⟩⟩

/-! ## The choice -/

/-- The interface is on the list and not loopback, none of the others has received more bytes, and
of those with as many it has the least name. -/
structure IsPrimary (interfaces : List Interface) (i : Interface) : Prop where
  mem : i ∈ interfaces
  external : i.name ≠ "lo"
  busiest : ∀ j ∈ interfaces, j.name ≠ "lo" → j.rxBytes ≤ i.rxBytes
  least : ∀ j ∈ interfaces, j.name ≠ "lo" → j.rxBytes = i.rxBytes → i.name ≤ j.name

theorem mem_external_iff :
    i ∈ interfaces.filter (!·.isLoopback) ↔ i ∈ interfaces ∧ i.name ≠ "lo" := by
  simp [Interface.isLoopback]

theorem IsTop.isPrimary (top : IsTop (interfaces.filter (!·.isLoopback)) i) :
    IsPrimary interfaces i where
  mem := (mem_external_iff.1 top.mem).1
  external := (mem_external_iff.1 top.mem).2
  busiest := fun j among external => by
    rcases top.ranks j (mem_external_iff.2 ⟨among, external⟩) with more | ⟨level, -⟩
    · exact UInt64.le_of_lt more
    · exact UInt64.le_of_eq level.symm
  least := fun j among external level => by
    rcases top.ranks j (mem_external_iff.2 ⟨among, external⟩) with more | ⟨-, before⟩
    · exact absurd (level ▸ more) (UInt64.lt_irrefl _)
    · exact before

theorem busiest?_cases (interfaces : List Interface) :
    busiest? interfaces = none ∧ (∀ i ∈ interfaces, i.name = "lo") ∨
      ∃ i, busiest? interfaces = some i ∧ IsPrimary interfaces i := by
  cases external : interfaces.filter (!·.isLoopback) with
  | nil =>
    refine .inl
      ⟨by simp [busiest?, external], fun i mem => Decidable.byContradiction fun other => ?_⟩
    have among := mem_external_iff.2 ⟨mem, other⟩
    rw [external] at among
    cases among
  | cons first rest =>
    refine .inr ⟨rest.foldl busier first, by simp [busiest?, external], IsTop.isPrimary ?_⟩
    rw [external]
    exact isTop_foldl first rest

theorem IsPrimary.ranksFirst (primary : IsPrimary interfaces i) (mem : j ∈ interfaces)
    (external : j.name ≠ "lo") : i.RanksFirst j := by
  have le := primary.busiest j mem external
  by_cases level : j.rxBytes = i.rxBytes
  · exact .inr ⟨level.symm, primary.least j mem external level⟩
  · exact .inl (UInt64.lt_of_le_of_ne le level)

/-- Two orders of a list have primary interfaces of one name. -/
theorem IsPrimary.name_eq (primary : IsPrimary interfaces i) (other : IsPrimary permuted j)
    (order : interfaces.Perm permuted) : i.name = j.name :=
  ((primary.ranksFirst (order.mem_iff.2 other.mem) other.external).agree
    (other.ranksFirst (order.mem_iff.1 primary.mem) primary.external)).2

/-- Two orders of a list lead to the same name, or both to none. -/
theorem busiest?_perm (order : interfaces.Perm permuted) :
    (busiest? interfaces).map (·.name) = (busiest? permuted).map (·.name) := by
  rcases busiest?_cases interfaces with ⟨none, loopback⟩ | ⟨i, found, primary⟩
  · rcases busiest?_cases permuted with ⟨none', -⟩ | ⟨j, -, primary'⟩
    · rw [none, none']
    · exact absurd (loopback j (order.mem_iff.2 primary'.mem)) primary'.external
  · rcases busiest?_cases permuted with ⟨-, loopback⟩ | ⟨j, found', primary'⟩
    · exact absurd (loopback i (order.mem_iff.1 primary.mem)) primary.external
    · rw [found, found', Option.map_some, Option.map_some, primary.name_eq primary' order]

/-- What the primary interface of a snapshot is. -/
structure PrimaryTold (s : Snapshot) : Prop where
  nothing : s.primaryInterface? = none ↔
    (∃ failure, s.network = .error failure) ∨
      ∃ interfaces, s.network = .ok interfaces ∧ ∀ i ∈ interfaces, i.name = "lo"
  chosen : ∀ i, s.primaryInterface? = some i →
    ∃ interfaces, s.network = .ok interfaces ∧ IsPrimary interfaces i
  /-- Health documents about snapshots that list the same interfaces show the same name. -/
  unordered : ∀ (t : Snapshot) (interfaces permuted : List Interface),
    s.network = .ok interfaces → t.network = .ok permuted → interfaces.Perm permuted →
      ∀ setup reachable timestamp temperature setup' reachable' timestamp' temperature',
        (HealthDocument.of setup reachable timestamp s temperature).primaryInterface =
          (HealthDocument.of setup' reachable' timestamp' t temperature').primaryInterface

/-- The primary interface is the busiest one that is not loopback, with the least name of these, and
there is none only if there is nothing to choose from. -/
theorem primaryInterface?_told (s : Snapshot) : PrimaryTold s where
  nothing := by
    unfold primaryInterface?
    cases s.network with
    | error failure => simp
    | ok interfaces =>
      rcases busiest?_cases interfaces with ⟨none, loopback⟩ | ⟨i, found, primary⟩
      · simpa [none] using loopback
      · simpa [found] using ⟨i, primary.mem, primary.external⟩
  chosen := fun i found => by
    unfold primaryInterface? at found
    cases network : s.network with
    | error failure => simp [network] at found
    | ok interfaces =>
      refine ⟨interfaces, rfl, ?_⟩
      rcases busiest?_cases interfaces with ⟨none, -⟩ | ⟨j, found', primary⟩
      · simp [network, none] at found
      · obtain rfl : j = i := by simpa [network, found'] using found
        exact primary
  unordered := fun t interfaces permuted network network' order _ _ _ _ _ _ _ _ => by
    change s.primaryInterface?.map (·.name) = t.primaryInterface?.map (·.name)
    simp only [primaryInterface?, network, network']
    exact busiest?_perm order

end Snapshot

end

end CameraTelemetry.Host
