import CameraTelemetry.Proofs.Exposition.Counters
import CameraTelemetry.Proofs.Exposition.Fidelity

/-!
# What a counter shows

A count is kept as the number next to it, cut down to a count when it is added up, and shown as the
number next to that. Nothing is lost after the first of these steps: what stands in the text is
nearest to the count that was offered, and is not lower for a higher count.
-/
namespace CameraTelemetry.Exposition

open Number

def shownCount (v : UInt64) : Binary64 := .ofNat (Binary64.ofNat v.toNat).toCount

/-- A text has a line of its own for a number. -/
def ShowsValue (text name : String) (labels : Labels) (x : Binary64) : Prop :=
  Shows text ("\n" ++ (name ++ labelsText (sortLabels labels) ++ " " ++ x.plain ++ "\n"))

/-- What holds of a counter that was offered a value once under its name and labels. -/
structure CountTold (offers : List Offer) (name : String) (labels : Labels) (v : UInt64) :
    Prop where
  shown : ∃ text, (collect offers).1.render.1 = .ok text ∧
    ShowsValue text name labels (shownCount v)
  /-- The number can be read off the line. -/
  read : readReal? (shownCount v).plain.toList = some (shownCount v)
  nearest : ∃ m, shownCount v = .finite false m ∧ Binary64.NearestTo v.toNat m
  /-- The way back to a count and forth again loses nothing. -/
  kept : shownCount v = .ofNat v.toNat
  /-- Up to `2 ^ 53` the number is the value itself. -/
  exact : v.toNat ≤ 2 ^ 53 → (∃ m, shownCount v = .finite false m ∧
    m.units = v.toNat * Binary64.unitsPerOne) ∧ (shownCount v).plain = toString v.toNat
  /-- A higher value is not shown lower. -/
  ordered : ∀ w, v ≤ w → ¬ shownCount w < shownCount v

/-! ## Numbers -/

theorem toNat_le_maxCount (v : UInt64) : v.toNat ≤ maxCount := by
  have less := v.toNat_lt
  unfold maxCount
  omega

theorem shownCount_eq (v : UInt64) : shownCount v = .ofNat v.toNat :=
  Binary64.ofNat_toCount (toNat_le_maxCount v)

theorem shownCount_exact {v : UInt64} (small : v.toNat ≤ 2 ^ 53) :
    (∃ m, shownCount v = .finite false m ∧ m.units = v.toNat * Binary64.unitsPerOne) ∧
      (shownCount v).plain = toString v.toNat := by
  rw [shownCount_eq]
  exact ⟨⟨_, Binary64.ofNat_eq small, Magnitude.whole_units small⟩, plain_ofNat_le small⟩

theorem not_shownCount_lt {v w : UInt64} (le : v ≤ w) : ¬ shownCount w < shownCount v := by
  rw [shownCount_eq, shownCount_eq]
  exact Binary64.not_ofNat_lt (UInt64.le_iff_toNat_le.1 le) (toNat_le_maxCount w)

/-! ## Lines -/

def EndsLine (text : String) : Prop := ∃ before, text = before ++ "\n"

theorem endsLine_append (before : String) {text : String} (ends : EndsLine text) :
    EndsLine (before ++ text) := by
  obtain ⟨front, rfl⟩ := ends
  exact ⟨before ++ front, (String.append_assoc ..).symm⟩

theorem Row.endsLine (name : String) (r : Row) : EndsLine (r.line name) := ⟨_, rfl⟩

/-- Where every line ends before the next one starts, each of them starts after a line end. -/
theorem shows_join_line {before line : String} {lines : List String} (start : EndsLine before)
    (ends : ∀ l ∈ lines, EndsLine l) (mem : line ∈ lines) :
    Shows (before ++ String.join lines) ("\n" ++ line) := by
  induction lines generalizing before with
  | nil => cases mem
  | cons first rest ih =>
    rw [List.forall_mem_cons] at ends
    rw [String.join_cons]
    rcases List.mem_cons.1 mem with rfl | later
    · obtain ⟨front, rfl⟩ := start
      exact ⟨front, String.join rest, by simp [String.append_assoc]⟩
    · rw [← String.append_assoc]
      exact ih (endsLine_append before ends.1) ends.2 later

theorem shows_row_line {f : Family} {r : Row} (mem : r ∈ f.rows) :
    Shows f.text ("\n" ++ Row.line f.name { r with labels := sortLabels r.labels }) := by
  have sorted : { r with labels := sortLabels r.labels } ∈ sortRows f.rows :=
    (List.mergeSort_perm ..).mem_iff.2 (List.mem_map.2 ⟨r, mem, rfl⟩)
  apply shows_join_line ⟨_, rfl⟩
  · intro l listed
    obtain ⟨r, -, rfl⟩ := List.mem_map.1 listed
    exact r.endsLine f.name
  · exact List.mem_map_of_mem sorted

/-! ## The counter -/

section

variable {offers : List Offer} {name help : String} {labels : Labels} {v : UInt64}

/-- The offer makes a row of its own in the family of its name. -/
theorem mem_rows_of_once (once : (accepted offers name).filter (fun o => sameKey o.labels labels) =
    [.counter name help labels v]) :
    ∃ first, first? offers name = some first ∧
      ⟨labels, (Binary64.ofNat v.toNat).toCount, shownCount v⟩ ∈ (familyOf offers first).rows := by
  have own : Offer.counter name help labels v ∈ accepted offers name := by
    apply List.mem_of_mem_filter (p := fun o => sameKey o.labels labels)
    rw [once]
    exact List.mem_singleton_self _
  obtain ⟨first, found⟩ : ∃ first, first? offers name = some first :=
    exists_first? (List.mem_of_mem_filter own)
  obtain rfl : first.name = name := (first?_mem found).2
  have kind : first.kind = .counter := ((mem_accepted_iff found).1 own).2.2.1.symm
  have rowed := written_familyOf found
  obtain ⟨r, written, key⟩ := List.mem_map.1 (rowed.covered _ (List.mem_map_of_mem own))
  obtain ⟨o, head, same, gathered⟩ := (rowed.made r written).of_offers
  have group : (accepted offers first.name).filter (fun o => sampleKey o.labels == r.key) =
      [.counter first.name help labels v] := key ▸ once
  rw [← List.head?_filter, group] at head
  cases head
  rw [group, kind, same] at gathered
  have row : r = ⟨labels, (Binary64.ofNat v.toNat).toCount, .ofNat v.toNat⟩ :=
    gathered.trans (add_counter (toNat_le_maxCount v))
  rw [shownCount_eq, ← row]
  exact ⟨first, found, (List.mergeSort_perm ..).mem_iff.1 written⟩

theorem shows_of_once (valid : ∀ o ∈ offers, o.Valid)
    (once : (accepted offers name).filter (fun o => sameKey o.labels labels) =
      [.counter name help labels v]) :
    ∃ text, (collect offers).1.render.1 = .ok text ∧
      ShowsValue text name labels (shownCount v) := by
  obtain ⟨first, found, row⟩ := mem_rows_of_once once
  obtain rfl : first.name = name := (first?_mem found).2
  have listed : familyOf offers first ∈ (collect offers).1.families :=
    mem_collect_iff.2 ⟨first, found, rfl⟩
  have line := shows_row_line row
  rw [Row.line] at line
  refine ⟨(collect offers).1.text, ?_, (shows_family listed).trans line⟩
  rw [render_collect valid]

/-- A counter that was offered a value once shows the number nearest to it. -/
theorem counter_told (valid : ∀ o ∈ offers, o.Valid)
    (once : (accepted offers name).filter (fun o => sameKey o.labels labels) =
      [.counter name help labels v]) : CountTold offers name labels v where
  shown := shows_of_once valid once
  read := by
    rw [shownCount_eq]
    exact Binary64.readReal?_plain (toNat_le_maxCount v)
  nearest := by
    rw [shownCount_eq]
    exact Binary64.exists_nearestTo (toNat_le_maxCount v)
  kept := shownCount_eq v
  exact := shownCount_exact
  ordered := fun w => not_shownCount_lt

/-- The highest value of all, beside another one of its name. -/
theorem counter_told_of_highest : CountTold
    [.gauge "n" "h" [] 1, .counter "m" "h" [("a", "x")] 18446744073709551615,
      .counter "m" "h" [("a", "y")] 7] "m" [("a", "x")] 18446744073709551615 :=
  @counter_told _ _ "h" _ _ (by decide +kernel) (by decide +kernel)

example : shownCount 18446744073709551615 = .ofNat (2 ^ 64) := by decide +kernel

end

end CameraTelemetry.Exposition
