import CameraTelemetry.Exposition.TextFormat

/-!
# Lines tell label values apart

No bare quote is left in an escaped label value, so that the quote after it marks its end and the
value can be read off the line. Lines of one family, whose label names are the same, are therefore
the same only for the same label values, also where there are several labels.
-/
namespace CameraTelemetry.Exposition

def escaped (c : Char) : List Char :=
  if c = '\\' then ['\\', '\\'] else if c = '\n' then ['\\', 'n']
  else if c = '"' then ['\\', '"'] else [c]

theorem toList_escapeValue (s : String) : (escapeValue s).toList = s.toList.flatMap escaped := by
  have written (cs : List Char) (done : String) :
      (cs.foldl (fun done c =>
        done ++ (if c = '\\' then "\\\\" else if c = '\n' then "\\n"
          else if c = '"' then "\\\"" else c.toString)) done).toList =
        done.toList ++ cs.flatMap escaped := by
    induction cs generalizing done with
    | nil => simp
    | cons c cs ih =>
      rw [List.foldl_cons, ih, String.toList_append, List.flatMap_cons, List.append_assoc, escaped]
      simp only [apply_ite String.toList, Char.toString, String.toList_singleton]
      rfl
  rw [escapeValue, String.foldl_eq_foldl_toList, written]
  rfl

theorem escaped_append {c d : Char} {rest rest' : List Char}
    (same : escaped c ++ rest = escaped d ++ rest') : c = d ∧ rest = rest' := by
  unfold escaped at same
  grind

theorem escaped_ne_quote (c : Char) (rest rest' : List Char) :
    escaped c ++ rest ≠ '"' :: rest' := by
  unfold escaped
  grind

/-- A written value ends at the first bare quote. -/
theorem escaped_append_injective {cs ds rest rest' : List Char}
    (same : cs.flatMap escaped ++ '"' :: rest = ds.flatMap escaped ++ '"' :: rest') :
    cs = ds ∧ rest = rest' := by
  induction cs generalizing ds with
  | nil =>
    cases ds with
    | nil => exact ⟨rfl, List.tail_eq_of_cons_eq same⟩
    | cons d ds =>
      rw [List.flatMap_cons, List.append_assoc] at same
      exact absurd same.symm (escaped_ne_quote d _ _)
  | cons c cs ih =>
    rw [List.flatMap_cons, List.append_assoc] at same
    cases ds with
    | nil => exact absurd same (escaped_ne_quote c _ _)
    | cons d ds =>
      rw [List.flatMap_cons, List.append_assoc] at same
      obtain ⟨rfl, later⟩ := escaped_append same
      obtain ⟨rfl, rest⟩ := ih later
      exact ⟨rfl, rest⟩

def labelText (label : String × String) : String := label.1 ++ "=\"" ++ escapeValue label.2 ++ "\""

theorem toList_labelText (name value : String) (rest : List Char) :
    (labelText (name, value)).toList ++ rest =
      name.toList ++ ('=' :: '"' :: (value.toList.flatMap escaped ++ '"' :: rest)) := by
  simp [labelText, toList_escapeValue]

/-- The value of a label can be read off its text, whatever comes after it. -/
theorem labelText_append_injective {name value value' : String} {rest rest' : List Char}
    (same : (labelText (name, value)).toList ++ rest = (labelText (name, value')).toList ++ rest') :
    value = value' ∧ rest = rest' := by
  rw [toList_labelText, toList_labelText, List.append_cancel_left_eq] at same
  simp only [List.cons.injEq, true_and] at same
  obtain ⟨values, rest⟩ := escaped_append_injective same
  exact ⟨String.toList_inj.1 values, rest⟩

theorem labels_append_injective {labels labels' : Labels} {rest rest' : List Char}
    (names : labels.map Prod.fst = labels'.map Prod.fst)
    (same : (",".intercalate (labels.map labelText)).toList ++ rest =
      (",".intercalate (labels'.map labelText)).toList ++ rest') : labels = labels' := by
  induction labels generalizing labels' rest rest' with
  | nil => exact (List.map_eq_nil_iff.1 names.symm).symm
  | cons label labels ih =>
    obtain ⟨name, value⟩ := label
    obtain _ | ⟨⟨name', value'⟩, labels'⟩ := labels'
    · cases names
    · obtain ⟨rfl, tails⟩ : name = name' ∧ labels.map Prod.fst = labels'.map Prod.fst := by
        simpa using names
      cases labels with
      | nil =>
        obtain rfl := List.map_eq_nil_iff.1 tails.symm
        obtain ⟨rfl, -⟩ := labelText_append_injective (by simpa using same)
        rfl
      | cons next labels =>
        obtain _ | ⟨next', labels'⟩ := labels'
        · cases tails
        · simp only [List.map_cons, String.intercalate_cons_cons, String.toList_append,
            List.append_assoc] at same
          obtain ⟨rfl, later⟩ := labelText_append_injective same
          rw [List.append_cancel_left_eq] at later
          rw [ih tails later]

/-- Rows with the same label names have the same line only if they have the same label values. -/
theorem Row.line_injective {name : String} {row row' : Row}
    (names : row.labels.map Prod.fst = row'.labels.map Prod.fst)
    (same : row.line name = row'.line name) : row.labels = row'.labels := by
  have texts : labelsText row.labels ++ (" " ++ row.value.plain ++ "\n") =
      labelsText row'.labels ++ (" " ++ row'.value.plain ++ "\n") := by
    have chars := congrArg String.toList same
    simp only [line, String.toList_append, List.append_assoc, List.append_cancel_left_eq] at chars
    apply String.toList_inj.1
    simpa only [String.toList_append, List.append_assoc] using chars
  cases labels : row.labels with
  | nil =>
    rw [labels] at names
    exact (List.map_eq_nil_iff.1 names.symm).symm
  | cons label rest =>
    cases labels' : row'.labels with
    | nil =>
      rw [labels, labels'] at names
      cases names
    | cons label' rest' =>
      rw [labels, labels'] at names texts
      have chars := congrArg String.toList texts
      simp only [labelsText, List.isEmpty_cons, Bool.false_eq_true, if_false, String.toList_append,
        List.append_assoc, List.append_cancel_left_eq] at chars
      exact labels_append_injective names chars

/-! ## The order of labels -/

/-- Labels with different names are known by their names and values, in whatever order. -/
theorem eq_of_perm {labels labels' : Labels} (perm : labels.Perm labels')
    (names : labels.map Prod.fst = labels'.map Prod.fst)
    (distinct : (labels.map Prod.fst).Nodup) : labels = labels' := by
  induction labels generalizing labels' with
  | nil => exact (List.map_eq_nil_iff.1 names.symm).symm
  | cons label labels ih =>
    obtain _ | ⟨label', labels'⟩ := labels'
    · cases names
    · simp only [List.map_cons, List.cons.injEq, List.nodup_cons] at names distinct
      obtain ⟨first, names⟩ := names
      have same : label = label' := by
        refine (List.mem_cons.1 (perm.subset List.mem_cons_self)).resolve_right fun later => ?_
        exact distinct.1 (names ▸ List.mem_map_of_mem later)
      subst same
      rw [ih perm.cons_inv names distinct.2]

theorem sortLabels_perm (labels : Labels) : (sortLabels labels).Perm labels :=
  List.mergeSort_perm ..

theorem sortLabels_map_fst {labels labels' : Labels}
    (names : labels.map Prod.fst = labels'.map Prod.fst) :
    (sortLabels labels).map Prod.fst = (sortLabels labels').map Prod.fst := by
  have sorted (labels : Labels) : (sortLabels labels).map Prod.fst =
      (labels.map Prod.fst).mergeSort fun a b => decide (a ≤ b) :=
    List.map_mergeSort fun _ _ _ _ => rfl
  rw [sorted, sorted, names]

theorem sortLabels_injective {labels labels' : Labels}
    (names : labels.map Prod.fst = labels'.map Prod.fst) (distinct : (labels.map Prod.fst).Nodup)
    (same : sortLabels labels = sortLabels labels') : labels = labels' := by
  have perm := (sortLabels_perm labels).symm
  rw [same] at perm
  exact eq_of_perm (perm.trans (sortLabels_perm labels')) names distinct

end CameraTelemetry.Exposition
