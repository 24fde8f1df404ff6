import Mathlib.Data.List.Nodup

/-! Maps that keep their entries in the order in which the keys came. -/

namespace InsertionMaps

variable {Key Value : Type} [BEq Key] [LawfulBEq Key]

/-- `Map.set`: a known key keeps its place. -/
def setEntry (entries : List (Key × Value)) (key : Key) (value : Value) : List (Key × Value) :=
  if entries.any (fun entry => entry.1 == key) then
    entries.map (fun entry => if entry.1 == key then (key, value) else entry)
  else
    entries ++ [(key, value)]

/-- `Map.delete`. -/
def deleteEntry (entries : List (Key × Value)) (key : Key) : List (Key × Value) :=
  entries.filter (fun entry => entry.1 != key)

/-- A key that is new comes last. -/
theorem setEntry_of_not_mem {entries : List (Key × Value)} {key : Key}
    (unknown : key ∉ entries.map Prod.fst) (value : Value)
    : setEntry entries key value = entries ++ [(key, value)] := by
  refine if_neg fun found => ?_
  obtain ⟨entry, member, same⟩ := List.any_eq_true.mp found
  exact unknown (eq_of_beq same ▸ List.mem_map_of_mem member)

theorem setEntry_of_mem {entries : List (Key × Value)} {key : Key}
    (known : key ∈ entries.map Prod.fst) (value : Value)
    : setEntry entries key value
      = entries.map (fun entry => if entry.1 == key then (key, value) else entry) := by
  refine if_pos ?_
  obtain ⟨entry, member, rfl⟩ := List.mem_map.mp known
  exact List.any_eq_true.mpr ⟨entry, member, beq_self_eq_true _⟩

/-- An observation that does not tell the new entry from the old one keeps its values. -/
theorem map_setEntry {Observation : Type} {entries : List (Key × Value)} {key : Key} {value : Value}
    {observe : Key × Value → Observation} (known : key ∈ entries.map Prod.fst)
    (same : ∀ entry ∈ entries, entry.1 = key → observe (key, value) = observe entry)
    : (setEntry entries key value).map observe = entries.map observe := by
  rw [setEntry_of_mem known, List.map_map]
  refine List.map_congr_left fun entry member => ?_
  simp only [Function.comp_apply]
  split
  case isTrue here => exact same entry member (eq_of_beq here)
  case isFalse => rfl

/-- What is looked up stands in the map. -/
theorem mem_of_lookup {entries : List (Key × Value)} {key : Key} {value : Value}
    (found : entries.lookup key = some value)
    : (key, value) ∈ entries := by
  induction entries with
  | nil => cases found
  | cons entry rest ih =>
      obtain ⟨first, here⟩ := entry
      rw [List.lookup_cons] at found
      split at found
      case h_1 same =>
        obtain rfl := eq_of_beq same
        cases found
        exact List.mem_cons_self
      case h_2 => exact List.mem_cons_of_mem _ (ih found)

theorem lookup_eq_none_iff {entries : List (Key × Value)} {key : Key}
    : entries.lookup key = none ↔ key ∉ entries.map Prod.fst := by
  induction entries with
  | nil => simp
  | cons entry rest ih =>
      obtain ⟨first, here⟩ := entry
      rw [List.lookup_cons, List.map_cons, List.mem_cons, not_or]
      by_cases same : key = first
      · subst same
        simp
      · rw [beq_false_of_ne same, ih]
        exact (and_iff_right same).symm

theorem nodup_setEntry {entries : List (Key × Value)} {key : Key} {value : Value}
    (distinct : (entries.map Prod.fst).Nodup)
    : ((setEntry entries key value).map Prod.fst).Nodup := by
  by_cases known : key ∈ entries.map Prod.fst
  · rwa [map_setEntry known fun _ _ same => same.symm]
  · rw [setEntry_of_not_mem known, List.map_append, List.map_singleton]
    exact List.nodup_append_comm.mp (List.nodup_cons.mpr ⟨known, distinct⟩)

theorem lookup_setEntry_self {entries : List (Key × Value)} {key : Key} {value : Value}
    : (setEntry entries key value).lookup key = some value := by
  by_cases known : key ∈ entries.map Prod.fst
  · rw [setEntry_of_mem known]
    induction entries with
    | nil => cases known
    | cons entry rest ih =>
        obtain ⟨first, here⟩ := entry
        by_cases same : first = key
        · simp [same]
        · have later := ih ((List.mem_cons.mp known).resolve_left (Ne.symm same))
          simpa [List.lookup_cons, same, beq_false_of_ne (Ne.symm same)] using later
  · rw [setEntry_of_not_mem known, List.lookup_append, lookup_eq_none_iff.mpr known]
    simp

theorem lookup_setEntry_of_ne {entries : List (Key × Value)} {key other : Key} {value : Value}
    (different : other ≠ key)
    : (setEntry entries key value).lookup other = entries.lookup other := by
  by_cases known : key ∈ entries.map Prod.fst
  · rw [setEntry_of_mem known]
    clear known
    induction entries with
    | nil => rfl
    | cons entry rest ih =>
        obtain ⟨first, here⟩ := entry
        by_cases same : first = key
        · simpa [List.lookup_cons, same, beq_false_of_ne different] using ih
        · simp only [List.map_cons, beq_false_of_ne same, Bool.false_eq_true, ↓reduceIte,
            List.lookup_cons, ih]
  · rw [setEntry_of_not_mem known, List.lookup_append]
    simp [List.lookup_cons, beq_false_of_ne different]

/-- In a map, a filter keeps or drops the one entry of a key. -/
theorem lookup_filter {entries : List (Key × Value)} (distinct : (entries.map Prod.fst).Nodup)
    (keep : Key × Value → Bool) (key : Key)
    : (entries.filter keep).lookup key
      = (entries.lookup key).filter (fun value => keep (key, value)) := by
  induction entries with
  | nil => rfl
  | cons entry rest ih =>
      obtain ⟨first, value⟩ := entry
      obtain ⟨unknown, others⟩ := List.nodup_cons.mp distinct
      have later := ih others
      rw [List.filter_cons]
      by_cases same : key = first
      · subst same
        have absent : rest.lookup key = none := lookup_eq_none_iff.mpr unknown
        by_cases kept : keep (key, value) = true
        · simp [kept, Option.filter_some]
        · simp [kept, later, absent, Option.filter_some]
      · by_cases kept : keep (first, value) = true
        · simp [kept, List.lookup_cons, beq_false_of_ne same, later]
        · simp [kept, List.lookup_cons, beq_false_of_ne same, later]

end InsertionMaps
