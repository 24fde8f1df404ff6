import Mathlib.Data.List.Basic

/-! Paths as names between slashes. A path is resolved by walking its segments from the top, and
a resolved path lies below a root exactly where its text starts with the root's.
-/

namespace SlashPaths

variable {Letter : Type} {slash dot : Letter}

-----------------------------------------------------------------------------------------
-- Segments and names
-----------------------------------------------------------------------------------------

/-- A segment that leads one step down. -/
structure IsName (slash dot : Letter) (segment : List Letter) : Prop where
  filled : segment ≠ []
  here : segment ≠ [dot]
  up : segment ≠ [dot, dot]
  whole : slash ∉ segment

/-- The text of names from the top. -/
def spell (slash : Letter) (names : List (List Letter)) : List Letter :=
  slash :: [slash].intercalate names

theorem spell_append {front back : List (List Letter)} (filled : front ≠ []) (more : back ≠ [])
    : spell slash (front ++ back) = spell slash front ++ spell slash back := by
  have joined
      : [slash].intercalate (front ++ back)
        = [slash].intercalate front ++ spell slash back := by
    induction front with
    | nil => exact absurd rfl filled
    | cons first rest ih =>
        by_cases last : rest = []
        · rw [last, List.singleton_append, List.intercalate_cons_of_ne_nil more,
            List.intercalate_singleton, List.append_assoc, List.singleton_append, spell]
        · have onward := List.append_ne_nil_of_right_ne_nil rest more
          rw [List.cons_append, List.intercalate_cons_of_ne_nil onward,
            List.intercalate_cons_of_ne_nil last, ih last, List.append_assoc _ _ (spell slash back)]
  exact congrArg (slash :: ·) joined

variable [DecidableEq Letter]

/-- One segment from where the names lead. At the top there is no way up. -/
def follow (dot : Letter) (names : List (List Letter)) (segment : List Letter)
    : List (List Letter) :=
  if segment = [] ∨ segment = [dot] then names
  else if segment = [dot, dot] then names.dropLast
  else names ++ [segment]

def walk (dot : Letter) (names segments : List (List Letter)) : List (List Letter) :=
  segments.foldl (follow dot) names

/-- A path as it stands, or from the root where it does not start at the top. -/
def resolve (slash dot : Letter) (root path : List Letter) : List Letter :=
  let whole :=
    if path = [] then root else if path.head? = some slash then path else root ++ slash :: path
  spell slash (walk dot [] (whole.splitOn slash))

-----------------------------------------------------------------------------------------
-- Walking
-----------------------------------------------------------------------------------------

theorem follow_name {segment : List Letter} (name : IsName slash dot segment)
    (names : List (List Letter))
    : follow dot names segment = names ++ [segment] := by
  rw [follow, if_neg (not_or.mpr ⟨name.filled, name.here⟩), if_neg name.up]

/-- Names are walked down one by one. -/
theorem walk_names {segments : List (List Letter)}
    (each : ∀ segment ∈ segments, IsName slash dot segment) (names : List (List Letter))
    : walk dot names segments = names ++ segments := by
  induction segments generalizing names with
  | nil => exact (List.append_nil names).symm
  | cons segment rest ih =>
      obtain ⟨name, later⟩ := List.forall_mem_cons.mp each
      change walk dot (follow dot names segment) rest = _
      rw [follow_name name, ih later, List.append_assoc, List.singleton_append]

/-- Wherever a walk leads, there are names all the way. -/
theorem isName_walk {names segments : List (List Letter)}
    (start : ∀ name ∈ names, IsName slash dot name) (each : ∀ segment ∈ segments, slash ∉ segment)
    : ∀ name ∈ walk dot names segments, IsName slash dot name := by
  induction segments generalizing names with
  | nil => exact start
  | cons segment rest ih =>
      obtain ⟨whole, later⟩ := List.forall_mem_cons.mp each
      refine ih ?_ later
      unfold follow
      split
      case isTrue => exact start
      case isFalse leads =>
        split
        case isTrue => exact fun name member => start name (List.dropLast_subset _ member)
        case isFalse up =>
          intro name member
          rcases List.mem_append.mp member with member | member
          · exact start name member
          · obtain rfl := List.mem_singleton.mp member
            exact ⟨(not_or.mp leads).1, (not_or.mp leads).2, up, whole⟩

-----------------------------------------------------------------------------------------
-- Text
-----------------------------------------------------------------------------------------

theorem not_mem_of_mem_splitOn {text segment : List Letter}
    (member : segment ∈ text.splitOn slash)
    : slash ∉ segment := by
  induction text generalizing segment with
  | nil =>
      rw [List.splitOn_nil, List.mem_singleton] at member
      rw [member]
      exact List.not_mem_nil
  | cons letter rest ih =>
      rw [List.splitOn_cons_eq_if_modifyHead] at member
      split at member
      case isTrue =>
        rcases List.mem_cons.mp member with rfl | member
        · exact List.not_mem_nil
        · exact ih member
      case isFalse other =>
        obtain ⟨first, later, split⟩ := List.exists_cons_of_ne_nil (List.splitOn_ne_nil slash rest)
        rw [split, List.modifyHead_cons] at member
        rcases List.mem_cons.mp member with rfl | member
        · rw [List.mem_cons, not_or]
          refine ⟨fun same => other (beq_iff_eq.mpr same.symm), ih ?_⟩
          rw [split]
          exact List.mem_cons_self
        · exact ih (split ▸ List.mem_cons_of_mem _ member)

theorem splitOn_spell {names : List (List Letter)} (filled : names ≠ [])
    (each : ∀ name ∈ names, slash ∉ name)
    : (spell slash names).splitOn slash = [] :: names := by
  have joined : spell slash names = [slash].intercalate ([] :: names) := by
    obtain ⟨first, rest, rfl⟩ := List.exists_cons_of_ne_nil filled
    rfl
  rw [joined]
  refine List.splitOn_intercalate slash ?_ (List.cons_ne_nil _ _)
  intro segment member
  rcases List.mem_cons.mp member with rfl | member
  · exact List.not_mem_nil
  · exact each segment member

/-- Below a root in the text is below it in the names. -/
theorem spell_prefix_iff {root names : List (List Letter)} (filled : root ≠ [])
    (rootNames : ∀ name ∈ root, slash ∉ name) (each : ∀ name ∈ names, slash ∉ name)
    : spell slash root ++ [slash] <+: spell slash names
      ↔ ∃ more, more ≠ [] ∧ names = root ++ more := by
  constructor
  · rintro ⟨rest, same⟩
    have split := congrArg (List.splitOn slash) same
    rw [List.append_assoc, List.singleton_append, List.splitOn_append_cons_self,
      splitOn_spell filled rootNames] at split
    refine ⟨rest.splitOn slash, List.splitOn_ne_nil _ _, ?_⟩
    by_cases top : names = []
    · have length := congrArg List.length split
      have some_root := List.length_pos_iff.mpr filled
      have some_rest := List.length_pos_iff.mpr (List.splitOn_ne_nil slash rest)
      rw [top] at length
      simp [spell, List.intercalate, List.splitOn_cons_eq_if_modifyHead] at length
      omega
    · rw [splitOn_spell top each, List.cons_append] at split
      exact (List.cons.inj split).2.symm
  · rintro ⟨more, some_more, rfl⟩
    rw [spell_append filled some_more]
    exact List.prefix_append_right_inj _ |>.mpr (List.cons_prefix_cons.mpr ⟨rfl, List.nil_prefix⟩)

theorem resolve_nil {root : List (List Letter)} (filled : root ≠ [])
    (names : ∀ name ∈ root, IsName slash dot name)
    : resolve slash dot (spell slash root) [] = spell slash root := by
  have down : walk dot [] root = root := walk_names names []
  rw [resolve, if_pos rfl, splitOn_spell filled fun name member => (names name member).whole,
    walk, List.foldl_cons]
  change spell slash (walk dot (follow dot [] []) root) = _
  rw [follow, if_pos (.inl rfl), down]

/-- What follows the root is walked from where the root's names lead. -/
theorem resolve_below {root : List (List Letter)} (filled : root ≠ [])
    (names : ∀ name ∈ root, IsName slash dot name) {path : List Letter} (asked : path ≠ [])
    (relative : path.head? ≠ some slash)
    : resolve slash dot (spell slash root) path
      = spell slash (walk dot root (path.splitOn slash)) := by
  have down : walk dot [] root = root := walk_names names []
  rw [resolve, if_neg asked, if_neg relative, List.splitOn_append_cons_self,
    splitOn_spell filled fun name member => (names name member).whole, List.cons_append, walk,
    List.foldl_cons, List.foldl_append]
  change spell slash (walk dot (walk dot (follow dot [] []) root) _) = _
  rw [follow, if_pos (.inl rfl), down]

end SlashPaths
