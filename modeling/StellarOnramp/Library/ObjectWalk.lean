import Mathlib.Data.List.Nodup

/-! Walks over object graphs that hand out parts as they go. A walk goes down a bounded number
of levels and enters a tracked node once, so that a cycle ends. The two bounds work against
each other: a node that is met first at the last level is not entered again on a shorter route.
-/

namespace ObjectWalk

inductive Action (Node Part : Type) where
  | emit (part : Part)
  | visit (node : Node)

/-- What is done at a node, in order, and which nodes are entered only once. -/
structure Walk (Node Part : Type) where
  tracked : Node → Bool
  actions : Node → List (Action Node Part)

variable {Node Part : Type}

/-- The nodes that a list of actions visits. -/
def nodesOf (actions : List (Action Node Part)) : List Node :=
  actions.filterMap fun
    | .emit _ => none
    | .visit node => some node

/-- Actions in order, with the parts that they hand out and the nodes met so far. -/
def perform (visit : List Node → Node → List Part × List Node)
    : List (Action Node Part) → List Node → List Part × List Node
  | [], seen => ([], seen)
  | .emit part :: rest, seen =>
      (part :: (perform visit rest seen).1, (perform visit rest seen).2)
  | .visit node :: rest, seen =>
      let entered := visit seen node
      (entered.1 ++ (perform visit rest entered.2).1, (perform visit rest entered.2).2)

/-- The parts of a walk that may still enter so many levels, and the tracked nodes met. -/
def Walk.collect [DecidableEq Node] (walk : Walk Node Part)
    : Nat → List Node → Node → List Part × List Node
  | 0, seen, _ => ([], seen)
  | levels + 1, seen, node =>
      if walk.tracked node = true ∧ node ∈ seen then
        ([], seen)
      else
        perform (walk.collect levels) (walk.actions node)
          (if walk.tracked node then node :: seen else seen)

/-- The nodes on the routes from a node, each as often as a route comes to it. -/
def Walk.places (walk : Walk Node Part) : Nat → Node → List Node
  | 0, _ => []
  | levels + 1, node =>
      node :: (nodesOf (walk.actions node)).flatMap (walk.places levels)

/-- The same walk, handing out the nodes that it enters. -/
def Walk.marking (walk : Walk Node Part) : Walk Node Node where
  tracked := walk.tracked
  actions node := .emit node :: (nodesOf (walk.actions node)).map .visit

/-- The nodes that a walk enters. -/
def Walk.entered [DecidableEq Node] (walk : Walk Node Part) (levels : Nat) (root : Node)
    : List Node :=
  (walk.marking.collect levels [] root).1

/-- A way of so many steps to a node that meets no tracked node twice, and none of those met
before.
-/
inductive Walk.Way (walk : Walk Node Part) : List Node → Node → Nat → Node → Prop where
  | here {met : List Node} {node : Node} (fresh : walk.tracked node = true → node ∉ met)
    : walk.Way met node 0 node
  | step {met : List Node} {node next last : Node} {steps : Nat}
      (fresh : walk.tracked node = true → node ∉ met)
      (child : next ∈ nodesOf (walk.actions node))
      (rest : walk.Way (if walk.tracked node then node :: met else met) next steps last)
    : walk.Way met node (steps + 1) last

/-- Every way to a node within the levels leaves room for so many steps behind it. -/
def Walk.Leaves (walk : Walk Node Part) (levels : Nat) (root : Node) (room : Nat) (node : Node)
    : Prop :=
  ∀ steps, walk.Way [] root steps node → steps < levels → steps + room < levels

/-- A route leads to the node, and none of its nodes is so far away on another one that what is
left of the route, with the given steps behind it, would not fit into the levels.
-/
inductive Walk.Sure (walk : Walk Node Part) (levels : Nat) (root : Node) : Nat → Node → Prop where
  | root {room : Nat} (leaves : walk.Leaves levels root room root)
    : walk.Sure levels root room root
  | step {room : Nat} {node next : Node} (before : walk.Sure levels root (room + 1) node)
      (child : next ∈ nodesOf (walk.actions node))
      (leaves : walk.Leaves levels root room next)
    : walk.Sure levels root room next

@[simp]
theorem nodesOf_nil : nodesOf ([] : List (Action Node Part)) = [] := rfl

@[simp]
theorem nodesOf_emit (part : Part) (rest : List (Action Node Part))
    : nodesOf (.emit part :: rest) = nodesOf rest := rfl

@[simp]
theorem nodesOf_visit (node : Node) (rest : List (Action Node Part))
    : nodesOf (.visit node :: rest) = node :: nodesOf rest := rfl

-----------------------------------------------------------------------------------------
-- Parts and the nodes that hand them out
-----------------------------------------------------------------------------------------

section

variable {walk : Walk Node Part} {levels : Nat}

/-- One level up: a walk and its marking meet the same nodes, and the parts are those of the
nodes marked.
-/
theorem perform_marks {visit : List Node → Node → List Part × List Node}
    {mark : List Node → Node → List Node × List Node}
    (agree
      : ∀ seen node,
          (visit seen node).2 = (mark seen node).2
          ∧ ∀ part,
              part ∈ (visit seen node).1
              ↔ ∃ entered ∈ (mark seen node).1, .emit part ∈ walk.actions entered)
    (actions : List (Action Node Part)) (seen : List Node)
    : (perform visit actions seen).2
          = (perform mark ((nodesOf actions).map .visit) seen).2
      ∧ ∀ part,
          part ∈ (perform visit actions seen).1
          ↔ .emit part ∈ actions
            ∨ ∃ entered ∈ (perform mark ((nodesOf actions).map .visit) seen).1,
                .emit part ∈ walk.actions entered := by
  induction actions generalizing seen with
  | nil => simp [perform]
  | cons action rest ih =>
      cases action with
      | emit part =>
          obtain ⟨same, parts⟩ := ih seen
          refine ⟨same, fun other => ?_⟩
          simp only [perform, List.mem_cons, parts other, nodesOf_emit, Action.emit.injEq]
          exact or_assoc.symm
      | visit node =>
          obtain ⟨met, found⟩ := agree seen node
          obtain ⟨same, parts⟩ := ih (visit seen node).2
          rw [met] at same parts
          refine ⟨?_, fun other => ?_⟩
          · simp only [perform, nodesOf_visit, List.map_cons, met, same]
          · simp only [perform, nodesOf_visit, List.map_cons, List.mem_append, found other, met,
              parts other, List.mem_cons, reduceCtorEq, false_or, or_and_right, exists_or]
            exact or_left_comm

theorem Walk.collect_marks [DecidableEq Node] (walk : Walk Node Part) (levels : Nat)
    (seen : List Node) (node : Node)
    : (walk.collect levels seen node).2 = (walk.marking.collect levels seen node).2
      ∧ ∀ part,
          part ∈ (walk.collect levels seen node).1
          ↔ ∃ entered ∈ (walk.marking.collect levels seen node).1,
              .emit part ∈ walk.actions entered := by
  induction levels generalizing seen node with
  | zero => simp [collect]
  | succ levels ih =>
      unfold collect
      split
      · next skipped => simp [marking, skipped]
      · next skipped =>
          obtain ⟨same, parts⟩ := perform_marks ih (walk.actions node)
            (if walk.tracked node then node :: seen else seen)
          simp only [marking, perform, skipped, if_false, List.mem_cons, exists_eq_or_imp]
          exact ⟨same, parts⟩

/-- A part is found exactly where the walk enters a node that hands it out. -/
theorem Walk.mem_collect_iff [DecidableEq Node] {root : Node} {part : Part}
    : part ∈ (walk.collect levels [] root).1
      ↔ ∃ node ∈ walk.entered levels root, .emit part ∈ walk.actions node :=
  (walk.collect_marks levels [] root).2 part

-----------------------------------------------------------------------------------------
-- Nodes entered and places
-----------------------------------------------------------------------------------------

theorem perform_within {visit : List Node → Node → List Node × List Node}
    {places : Node → List Node} (sound : ∀ seen node, (visit seen node).1 ⊆ places node)
    (nodes seen : List Node)
    : (perform visit (nodes.map .visit) seen).1 ⊆ nodes.flatMap places := by
  induction nodes generalizing seen with
  | nil => simp [perform]
  | cons node rest ih =>
      simp only [List.map_cons, perform, List.flatMap_cons]
      exact List.append_subset.mpr
        ⟨List.subset_append_of_subset_left _ (sound seen node),
          List.subset_append_of_subset_right _ (ih _)⟩

/-- Nothing is entered that is not on a route. -/
theorem Walk.entered_subset [DecidableEq Node] (walk : Walk Node Part) (levels : Nat)
    (root : Node)
    : walk.entered levels root ⊆ walk.places levels root := by
  suffices sound
      : ∀ seen node, (walk.marking.collect levels seen node).1 ⊆ walk.places levels node from
    sound [] root
  induction levels with
  | zero => simp [collect]
  | succ levels ih =>
      intro seen node
      unfold collect
      split
      · exact List.nil_subset _
      · exact List.cons_subset_cons _ (perform_within ih _ _)

/-- The entries of a walk that starts at some nodes, each with the levels that it still has. -/
structure Entries (walk : Walk Node Part) (levels : Nat) (seen starts : List Node)
    (outcome : List Node × List Node) (entries : List (Node × Nat))
    : Prop where
  entered : ∀ entry ∈ entries, entry.1 ∈ outcome.1
  way
    : ∀ node left,
        (node, left) ∈ entries
        → 0 < left
          ∧ ∃ start ∈ starts, ∃ steps, walk.Way seen start steps node ∧ steps + left = levels
  met : ∀ node ∈ outcome.2, node ∈ seen ∨ ∃ left, (node, left) ∈ entries
  started
    : 0 < levels → ∀ start ∈ starts, start ∈ seen ∨ ∃ left, (start, left) ∈ entries
  followed
    : ∀ node left,
        (node, left + 2) ∈ entries
        → ∀ next ∈ nodesOf (walk.actions node),
            next ∈ seen ∨ ∃ left, (next, left) ∈ entries

/-- What a way avoids may be less. -/
theorem Walk.Way.mono {walk : Walk Node Part} {more met : List Node} {node last : Node}
    {steps : Nat} (way : walk.Way more node steps last) (subset : met ⊆ more)
    : walk.Way met node steps last := by
  induction way generalizing met with
  | here fresh => exact .here fun tracked found => fresh tracked (subset found)
  | @step _ node _ _ _ fresh child rest ih =>
      refine .step (fun tracked found => fresh tracked (subset found)) child (ih ?_)
      split
      · exact List.cons_subset_cons node subset
      · exact subset

/-- One visit after another. -/
theorem Entries.perform {walk : Walk Node Part} {levels : Nat}
    {visit : List Node → Node → List Node × List Node}
    (visits
      : ∀ seen node,
          seen ⊆ (visit seen node).2
          ∧ ∃ entries, Entries walk levels seen [node] (visit seen node) entries)
    (nodes seen : List Node)
    : seen ⊆ (perform visit (nodes.map .visit) seen).2
      ∧ ∃ entries,
          Entries walk levels seen nodes (perform visit (nodes.map .visit) seen) entries := by
  induction nodes generalizing seen with
  | nil =>
      refine ⟨List.Subset.refl _, [], ?_⟩
      constructor <;> simp [ObjectWalk.perform]
  | cons node rest ih =>
      obtain ⟨grown, first, here⟩ := visits seen node
      obtain ⟨further, later, there⟩ := ih (visit seen node).2
      refine ⟨List.Subset.trans grown further, first ++ later, ?_⟩
      -- What the first visit met is known from its entries.
      have known {other : Node}
          (found : other ∈ (visit seen node).2 ∨ ∃ left, (other, left) ∈ later)
          : other ∈ seen ∨ ∃ left, (other, left) ∈ first ++ later := by
        rcases found with met | ⟨left, entry⟩
        · rcases here.met other met with before | ⟨left, entry⟩
          · exact .inl before
          · exact .inr ⟨left, List.mem_append_left _ entry⟩
        · exact .inr ⟨left, List.mem_append_right _ entry⟩
      have widen {other : Node} (found : other ∈ seen ∨ ∃ left, (other, left) ∈ first)
          : other ∈ seen ∨ ∃ left, (other, left) ∈ first ++ later :=
        found.imp_right fun ⟨left, entry⟩ => ⟨left, List.mem_append_left _ entry⟩
      constructor
      · intro entry member
        rcases List.mem_append.mp member with early | late
        · exact List.mem_append_left _ (here.entered entry early)
        · exact List.mem_append_right _ (there.entered entry late)
      · intro other left member
        rcases List.mem_append.mp member with early | late
        · obtain ⟨positive, start, first, steps, way, total⟩ := here.way other left early
          obtain rfl := List.mem_singleton.mp first
          exact ⟨positive, start, List.mem_cons_self, steps, way, total⟩
        · obtain ⟨positive, start, member, steps, way, total⟩ := there.way other left late
          exact ⟨positive, start, List.mem_cons_of_mem _ member, steps, way.mono grown, total⟩
      · intro other met
        exact known (there.met other met)
      · intro positive start member
        rcases List.mem_cons.mp member with rfl | member
        · exact widen (here.started positive start List.mem_cons_self)
        · exact known (there.started positive start member)
      · intro other left member next child
        rcases List.mem_append.mp member with early | late
        · exact widen (here.followed other left early next child)
        · exact known (there.followed other left late next child)

/-- A node is entered with all levels that are left, and what it visits is entered there or was
met before. Witness: induction on the levels.
-/
theorem Walk.exists_entries [DecidableEq Node] (walk : Walk Node Part) (levels : Nat)
    (seen : List Node) (node : Node)
    : seen ⊆ (walk.marking.collect levels seen node).2
      ∧ ∃ entries,
          Entries walk levels seen [node] (walk.marking.collect levels seen node) entries := by
  induction levels generalizing seen node with
  | zero =>
      refine ⟨List.Subset.refl _, [], ?_⟩
      constructor <;> simp [collect]
  | succ levels ih =>
      unfold collect
      split
      case isTrue skipped =>
        refine ⟨List.Subset.refl _, [], ?_⟩
        constructor <;> simp [skipped.2]
      case isFalse fresh =>
        have fresh : walk.tracked node = true → node ∉ seen :=
          fun tracked found => fresh ⟨tracked, found⟩
        let onward := if walk.tracked node then node :: seen else seen
        have wider : seen ⊆ onward := by
          simp only [onward]
          split
          · exact List.subset_cons_self _ _
          · exact List.Subset.refl _
        have own {other : Node} (found : other ∈ onward) : other = node ∨ other ∈ seen := by
          simp only [onward] at found
          split at found
          · exact List.mem_cons.mp found
          · exact .inr found
        obtain ⟨grown, entries, below⟩ :=
          Entries.perform ih (nodesOf (walk.actions node)) onward
        refine ⟨List.Subset.trans wider grown, (node, levels + 1) :: entries, ?_⟩
        have known {other : Node}
            (found : other ∈ onward ∨ ∃ left, (other, left) ∈ entries)
            : other ∈ seen ∨ ∃ left, (other, left) ∈ (node, levels + 1) :: entries := by
          rcases found with met | ⟨left, entry⟩
          · rcases own met with rfl | before
            · exact .inr ⟨levels + 1, List.mem_cons_self⟩
            · exact .inl before
          · exact .inr ⟨left, List.mem_cons_of_mem _ entry⟩
        constructor
        · intro entry member
          rcases List.mem_cons.mp member with rfl | member
          · exact List.mem_cons_self
          · exact List.mem_cons_of_mem _ (below.entered entry member)
        · intro other left member
          refine (List.mem_cons.mp member).elim (fun same => ?_) (fun member => ?_)
          · cases same
            exact ⟨Nat.succ_pos _, node, List.mem_cons_self, 0, .here fresh, Nat.zero_add _⟩
          · obtain ⟨positive, start, child, steps, way, total⟩ := below.way other left member
            exact ⟨positive, node, List.mem_cons_self, steps + 1, .step fresh child way, by omega⟩
        · exact fun other met => known (below.met other met)
        · intro _ start member
          obtain rfl := List.mem_singleton.mp member
          exact .inr ⟨levels + 1, List.mem_cons_self⟩
        · intro other left member next child
          refine (List.mem_cons.mp member).elim (fun same => ?_) (fun member => ?_)
          · cases same
            exact known (below.started (Nat.succ_pos _) next child)
          · exact known (below.followed other left member next child)

/-- A node on such a route is entered; by induction on the route, with enough levels left for
the rest of it.
-/
theorem Walk.Sure.entered [DecidableEq Node] {walk : Walk Node Part} {levels room : Nat}
    {root node : Node} (positive : 0 < levels) (sure : walk.Sure levels root room node)
    : node ∈ walk.entered levels root := by
  obtain ⟨-, entries, found⟩ := walk.exists_entries levels [] root
  suffices entry : ∃ left, room < left ∧ (node, left) ∈ entries by
    obtain ⟨left, -, member⟩ := entry
    exact found.entered (node, left) member
  -- An entry is as far away as one of the ways, so it leaves the room that they leave.
  have leaving {room : Nat} {node : Node} (leaves : walk.Leaves levels root room node)
      (entry : node ∈ [] ∨ ∃ left, (node, left) ∈ entries)
      : ∃ left, room < left ∧ (node, left) ∈ entries := by
    obtain ⟨left, member⟩ := entry.resolve_left List.not_mem_nil
    obtain ⟨positive, start, only, steps, way, total⟩ := found.way node left member
    obtain rfl := List.mem_singleton.mp only
    have fits := leaves steps way (by omega)
    exact ⟨left, by omega, member⟩
  induction sure with
  | root leaves => exact leaving leaves (found.started positive root List.mem_cons_self)
  | step before child leaves ih =>
      obtain ⟨left, enough, member⟩ := ih
      obtain ⟨rest, rfl⟩ : ∃ rest, left = rest + 2 := ⟨left - 2, by omega⟩
      exact leaving leaves (found.followed _ rest member _ child)

end

end ObjectWalk
