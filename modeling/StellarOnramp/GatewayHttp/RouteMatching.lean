import StellarOnramp.GatewayHttp.RouteText

/-! What a route matches: the literal text of its template with a value for each parameter. A
pattern keeps to that where it reads, in its place in the route, what the declared pattern
accepts and no slash.
-/

namespace StellarOnramp.GatewayHttp.Routes

open JsText RegularExpressions

-----------------------------------------------------------------------------------------
-- Values in a path
-----------------------------------------------------------------------------------------

/-- What a parameter may stand for. -/
structure ParamValue (patterns : ParamPatterns) (name value : JsString) : Prop where
  filled : value ≠ []
  within : 47 ∉ value
  accepted : ∀ pattern, declared patterns name = some (some pattern) → pattern.accepts value

/-- The path is the template's text with these values in it, and perhaps one more slash. -/
def Fits (patterns : ParamPatterns) (last : JsString)
    : List (JsString × JsString) → JsString → List JsString → Prop
  | [], path, values => values = [] ∧ (path = last ∨ path = last ++ [47])
  | (literal, name) :: params, path, values =>
      ∃ value rest later, path = literal ++ (value ++ rest) ∧ ParamValue patterns name value
        ∧ Fits patterns last params rest later ∧ values = value :: later

/-- Wherever the literal stands before it, and the rest of the template fits behind it, a tree
reads what the parameter may stand for.
-/
def ReadsValues (patterns : ParamPatterns) (last : JsString) (param : JsString × JsString)
    (later : List (JsString × JsString)) (tree : Node) : Prop :=
  ∀ (state : State) (value rest : JsString), param.1.reverse <+: state.before →
    state.rest = value ++ rest → (∃ values, Fits patterns last later rest values) →
    ((∃ after ∈ tree.run state, after.rest = rest) ↔ ParamValue patterns param.2 value)

/-- One tree for each parameter, without groups, that reads its values. -/
def Trees (patterns : ParamPatterns) (last : JsString)
    : List (JsString × JsString) → List Node → Prop
  | [], trees => trees = []
  | param :: later, trees =>
      ∃ tree more, trees = tree :: more ∧ tree.groups = []
        ∧ ReadsValues patterns last param later tree ∧ Trees patterns last later more

-----------------------------------------------------------------------------------------
-- Running a route
-----------------------------------------------------------------------------------------

theorem advance_succ {state : State} {unit : UInt16} {rest : JsString}
    (ahead : state.rest = unit :: rest) (count : Nat)
    : (state.advance 1).advance count = state.advance (count + 1) := by
  simp [State.advance, ahead]

theorem mem_run_literal {literal : JsString} {nodes : List Node} {state after : State}
    : after ∈ (seqOf (literal.map unitNode ++ nodes)).run state
      ↔ ∃ rest, state.rest = literal ++ rest
        ∧ after ∈ (seqOf nodes).run (state.advance literal.length) := by
  induction literal generalizing state with
  | nil =>
      have here : state.advance 0 = state := rfl
      simp [here]
  | cons unit literal ih =>
      have first : after ∈ (seqOf ((unit :: literal).map unitNode ++ nodes)).run state
          ↔ ∃ middle ∈ (unitNode unit).run state,
            after ∈ (seqOf (literal.map unitNode ++ nodes)).run middle :=
        List.mem_flatMap
      rw [first]
      constructor
      · rintro ⟨middle, here, later⟩
        obtain ⟨other, rest, ahead, fits, rfl⟩ := mem_run_single.mp here
        cases (UnitSet.has_one unit other).mp fits
        obtain ⟨tail, ahead_later, found⟩ := ih.mp later
        have drop : (state.advance 1).rest = rest := by rw [State.advance, ahead]; rfl
        rw [drop] at ahead_later
        rw [advance_succ ahead] at found
        exact ⟨tail, by rw [ahead, ahead_later]; rfl, found⟩
      · rintro ⟨rest, ahead, found⟩
        rw [List.cons_append] at ahead
        have drop : (state.advance 1).rest = literal ++ rest := by rw [State.advance, ahead]; rfl
        refine
          ⟨_, mem_run_single.mpr ⟨unit, _, ahead, (UnitSet.has_one unit unit).mpr rfl, rfl⟩,
            ih.mpr ⟨rest, drop, ?_⟩⟩
        rwa [advance_succ ahead]

theorem exists_run_closing {state : State}
    : (∃ after, after ∈ (seqOf closingNodes).run state) ↔ state.rest = [] ∨ state.rest = [47] := by
  have ends : (∃ after, after ∈ (seqOf closingNodes).run state)
      ↔ ∃ after ∈ (Node.repeated (unitNode 47) 0 (some 1) true).run state, after.rest = [] := by
    have unfolded : (seqOf closingNodes).run state
        = ((Node.repeated (unitNode 47) 0 (some 1) true).run state).flatMap
          (seqOf [.finish]).run := rfl
    rw [unfolded]
    constructor
    · rintro ⟨after, found⟩
      obtain ⟨middle, here, there⟩ := List.mem_flatMap.mp found
      refine ⟨middle, here, ?_⟩
      by_contra more
      simp [seqOf, Node.run, more] at there
    · rintro ⟨middle, here, done⟩
      exact ⟨middle, List.mem_flatMap.mpr ⟨middle, here, by simp [seqOf, Node.run, done]⟩⟩
  rw [ends, unitNode, exists_run_optional]
  simp only [UnitSet.has_one, exists_eq_left]

/-- The groups of the nodes from an index on. -/
theorem le_of_mem_groups {patterns : ParamPatterns} {last : JsString}
    {params : List (JsString × JsString)} {trees : List Node}
    (each : Trees patterns last params trees) {index group : Nat}
    (member : group ∈ (seqOf (routeNodes index params trees last)).groups) : index ≤ group := by
  have literals (literal : JsString) (nodes : List Node)
      : (seqOf (literal.map unitNode ++ nodes)).groups = (seqOf nodes).groups := by
    induction literal with
    | nil => rfl
    | cons unit literal ih => exact ih
  induction params generalizing trees index with
  | nil =>
      rw [routeNodes, literals] at member
      · cases member
      · exact fun _ _ _ _ _ pattern => absurd pattern (List.cons_ne_nil _ _).symm
  | cons param params ih =>
      obtain ⟨literal, name⟩ := param
      obtain ⟨tree, more, rfl, silent, -, later⟩ := each
      rw [routeNodes, literals] at member
      have whole : (seqOf (.group index tree :: routeNodes (index + 1) params more last)).groups
          = index :: (tree.groups ++ (seqOf (routeNodes (index + 1) params more last)).groups) :=
        rfl
      rw [whole, silent, List.nil_append, List.mem_cons] at member
      rcases member with rfl | member
      · exact Nat.le_refl _
      · exact Nat.le_of_succ_le (ih later member)

/-- What a route captures are values with which its template is the path, and a path with such
values is matched.
-/
theorem run_routeNodes {patterns : ParamPatterns} {last : JsString}
    {params : List (JsString × JsString)} {trees : List Node}
    (each : Trees patterns last params trees) (index : Nat) (state : State)
    : (∀ after ∈ (seqOf (routeNodes index params trees last)).run state,
        ∃ values, Fits patterns last params state.rest values
          ∧ values.map some
            = (List.range' index params.length).map (fun group => after.captures group))
      ∧ ((∃ values, Fits patterns last params state.rest values) →
        ∃ after, after ∈ (seqOf (routeNodes index params trees last)).run state) := by
  induction params generalizing trees index state with
  | nil =>
      have here : routeNodes index [] trees last = last.map unitNode ++ closingNodes := by
        cases trees <;> rfl
      have drop {rest : JsString} (ahead : state.rest = last ++ rest)
          : (state.advance last.length).rest = rest := by
        rw [State.advance, ahead, List.drop_left]
      rw [here]
      constructor
      · intro after found
        obtain ⟨rest, ahead, found⟩ := mem_run_literal.mp found
        refine ⟨[], ⟨rfl, ?_⟩, rfl⟩
        rcases exists_run_closing.mp ⟨after, found⟩ with done | slash
        · rw [drop ahead] at done
          exact .inl (by rw [ahead, done, List.append_nil])
        · rw [drop ahead] at slash
          exact .inr (by rw [ahead, slash])
      · rintro ⟨values, rfl, fits⟩
        have ahead : ∃ rest, state.rest = last ++ rest ∧ (rest = [] ∨ rest = [47]) := by
          rcases fits with whole | whole
          · exact ⟨[], by rw [whole, List.append_nil], .inl rfl⟩
          · exact ⟨[47], whole, .inr rfl⟩
        obtain ⟨rest, ahead, ends⟩ := ahead
        obtain ⟨after, found⟩ := exists_run_closing.mpr (by rwa [drop ahead])
        exact ⟨after, mem_run_literal.mpr ⟨rest, ahead, found⟩⟩
  | cons param params ih =>
      obtain ⟨literal, name⟩ := param
      obtain ⟨tree, more, rfl, silent, reads_values, later⟩ := each
      have cons_run (place : State) {after : State}
          : after ∈ (seqOf (.group index tree :: routeNodes (index + 1) params more last)).run place
            ↔ ∃ middle ∈ (Node.group index tree).run place,
              after ∈ (seqOf (routeNodes (index + 1) params more last)).run middle :=
        List.mem_flatMap
      have behind {rest : JsString} (ahead : state.rest = literal ++ rest)
          : (state.advance literal.length).rest = rest
            ∧ literal.reverse <+: (state.advance literal.length).before := by
        rw [State.advance, ahead, List.drop_left, List.take_left]
        exact ⟨rfl, List.prefix_append _ _⟩
      rw [routeNodes]
      constructor
      · intro after found
        obtain ⟨rest, ahead, found⟩ := mem_run_literal.mp found
        obtain ⟨middle, here, there⟩ := (cons_run _).mp found
        obtain ⟨inside, read, rfl⟩ := List.mem_map.mp here
        obtain ⟨value, reads⟩ := exists_reads tree _ inside read
        obtain ⟨rest_eq, before⟩ := behind ahead
        obtain ⟨values, fits, captured⟩ := (ih later (index + 1) _).1 after there
        have valued : ParamValue patterns name value :=
          (reads_values _ value inside.rest before reads.rest ⟨values, fits⟩).mp ⟨inside, read, rfl⟩
        refine ⟨value :: values, ⟨value, inside.rest, values, ?_, valued, fits, rfl⟩, ?_⟩
        · rw [ahead, ← rest_eq, reads.rest]
        · have kept : after.captures index = some value := by
            have other : index ∉ (seqOf (routeNodes (index + 1) params more last)).groups :=
              fun member => Nat.not_succ_le_self _ (le_of_mem_groups later member)
            rw [captures_of_run _ _ other after there]
            exact (if_pos rfl).trans (congrArg some reads.take)
          rw [List.map_cons, captured, List.length_cons, List.range'_succ, List.map_cons, kept]
      · rintro ⟨_, value, rest, values, whole, valued, fits, rfl⟩
        obtain ⟨rest_eq, before⟩ := behind whole
        obtain ⟨inside, read, ends⟩ :=
          (reads_values _ value rest before rest_eq ⟨values, fits⟩).mpr valued
        let captured := inside.capture index
          (some ((state.advance literal.length).rest.take
            ((state.advance literal.length).rest.length - inside.rest.length)))
        obtain ⟨after, found⟩ :=
          (ih later (index + 1) captured).2 ⟨values, by rwa [show captured.rest = rest from ends]⟩
        refine ⟨after, mem_run_literal.mpr ⟨value ++ rest, whole, ?_⟩⟩
        exact (cons_run _).mpr ⟨captured, List.mem_map.mpr ⟨inside, read, rfl⟩, found⟩

-----------------------------------------------------------------------------------------
-- Patterns that keep to their segment
-----------------------------------------------------------------------------------------

/-- A pattern reads without its flags, and in a route with so many groups it reads its values. -/
def Pattern.InPlace (patterns : ParamPatterns) (groups : Nat) (last : JsString)
    (param : JsString × JsString) (later : List (JsString × JsString)) (pattern : ParamPattern)
    : Prop :=
  (treeOf 0 pattern.source).isSome = true
    ∧ ∃ tree, treeOf groups pattern.source = some tree
      ∧ ReadsValues patterns last param later tree

/-- Every declared pattern reads its values in its place. -/
def InPlace (patterns : ParamPatterns) (groups : Nat) (last : JsString)
    : List (JsString × JsString) → Prop
  | [] => True
  | param :: later =>
      (∀ pattern, declared patterns param.2 = some (some pattern) →
          Pattern.InPlace patterns groups last param later pattern)
        ∧ InPlace patterns groups last later

/-- `[^/]+` -/
def defaultTree : Node := seqOf [.repeated (.single (.listed true [.range 47 47])) 1 none true]

theorem treeOf_default (groups : Nat) : treeOf groups (js "[^/]+") = some defaultTree := by
  have text : js "[^/]+" = [91, 94, 47, 93, 43] := by decide
  have lexed : Lexed groups [91, 94, 47, 93, 43]
      [.atom (.single (.listed true [.range 47 47])), .quantifier 1 none true] :=
    .cons rfl (.cons rfl .nil)
  rw [text]
  exact treeOf_eq_some_iff.mpr ⟨_, _, lexed, rfl, rfl, rfl⟩

theorem defaultTree_readsValues {patterns : ParamPatterns} {last : JsString}
    {param : JsString × JsString} {later : List (JsString × JsString)}
    (free : declared patterns param.2 = some none)
    : ReadsValues patterns last param later defaultTree := by
  intro state value rest _ ahead _
  have no_slash : value.all (UnitSet.listed true [.range 47 47]).has = true ↔ 47 ∉ value := by
    have each (unit : UInt16)
        : (UnitSet.listed true [.range 47 47]).has unit = true ↔ unit ≠ 47 := by
      have one := UnitSet.has_one 47 unit
      rw [UnitSet.one, UnitSet.has, Bool.bne_false] at one
      rw [UnitSet.has, Bool.bne_true, Bool.not_eq_true', Bool.eq_false_iff, Ne, one]
    rw [List.all_eq_true]
    constructor
    · intro fits member
      exact (each 47).mp (fits 47 member) rfl
    · rintro absent unit member
      exact (each unit).mpr (by rintro rfl; exact absent member)
  have run_eq : defaultTree.run state
      = (Node.repeated (.single (.listed true [.range 47 47])) 1 none true).run state :=
    List.flatMap_singleton' _
  rw [run_eq, exists_run_repeated_single ahead, no_slash]
  constructor
  · rintro ⟨within, filled⟩
    refine ⟨?_, within, ?_⟩
    · rintro rfl
      exact absurd filled (by decide)
    · intro pattern found
      rw [free] at found
      cases found
  · rintro ⟨filled, within, -⟩
    exact ⟨within, List.length_pos_iff.mpr filled⟩

/-- The trees of a route whose patterns are in place. -/
theorem exists_trees {patterns : ParamPatterns} {groups : Nat} {last : JsString}
    {params : List (JsString × JsString)} (in_place : InPlace patterns groups last params)
    {parts : JsString} (joined : paramParts patterns params = some parts)
    : ∃ counted trees, List.Forall₂ (Spells patterns 0) params counted
      ∧ List.Forall₂ (Spells patterns groups) params trees ∧ Trees patterns last params trees := by
  induction params generalizing parts with
  | nil => exact ⟨[], [], .nil, .nil, rfl⟩
  | cons param params ih =>
      obtain ⟨literal, name⟩ := param
      obtain ⟨here, later⟩ := in_place
      simp only [paramParts, Option.bind_eq_bind, Option.bind_eq_some_iff] at joined
      obtain ⟨group, grouped, rest, joined, -⟩ := joined
      obtain ⟨counted, trees, first, each, read⟩ := ih later joined
      have spelled : ∃ source zero tree, paramGroup patterns name = some (40 :: source ++ [41])
          ∧ capturesNothing [] source = true ∧ treeOf 0 source = some zero
          ∧ treeOf groups source = some tree
          ∧ ReadsValues patterns last (literal, name) params tree := by
        simp only [paramGroup, Option.bind_eq_bind, Option.bind_eq_some_iff] at grouped
        obtain ⟨found, declares, grouped⟩ := grouped
        cases found with
        | none =>
            refine ⟨js "[^/]+", defaultTree, defaultTree, ?_, by decide, treeOf_default 0,
              treeOf_default groups, defaultTree_readsValues declares⟩
            simp only [paramGroup, declares, Option.bind_eq_bind, Option.bind_some]
            rfl
        | some pattern =>
            obtain ⟨alone, tree, there, values⟩ := here pattern declares
            obtain ⟨zero, alone⟩ := Option.isSome_iff_exists.mp alone
            dsimp only at grouped
            split at grouped
            case isTrue usable =>
              have quiet : capturesNothing [] pattern.source = true := by
                rw [assertUsableParamPattern, Bool.and_eq_true, Bool.and_eq_true] at usable
                exact usable.1.2
              refine ⟨pattern.source, zero, tree, ?_, quiet, alone, there, values⟩
              simp only [paramGroup, declares, Option.bind_eq_bind, Option.bind_some, usable]
              rfl
            case isFalse => cases grouped
      obtain ⟨source, zero, tree, spelled, quiet, alone, there, values⟩ := spelled
      exact
        ⟨zero :: counted, tree :: trees, .cons ⟨source, spelled, quiet, alone⟩ first,
          .cons ⟨source, spelled, quiet, there⟩ each,
          tree, trees, rfl, groups_of_treeOf there quiet, values, read⟩

/-- A compiled template tests positive where it fits, and captures values with which it does. -/
theorem compile_fits {text : JsString} {patterns : ParamPatterns} {compiled : CompiledTemplate}
    (accepted : compile text patterns = some compiled) {template : Template}
    (read : Template.read text = some template)
    (in_place : InPlace patterns template.params.length template.last template.params)
    (path : JsString)
    : compiled.paramNames = template.paramNames
      ∧ (∀ after, compiled.regex.exec path = some after →
          ∃ values, Fits patterns template.last template.params path values
            ∧ values.map some
              = (List.range' 1 template.params.length).map (fun group => after.captures group))
      ∧ ((∃ values, Fits patterns template.last template.params path values) →
          (compiled.regex.exec path).isSome = true) := by
  simp only [compile, read, Option.bind_eq_bind, Option.bind_some, Option.bind_eq_some_iff]
    at accepted
  obtain ⟨parts, joined, accepted⟩ := accepted
  split at accepted
  case isTrue =>
    obtain ⟨counted, trees, first, each, good⟩ := exists_trees in_place joined
    rw [newRegExp_route first each joined, Option.bind_some] at accepted
    cases accepted
    obtain ⟨sound, complete⟩ := run_routeNodes good 1 (State.initial path)
    have exec := exec_start (seqOf (routeNodes 1 template.params trees template.last)) path
    refine ⟨rfl, ?_, ?_⟩
    · intro after found
      rw [show (seqOf (.start :: routeNodes 1 template.params trees template.last)).exec path
          = _ from exec] at found
      exact sound after (List.mem_of_head? found)
    · intro fits
      obtain ⟨after, found⟩ := complete fits
      rw [show (seqOf (.start :: routeNodes 1 template.params trees template.last)).exec path
          = _ from exec, List.isSome_head?]
      exact List.ne_nil_of_mem found
  case isFalse => cases accepted

-----------------------------------------------------------------------------------------
-- Plain patterns
-----------------------------------------------------------------------------------------

theorem test_anchored {tree : Node} {value : JsString}
    : (seqOf [.start, tree, .finish]).test value = true
      ↔ ∃ after ∈ tree.run (State.initial value), after.rest = [] := by
  have exec := exec_start (seqOf [tree, .finish]) value
  have whole : (seqOf [.start, tree, .finish]).exec value
      = ((seqOf [tree, .finish]).run (State.initial value)).head? := exec
  have run_eq : (seqOf [tree, .finish]).run (State.initial value)
      = (tree.run (State.initial value)).flatMap (seqOf [.finish]).run := rfl
  rw [Node.test, whole, List.isSome_head?, run_eq, Ne, List.flatMap_eq_nil_iff]
  simp only [not_forall, exists_prop]
  refine exists_congr fun after => and_congr_right fun _ => ?_
  simp [seqOf, Node.run]

/-- No flags, and a tree that reads no slash and sees nothing but what it reads, the same in every
route with so many groups.
-/
def ParamPattern.plain (pattern : ParamPattern) (groups : Nat) : Bool :=
  pattern.flags == [] && treeOf 0 pattern.source == treeOf groups pattern.source
    && (treeOf groups pattern.source).any (fun tree => tree.plain 47)

/-- A plain pattern that the router takes is in place everywhere. -/
theorem inPlace_of_plain {patterns : ParamPatterns} {groups : Nat} {last : JsString}
    {param : JsString × JsString} {later : List (JsString × JsString)} {pattern : ParamPattern}
    (declares : declared patterns param.2 = some (some pattern))
    (usable : assertUsableParamPattern pattern = true) (plain : pattern.plain groups = true)
    : Pattern.InPlace patterns groups last param later pattern := by
  simp only [ParamPattern.plain, Bool.and_eq_true, beq_iff_eq, Option.any_eq_true] at plain
  obtain ⟨⟨flagless, same⟩, tree, here, plain⟩ := plain
  have zero : treeOf 0 pattern.source = some tree := same.trans here
  simp only [assertUsableParamPattern, Bool.and_eq_true, Option.any_eq_true, Bool.not_eq_true']
    at usable
  obtain ⟨⟨⟨probe, probed, nonempty, -⟩, quiet⟩, -⟩ := usable
  rw [anchored_eq zero quiet] at probed
  cases probed
  have accepts_iff (value : JsString)
      : pattern.accepts value ↔ ∃ after ∈ tree.run (State.initial value), after.rest = [] := by
    rw [pattern.flagless flagless, anchored_eq zero quiet, Option.any_some, test_anchored]
  refine ⟨by rw [zero]; rfl, tree, here, ?_⟩
  intro state value rest _ ahead _
  rw [plain_run_iff plain ahead, ← accepts_iff]
  constructor
  · intro accepted
    refine ⟨?_, ?_, ?_⟩
    · rintro rfl
      have positive := test_anchored.mpr ((accepts_iff []).mp accepted)
      rw [nonempty] at positive
      cases positive
    · obtain ⟨after, found, ends⟩ := (accepts_iff value).mp accepted
      obtain ⟨read, reads, clean⟩ := plain_reads plain _ after found
      have whole : value = read := by
        have := reads.rest
        rwa [ends, List.append_nil] at this
      rwa [whole]
    · intro other found
      cases declares.symm.trans found
      exact accepted
  · exact fun valued => valued.accepted pattern declares

end StellarOnramp.GatewayHttp.Routes
