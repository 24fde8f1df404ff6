import StellarOnramp.GatewayHttp.Router
import StellarOnramp.Library.PatternSplices

/-! What the text of a compiled route reads as: its literals unit by unit, and one capturing group
for each parameter, around the tree of the parameter's own pattern.
-/

namespace StellarOnramp.GatewayHttp.Routes

open JsText RegularExpressions

-----------------------------------------------------------------------------------------
-- The search for capturing groups
-----------------------------------------------------------------------------------------

/-- Where a token can start: behind an even run of backslashes, or at the `c` of a `\c`. -/
def Aligned (before text : JsString) : Prop :=
  (before.takeWhile (· == 92)).length % 2 = 0 ∨ text.head? = some 99

theorem capturesNothing_append {before front rest : JsString}
    (quiet : capturesNothing before (front ++ rest) = true)
    : capturesNothing (front.reverse ++ before) rest = true := by
  induction front generalizing before with
  | nil => exact quiet
  | cons unit front ih =>
      rw [List.cons_append, capturesNothing, Bool.and_eq_true] at quiet
      have later := ih quiet.2
      rwa [List.reverse_cons, List.append_assoc, List.singleton_append]

/-- Behind a token another one can start. -/
theorem Aligned.next {before text rest : JsString} (aligned : Aligned before text)
    (read : Read text rest)
    : ∃ used, text = used ++ rest ∧ Aligned (used.reverse ++ before) rest := by
  rcases read with ⟨front, last, rfl, other⟩ | rfl | ⟨more, rfl, rfl⟩
  · refine ⟨front ++ [last], by simp, .inl ?_⟩
    rw [List.reverse_append, List.reverse_singleton, List.singleton_append, List.cons_append,
      List.takeWhile_cons_of_neg (by simpa using other)]
    rfl
  · refine ⟨[92, 92], rfl, .inl ?_⟩
    have even : (before.takeWhile (· == 92)).length % 2 = 0 :=
      aligned.resolve_right (by simp)
    have counted : (([92, 92] : JsString).reverse ++ before).takeWhile (· == 92)
        = 92 :: 92 :: before.takeWhile (· == 92) := rfl
    rw [counted, List.length_cons, List.length_cons, Nat.add_assoc, Nat.add_mod_right]
    exact even
  · exact ⟨[92], rfl, .inr rfl⟩

theorem quiet_of_token {groups : Nat} {before text rest : JsString}
    (aligned : Aligned before text) (quiet : capturesNothing before text = true) {first : Token}
    (found : token groups text = some (first, rest)) : first.Quiet := by
  unfold token at found
  split at found
  case h_1 => cases found
  case h_3 later =>
    rw [capturesNothing, Bool.and_eq_true] at quiet
    have even : (before.takeWhile (· == 92)).length % 2 = 0 := aligned.resolve_right (by simp)
    have question : later.head? = some 63 := by
      have plain := quiet.1
      simp only [bne_self_eq_false, even, Bool.or_eq_true, Bool.and_eq_true, beq_iff_eq,
        Bool.false_or] at plain
      rcases plain with odd | ⟨question, -⟩
      · cases odd
      · exact question
    cases later with
    | nil => cases question
    | cons unit later =>
        cases question
        cases later with
        | nil => cases found
        | cons kind later =>
            obtain ⟨known, here, pair⟩ := Option.map_eq_some_iff.mp found
            cases pair
            rintro rfl
            rw [groupKinds] at here
            simp only [List.lookup_cons] at here
            split at here
            · cases here
            split at here
            · cases here
            split at here
            · cases here
            · cases here
  case h_6 later =>
    obtain ⟨_, _, pair⟩ := Option.map_eq_some_iff.mp found
    cases pair
    rfl
  case h_7 later =>
    obtain ⟨unit, _, pair⟩ := Option.map_eq_some_iff.mp found
    have silent := quiet_escape groups unit later.tail
    rwa [pair] at silent
  case h_10 unit later _ _ _ _ _ _ _ _ =>
    have silent := quiet_quantifierOrUnit unit later
    rwa [show quantifierOrUnit unit later = (first, rest) from Option.some.inj found] at silent
  all_goals
    cases found
    trivial

/-- A source that passes the search captures nothing. -/
theorem quiet_of_capturesNothing {groups : Nat} {text : JsString} {read : List Token}
    (lexed : Lexed groups text read) {before : JsString} (aligned : Aligned before text)
    (quiet : capturesNothing before text = true) : ∀ token ∈ read, token.Quiet := by
  induction lexed generalizing before with
  | nil => exact nofun
  | cons head _ ih =>
      obtain ⟨used, rfl, next⟩ := aligned.next (read_token head)
      intro token member
      rcases List.mem_cons.mp member with rfl | member
      · exact quiet_of_token aligned quiet head
      · exact ih next (capturesNothing_append quiet) token member

theorem not_mem_of_capturesNothing {groups : Nat} {text : JsString} {read : List Token}
    (lexed : Lexed groups text read) (quiet : capturesNothing [] text = true)
    : .opening .capturing ∉ read :=
  fun member => quiet_of_capturesNothing lexed (.inl rfl) quiet _ member rfl

theorem groups_of_treeOf {groups : Nat} {source : JsString} {tree : Node}
    (spelled : treeOf groups source = some tree) (quiet : capturesNothing [] source = true)
    : tree.groups = [] := by
  obtain ⟨read, after, lexed, ran, -, rfl⟩ := treeOf_eq_some_iff.mp spelled
  exact (quiet_initial.run (quiet_of_capturesNothing lexed (.inl rfl) quiet) ran).frame.tree

-----------------------------------------------------------------------------------------
-- Literals and groups
-----------------------------------------------------------------------------------------

/-- The tree of one literal unit. -/
def unitNode (unit : UInt16) : Node := .single (.one unit)

theorem lexed_escapeRegex {groups : Nat} {rest : JsString} {later : List Token}
    (more : Lexed groups rest later) (literal : JsString)
    : Lexed groups (escapeRegex literal ++ rest)
        (literal.map (fun unit => .atom (unitNode unit)) ++ later) := by
  induction literal with
  | nil => exact more
  | cons unit literal ih =>
      rw [escapeRegex, List.flatMap_cons, List.append_assoc]
      refine .cons ?_ ih
      split
      case isTrue special =>
        have each : ∀ unit ∈ metacharacters, ∀ rest,
            token groups (92 :: unit :: rest) = some (.atom (unitNode unit), rest) := by
          intro unit special rest
          simp only [metacharacters, List.mem_cons, List.not_mem_nil, or_false] at special
          rcases special with rfl | rfl | rfl | rfl | rfl | rfl | rfl | rfl | rfl | rfl | rfl | rfl
            | rfl | rfl <;> rfl
        exact each unit special _
      case isFalse plain =>
        simp only [metacharacters, List.mem_cons, List.not_mem_nil, or_false, not_or] at plain
        rw [List.singleton_append, token]
        · simp only [quantifierOrUnit, bounds, plain, if_false]
          rfl
        all_goals
          rintro rfl
          simp at plain

/-- A group around a source that reads alone. -/
theorem lexed_group {groups : Nat} {source rest : JsString} {read later : List Token}
    (lexed : Lexed groups source read) (head : source.head? ≠ some 63)
    (more : Lexed groups rest later)
    : Lexed groups (40 :: source ++ 41 :: rest)
        (.opening .capturing :: read ++ .closing :: later) := by
  refine .cons ?_ (lexed.closedBy (.cons rfl more))
  cases source with
  | nil => rfl
  | cons unit source =>
      have other : unit ≠ 63 := by rintro rfl; exact head rfl
      exact if_neg other

/-- The optional slash and the end. -/
def closingNodes : List Node := [.repeated (unitNode 47) 0 (some 1) true, .finish]

theorem lexed_closing (groups : Nat)
    : Lexed groups (js "\\/?$")
        [.atom (unitNode 47), .quantifier 0 (some 1) true, .assertion .finish] :=
  .cons rfl (.cons rfl (.cons rfl .nil))

-----------------------------------------------------------------------------------------
-- The tree of a route
-----------------------------------------------------------------------------------------

/-- The nodes of a route: literal units, one numbered group for each parameter, and the end. -/
def routeNodes : Nat → List (JsString × JsString) → List Node → JsString → List Node
  | index, (literal, _) :: params, tree :: trees, last =>
      literal.map unitNode ++ .group index tree :: routeNodes (index + 1) params trees last
  | _, _, _, last => last.map unitNode ++ closingNodes

/-- A parameter whose group spells this tree where the route has so many groups. -/
def Spells (patterns : ParamPatterns) (groups : Nat) (param : JsString × JsString) (tree : Node)
    : Prop :=
  ∃ source, paramGroup patterns param.2 = some (40 :: source ++ [41])
    ∧ capturesNothing [] source = true ∧ treeOf groups source = some tree

/-- A reading outside all groups, in the first alternative. -/
def outermost (terms : List (Node × Bool)) (captures : Nat) : Reading :=
  { groups := [], frame := { alternatives := [], terms }, captures }

def termsOf (nodes : List Node) : List (Node × Bool) :=
  (nodes.map (fun node => (node, true))).reverse

theorem run_append (reading : Reading) (front back : List Token)
    : reading.run (front ++ back) = (reading.run front).bind (fun middle => middle.run back) := by
  rw [Reading.run, List.foldlM_append]
  rfl

theorem run_atoms (terms : List (Node × Bool)) (captures : Nat) (literal : JsString)
    : (outermost terms captures).run (literal.map (fun unit => .atom (unitNode unit)))
      = some (outermost (termsOf (literal.map unitNode) ++ terms) captures) := by
  induction literal generalizing terms with
  | nil => rfl
  | cons unit literal ih =>
      have onward := ih ((unitNode unit, true) :: terms)
      rw [List.map_cons, Reading.run, List.foldlM_cons]
      refine onward.trans ?_
      simp [termsOf]

/-- A group that captures nothing inside becomes one numbered term. -/
theorem run_group {groups : Nat} {source : JsString} {tree : Node}
    (spelled : treeOf groups source = some tree) (quiet : capturesNothing [] source = true)
    (terms : List (Node × Bool)) (captures : Nat)
    : ∃ read, Lexed groups source read ∧ .opening .capturing ∉ read
      ∧ (outermost terms captures).run (.opening .capturing :: read ++ [.closing])
        = some (outermost ((.group (captures + 1) tree, true) :: terms) (captures + 1)) := by
  obtain ⟨read, after, lexed, ran, closed, rfl⟩ := treeOf_eq_some_iff.mp spelled
  have plain := not_mem_of_capturesNothing lexed quiet
  refine ⟨read, lexed, plain, ?_⟩
  let outer : OpenGroup :=
    {
      kind := .capturing
      index := captures + 1
      outside := { alternatives := [], terms }
    }
  obtain ⟨inside, -⟩ := run_inside plain ran [outer] (captures + 1)
  have opened : (outermost terms captures).step (.opening .capturing)
      = some (Reading.initial.inside [outer] (captures + 1)) := rfl
  have shut : (after.inside [outer] (captures + 1)).run [.closing]
      = some
        (outermost ((.group (captures + 1) after.frame.tree, true) :: terms)
          (captures + 1)) := by
    rw [Reading.inside, closed]
    rfl
  rw [List.cons_append, Reading.run, List.foldlM_cons, opened, Option.bind_eq_bind,
    Option.bind_some, List.foldlM_append]
  have middle : List.foldlM Reading.step (Reading.initial.inside [outer] (captures + 1)) read
      = some (after.inside [outer] (captures + 1)) := inside
  rw [middle]
  exact shut

theorem count_atoms (literal : JsString)
    : (literal.map (fun unit => Token.atom (unitNode unit))).count (.opening .capturing) = 0 :=
  List.count_eq_zero.mpr (by simp)

/-- The nodes of the terms that have been read, in their order. -/
def nodesOf (terms : List (Node × Bool)) : List Node := (terms.map Prod.fst).reverse

/-- The text behind the caret, whatever terms stand before it. -/
theorem exists_lexed_parts {patterns : ParamPatterns} {groups : Nat}
    {params : List (JsString × JsString)} {trees : List Node}
    (each : List.Forall₂ (Spells patterns groups) params trees) {parts : JsString}
    (joined : paramParts patterns params = some parts) (last : JsString)
    (terms : List (Node × Bool)) (captures : Nat)
    : ∃ read terms', Lexed groups (parts ++ (escapeRegex last ++ js "\\/?$")) read
      ∧ read.count (.opening .capturing) = params.length
      ∧ (outermost terms captures).run read = some (outermost terms' (captures + params.length))
      ∧ nodesOf terms' = nodesOf terms ++ routeNodes (captures + 1) params trees last := by
  induction each generalizing parts terms captures with
  | nil =>
      cases joined
      refine
        ⟨_, (.finish, false) :: (.repeated (unitNode 47) 0 (some 1) true, false)
            :: (termsOf (last.map unitNode) ++ terms),
          lexed_escapeRegex (lexed_closing groups) last, ?_, ?_, ?_⟩
      · rw [List.count_append, count_atoms]
        rfl
      · rw [run_append, run_atoms]
        rfl
      · simp [nodesOf, termsOf, routeNodes, closingNodes]
  | @cons param tree params trees spells _ ih =>
      obtain ⟨literal, name⟩ := param
      obtain ⟨source, grouped, quiet, spelled⟩ := spells
      simp only [paramParts, Option.bind_eq_bind, Option.bind_eq_some_iff] at joined
      obtain ⟨group, here, rest, joined, whole⟩ := joined
      cases here.symm.trans grouped
      cases whole
      obtain ⟨inside, lexed, plain, ran⟩ :=
        run_group spelled quiet (termsOf (literal.map unitNode) ++ terms) captures
      obtain ⟨read, terms', lexed_rest, counted, ran_rest, nodes⟩ :=
        ih joined ((.group (captures + 1) tree, true) :: (termsOf (literal.map unitNode) ++ terms))
          (captures + 1)
      refine
        ⟨literal.map (fun unit => .atom (unitNode unit))
            ++ (.opening .capturing :: inside ++ .closing :: read), terms', ?_, ?_, ?_, ?_⟩
      · have text := lexed_escapeRegex
          (lexed_group lexed (head?_of_treeOf spelled) lexed_rest) literal
        simpa using text
      · rw [List.cons_append, List.count_append, count_atoms, List.count_cons_self,
          List.count_append, List.count_eq_zero.mpr plain,
          List.count_cons_of_ne (show Token.closing ≠ .opening .capturing by decide), counted,
          List.length_cons, Nat.zero_add, Nat.zero_add]
      · rw [run_append, run_atoms, Option.bind_some]
        have split_here : (.opening .capturing :: inside ++ .closing :: read : List Token)
            = (.opening .capturing :: inside ++ [.closing]) ++ read := by simp
        rw [split_here, run_append, ran, Option.bind_some, ran_rest, List.length_cons]
        congr 2
        omega
      · rw [nodes]
        simp [nodesOf, termsOf, routeNodes]

/-- What a route compiles to. -/
theorem newRegExp_route {patterns : ParamPatterns} {params : List (JsString × JsString)}
    {counted trees : List Node} (first : List.Forall₂ (Spells patterns 0) params counted)
    (each : List.Forall₂ (Spells patterns params.length) params trees) {parts : JsString}
    (joined : paramParts patterns params = some parts) (last : JsString)
    : newRegExp (94 :: parts ++ escapeRegex last ++ js "\\/?$")
      = some (seqOf (.start :: routeNodes 1 params trees last)) := by
  obtain ⟨read, -, lexed, count, -⟩ := exists_lexed_parts first joined last [] 0
  obtain ⟨read', terms, lexed', -, ran, nodes⟩ :=
    exists_lexed_parts each joined last [(.start, false)] 0
  have caret {groups : Nat} {text : JsString} {later : List Token} (more : Lexed groups text later)
      : Lexed groups (94 :: text) (.assertion .start :: later) :=
    .cons rfl more
  have counts : tokens 0 (94 :: (parts ++ (escapeRegex last ++ js "\\/?$")))
      = some (.assertion .start :: read) :=
    tokens_eq_some_iff.mpr (caret lexed)
  have started : Reading.initial.run (.assertion .start :: read')
      = some (outermost terms (0 + params.length)) := by
    rw [Reading.run, List.foldlM_cons]
    exact ran
  have whole : treeOf params.length (94 :: (parts ++ (escapeRegex last ++ js "\\/?$")))
      = some (seqOf (.start :: routeNodes 1 params trees last)) := by
    refine treeOf_eq_some_iff.mpr ⟨_, _, caret lexed', started, rfl, ?_⟩
    exact congrArg seqOf nodes
  have number : (Token.assertion .start :: read).count (.opening .capturing) = params.length := by
    rw [List.count_cons_of_ne (by decide), count]
  rw [List.cons_append, List.cons_append, List.append_assoc, newRegExp, counts, Option.bind_eq_bind,
    Option.bind_some, number]
  exact whole

/-- What the probe of a pattern compiles to. -/
theorem anchored_eq {source : JsString} {tree : Node} (spelled : treeOf 0 source = some tree)
    (quiet : capturesNothing [] source = true)
    : anchored source = some (seqOf [.start, tree, .finish]) := by
  obtain ⟨read, after, lexed, ran, closed, rfl⟩ := treeOf_eq_some_iff.mp spelled
  have plain := not_mem_of_capturesNothing lexed quiet
  let outer : OpenGroup :=
    { kind := .plain, index := 0, outside := Frame.fresh.push .start false }
  obtain ⟨inside, -⟩ := run_inside plain ran [outer] 0
  have whole : Lexed 0 (94 :: 40 :: 63 :: 58 :: (source ++ 41 :: [36]))
      (.assertion .start :: .opening .plain :: (read ++ [.closing, .assertion .finish])) :=
    .cons rfl (.cons rfl (lexed.closedBy (.cons rfl (.cons rfl .nil))))
  have text : js "^(?:" ++ source ++ js ")$" = 94 :: 40 :: 63 :: 58 :: (source ++ 41 :: [36]) := by
    rw [List.append_assoc]
    rfl
  have middle : List.foldlM Reading.step (Reading.initial.inside [outer] 0) read
      = some (after.inside [outer] 0) := inside
  have ends : Reading.initial.run
        (.assertion .start :: .opening .plain :: (read ++ [.closing, .assertion .finish]))
      = some (outermost [(.finish, false), (after.frame.tree, true), (.start, false)] 0) := by
    rw [Reading.run, List.foldlM_cons, Reading.step, Option.bind_eq_bind, Option.bind_some,
      List.foldlM_cons]
    change List.foldlM Reading.step (Reading.initial.inside [outer] 0) _ = _
    rw [List.foldlM_append, middle, Reading.inside, closed]
    rfl
  have number : (.assertion .start :: .opening .plain :: (read ++ [.closing, .assertion .finish])
      : List Token).count (.opening .capturing) = 0 :=
    List.count_eq_zero.mpr (by simpa using plain)
  rw [anchored, text, newRegExp, tokens_eq_some_iff.mpr whole, Option.bind_eq_bind,
    Option.bind_some, number]
  exact treeOf_eq_some_iff.mpr ⟨_, _, whole, ends, rfl, rfl⟩

end StellarOnramp.GatewayHttp.Routes
