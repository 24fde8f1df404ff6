import StellarOnramp.Library.JsText

/-! Regular expressions without flags, as trees: what a tree matches from a place in a text, in
the order in which the backtracking search comes to it.
-/

namespace RegularExpressions

open JsText

-----------------------------------------------------------------------------------------
-- Sets of units
-----------------------------------------------------------------------------------------

/-- The sets with an escape of their own: `\d`, `\s` and `\w`. -/
inductive UnitKind where
  | digit
  | space
  | word
  deriving DecidableEq

def isWordUnit (unit : UInt16) : Bool :=
  isDigit unit || (65 ≤ unit && unit ≤ 90) || (97 ≤ unit && unit ≤ 122) || unit == 95

def UnitKind.has : UnitKind → UInt16 → Bool
  | .digit => isDigit
  | .space => isWhiteSpace
  | .word => isWordUnit

/-- An entry of a character class. -/
inductive ClassItem where
  | range (low high : UInt16)
  | escape (kind : UnitKind) (negated : Bool)
  deriving DecidableEq

def ClassItem.has : ClassItem → UInt16 → Bool
  | .range low high, unit => low ≤ unit && unit ≤ high
  | .escape kind negated, unit => kind.has unit != negated

/-- What matches one unit. -/
inductive UnitSet where
  /-- `.`: all but the ends of lines. -/
  | any
  | listed (negated : Bool) (items : List ClassItem)
  deriving DecidableEq

def UnitSet.has : UnitSet → UInt16 → Bool
  | .any, unit => !(unit == 10 || unit == 13 || unit == 0x2028 || unit == 0x2029)
  | .listed negated items, unit => items.any (fun item => item.has unit) != negated

/-- The one unit itself. -/
def UnitSet.one (unit : UInt16) : UnitSet := .listed false [.range unit unit]

@[simp]
theorem UnitSet.has_one (unit other : UInt16)
    : (UnitSet.one unit).has other = true ↔ other = unit := by
  have between : (UnitSet.one unit).has other = true ↔ unit ≤ other ∧ other ≤ unit := by
    simp [UnitSet.one, UnitSet.has, ClassItem.has]
  rw [between]
  constructor
  · rintro ⟨low, high⟩
    exact UInt16.le_antisymm high low
  · rintro rfl
    exact ⟨UInt16.le_refl _, UInt16.le_refl _⟩

-----------------------------------------------------------------------------------------
-- Trees
-----------------------------------------------------------------------------------------

inductive Node where
  | empty
  | single (units : UnitSet)
  | seq (first later : Node)
  | alt (left right : Node)
  | group (index : Nat) (body : Node)
  /-- `(?=…)` and `(?!…)` -/
  | look (negated : Bool) (body : Node)
  | repeated (body : Node) (least : Nat) (most : Option Nat) (greedy : Bool)
  /-- `\b` and `\B` -/
  | boundary (negated : Bool)
  | back (index : Nat)
  /-- `^` -/
  | start
  /-- `$` -/
  | finish
  deriving DecidableEq

/-- The groups that a tree captures into. -/
def Node.groups : Node → List Nat
  | .empty | .single _ | .boundary _ | .back _ | .start | .finish => []
  | .seq first later => first.groups ++ later.groups
  | .alt left right => left.groups ++ right.groups
  | .group index body => index :: body.groups
  | .look _ body => body.groups
  | .repeated body _ _ _ => body.groups

/-- Trees one after the other. -/
def seqOf (nodes : List Node) : Node := nodes.foldr .seq .empty

/-- A place in a text, and what the groups have captured on the way. -/
structure State where
  /-- The text before the place, its last unit first. -/
  before : JsString
  rest : JsString
  captures : Nat → Option JsString

/-- The start of a text. -/
def State.initial (text : JsString) : State :=
  { before := [], rest := text, captures := fun _ => none }

/-- Behind so many units. -/
def State.advance (state : State) (count : Nat) : State :=
  { state with
    before := (state.rest.take count).reverse ++ state.before
    rest := state.rest.drop count }

/-- With what a group captures, or with nothing in it. -/
def State.capture (state : State) (index : Nat) (value : Option JsString) : State :=
  { state with captures := fun other => if other = index then value else state.captures other }

/-- With nothing captured in these groups. -/
def State.clear (state : State) (indexes : List Nat) : State :=
  { state with
    captures := fun other => if other ∈ indexes then none else state.captures other }

/-- Between a unit of a word and anything else. -/
def State.atBoundary (state : State) : Bool :=
  state.before.head?.any isWordUnit != state.rest.head?.any isWordUnit

/-- One thing again and again: at least so often, at most so often, and as often as it can be or as
seldom. Once the least is reached, a round that matches nothing counts for nothing.
-/
def iterate (once : State → List State) (greedy : Bool)
    : Nat → Nat → Option Nat → State → List State
  | 0, _, _, _ => []
  | fuel + 1, least, most, state =>
      if most = some 0 then [state]
      else
        let more :=
          (once state).flatMap
            (fun after =>
              if least = 0 ∧ after.rest.length = state.rest.length then []
              else iterate once greedy fuel (least - 1) (most.map (· - 1)) after)
        if least ≠ 0 then more
        else if greedy then more ++ [state]
        else state :: more

/-- The places that a tree leads to, in the order in which they are tried. -/
def Node.run : Node → State → List State
  | .empty, state => [state]
  | .single units, state =>
      match state.rest with
      | [] => []
      | unit :: _ => if units.has unit then [state.advance 1] else []
  | .seq first later, state => (first.run state).flatMap later.run
  | .alt left right, state => left.run state ++ right.run state
  | .group index body, state =>
      (body.run state).map
        (fun after =>
          after.capture index (some (state.rest.take (state.rest.length - after.rest.length))))
  | .look negated body, state =>
      match body.run state with
      | [] => if negated then [state] else []
      | after :: _ => if negated then [] else [{ state with captures := after.captures }]
  | .repeated body least most greedy, state =>
      -- Every round reads something or brings the least nearer.
      iterate (fun place => body.run (place.clear body.groups)) greedy
        (least + state.rest.length + 1) least most state
  | .boundary negated, state => if state.atBoundary != negated then [state] else []
  | .back index, state =>
      match state.captures index with
      | none => [state]
      | some value => if value.isPrefixOf state.rest then [state.advance value.length] else []
  | .start, state => if state.before = [] then [state] else []
  | .finish, state => if state.rest = [] then [state] else []

/-- The first match, from the first place that has one. -/
def Node.exec (node : Node) (text : JsString) : Option State :=
  (List.range (text.length + 1)).findSome?
    (fun count => (node.run ((State.initial text).advance count)).head?)

-----------------------------------------------------------------------------------------
-- From place to place
-----------------------------------------------------------------------------------------

/-- From one place to another with so much text between them. -/
structure Reads (state : State) (value : JsString) (after : State) : Prop where
  rest : state.rest = value ++ after.rest
  before : after.before = value.reverse ++ state.before

theorem Reads.refl (state : State) : Reads state [] state := ⟨rfl, rfl⟩

theorem Reads.trans {state middle after : State} {value more : JsString}
    (first : Reads state value middle) (later : Reads middle more after)
    : Reads state (value ++ more) after := by
  constructor
  · rw [first.rest, later.rest, List.append_assoc]
  · rw [later.before, first.before, List.reverse_append, List.append_assoc]

theorem Reads.length {state after : State} {value : JsString} (reads : Reads state value after)
    : state.rest.length = value.length + after.rest.length := by
  rw [reads.rest, List.length_append]

theorem Reads.advance {state : State} {value rest : JsString} (ahead : state.rest = value ++ rest)
    : Reads state value (state.advance value.length) := by
  constructor
  · rw [State.advance, ahead, List.drop_left]
  · rw [State.advance, ahead, List.take_left]

/-- What was read, as a group captures it. -/
theorem Reads.take {state after : State} {value : JsString} (reads : Reads state value after)
    : state.rest.take (state.rest.length - after.rest.length) = value := by
  rw [reads.length, Nat.add_sub_cancel, reads.rest, List.take_left]

theorem mem_iterate_succ {once : State → List State} {greedy : Bool} {fuel least : Nat}
    {most : Option Nat} {state after : State}
    : after ∈ iterate once greedy (fuel + 1) least most state
      ↔ (most = some 0 ∧ after = state)
        ∨ (most ≠ some 0
          ∧ ((least = 0 ∧ after = state)
            ∨ ∃ middle ∈ once state, ¬ (least = 0 ∧ middle.rest.length = state.rest.length)
              ∧ after ∈ iterate once greedy fuel (least - 1) (most.map (· - 1)) middle)) := by
  rw [iterate]
  by_cases full : most = some 0
  · simp [full]
  · by_cases needed : least = 0 <;> cases greedy <;>
      simp [full, needed, List.mem_flatMap, or_comm]

/-- What every round keeps, the rounds together keep. -/
theorem iterate_rule {kept : State → State → Prop} (refl : ∀ state, kept state state)
    (trans : ∀ state middle after, kept state middle → kept middle after → kept state after)
    {once : State → List State} (round : ∀ state, ∀ after ∈ once state, kept state after)
    {greedy : Bool} (fuel : Nat)
    : ∀ (least : Nat) (most : Option Nat) (state : State),
        ∀ after ∈ iterate once greedy fuel least most state, kept state after := by
  induction fuel with
  | zero =>
      intro least most state after found
      exact absurd found List.not_mem_nil
  | succ fuel ih =>
      intro least most state after found
      rcases mem_iterate_succ.mp found with
        ⟨-, rfl⟩ | ⟨-, ⟨-, rfl⟩ | ⟨middle, here, -, later⟩⟩
      · exact refl _
      · exact refl _
      · exact trans _ _ _ (round _ _ here) (ih _ _ _ _ later)

theorem exists_reads_of_iterate {once : State → List State}
    (round : ∀ state, ∀ after ∈ once state, ∃ value, Reads state value after) {greedy : Bool}
    {fuel least : Nat} {most : Option Nat} (state : State)
    : ∀ after ∈ iterate once greedy fuel least most state, ∃ value, Reads state value after :=
  @iterate_rule (fun state after => ∃ value, Reads state value after)
    (fun place => ⟨[], .refl place⟩)
    (fun _ _ _ ⟨_, first⟩ ⟨_, later⟩ => ⟨_, first.trans later⟩) _ round _ _ _ _ state

/-- A test leaves the place as it is. -/
theorem mem_test {holds : Prop} [Decidable holds] {state after : State}
    : after ∈ (if holds then [state] else []) ↔ holds ∧ after = state := by
  by_cases test : holds <;> simp [test]

/-- A set reads one of its units. -/
theorem mem_run_single {units : UnitSet} {state after : State}
    : after ∈ (Node.single units).run state
      ↔ ∃ unit rest, state.rest = unit :: rest ∧ units.has unit = true
        ∧ after = state.advance 1 := by
  change after ∈ (match state.rest with
    | [] => []
    | unit :: _ => if units.has unit then [state.advance 1] else []) ↔ _
  split
  case h_1 ended => simp [ended]
  case h_2 unit rest ahead =>
    by_cases fits : units.has unit = true <;> simp [ahead, fits]

/-- A look around stays where it is, with what was captured while looking if it keeps that. -/
theorem look_cases {negated : Bool} {body : Node} {state after : State}
    (found : after ∈ (Node.look negated body).run state)
    : after = state
      ∨ ∃ inside ∈ body.run state, after = { state with captures := inside.captures } := by
  change after ∈ (match body.run state with
    | [] => if negated then [state] else []
    | inside :: _ => if negated then [] else [{ state with captures := inside.captures }]) at found
  split at found
  case h_1 => exact .inl (mem_test.mp found).2
  case h_2 inside _ here =>
    split at found
    case isTrue => cases found
    case isFalse => exact .inr ⟨inside, here ▸ List.mem_cons_self, List.mem_singleton.mp found⟩

/-- A reference reads what its group has captured, if anything. -/
theorem back_cases {index : Nat} {state after : State}
    (found : after ∈ (Node.back index).run state)
    : after = state
      ∨ ∃ value rest, state.rest = value ++ rest ∧ after = state.advance value.length := by
  change after ∈ (match state.captures index with
    | none => [state]
    | some value =>
        if value.isPrefixOf state.rest then [state.advance value.length] else []) at found
  split at found
  case h_1 => exact .inl (List.mem_singleton.mp found)
  case h_2 value _ =>
    split at found
    case isTrue ahead =>
      obtain ⟨rest, ahead⟩ := List.isPrefixOf_iff_prefix.mp ahead
      exact .inr ⟨value, rest, ahead.symm, List.mem_singleton.mp found⟩
    case isFalse => cases found

/-- A tree leads on through the text. -/
theorem exists_reads (node : Node) (state : State)
    : ∀ after ∈ node.run state, ∃ value, Reads state value after := by
  induction node generalizing state with
  | empty =>
      intro after found
      rw [List.mem_singleton.mp found]
      exact ⟨[], .refl state⟩
  | single units =>
      intro after found
      obtain ⟨unit, rest, ahead, -, rfl⟩ := mem_run_single.mp found
      exact ⟨[unit], @Reads.advance _ [unit] rest ahead⟩
  | seq first later first_ih later_ih =>
      intro after found
      obtain ⟨middle, here, there⟩ := List.mem_flatMap.mp found
      obtain ⟨value, reads⟩ := first_ih state middle here
      obtain ⟨more, reads_more⟩ := later_ih middle after there
      exact ⟨_, reads.trans reads_more⟩
  | alt left right left_ih right_ih =>
      intro after found
      rcases List.mem_append.mp found with here | here
      · exact left_ih state after here
      · exact right_ih state after here
  | group index body ih =>
      intro after found
      obtain ⟨inside, here, rfl⟩ := List.mem_map.mp found
      obtain ⟨value, reads⟩ := ih state inside here
      exact ⟨value, reads.rest, reads.before⟩
  | look negated body _ =>
      intro after found
      rcases look_cases found with rfl | ⟨inside, -, rfl⟩
      · exact ⟨[], .refl after⟩
      · exact ⟨[], rfl, rfl⟩
  | repeated body least most greedy ih =>
      refine exists_reads_of_iterate ?_ state
      intro place after found
      obtain ⟨value, reads⟩ := ih _ after found
      exact ⟨value, reads.rest, reads.before⟩
  | boundary negated | start | finish =>
      intro after found
      rw [(mem_test.mp found).2]
      exact ⟨[], .refl state⟩
  | back index =>
      intro after found
      rcases back_cases found with rfl | ⟨value, rest, ahead, rfl⟩
      · exact ⟨[], .refl after⟩
      · exact ⟨value, .advance ahead⟩

/-- A tree leaves alone what the other groups have captured. -/
theorem captures_of_run (node : Node) (state : State) {index : Nat} (other : index ∉ node.groups)
    : ∀ after ∈ node.run state, after.captures index = state.captures index := by
  induction node generalizing state with
  | empty =>
      intro after found
      rw [List.mem_singleton.mp found]
  | single units =>
      intro after found
      obtain ⟨unit, rest, -, -, rfl⟩ := mem_run_single.mp found
      rfl
  | seq first later first_ih later_ih =>
      intro after found
      rw [Node.groups, List.mem_append, not_or] at other
      obtain ⟨middle, here, there⟩ := List.mem_flatMap.mp found
      rw [later_ih middle other.2 after there, first_ih state other.1 middle here]
  | alt left right left_ih right_ih =>
      intro after found
      rw [Node.groups, List.mem_append, not_or] at other
      rcases List.mem_append.mp found with here | here
      · exact left_ih state other.1 after here
      · exact right_ih state other.2 after here
  | group own body ih =>
      intro after found
      rw [Node.groups, List.mem_cons, not_or] at other
      obtain ⟨inside, here, rfl⟩ := List.mem_map.mp found
      rw [← ih state other.2 inside here, State.capture]
      exact if_neg other.1
  | look negated body ih =>
      intro after found
      rcases look_cases found with rfl | ⟨inside, here, rfl⟩
      · rfl
      · exact ih state other inside here
  | repeated body least most greedy ih =>
      intro after found
      refine
        @iterate_rule (fun state after => after.captures index = state.captures index)
          (fun _ => rfl) (fun _ _ _ first later => later.trans first) _ ?_ _ _ _ _ state after found
      intro place after here
      rw [ih _ other after here, State.clear]
      exact if_neg other
  | boundary negated | start | finish =>
      intro after found
      rw [(mem_test.mp found).2]
  | back own =>
      intro after found
      rcases back_cases found with rfl | ⟨value, rest, -, rfl⟩
      · rfl
      · rfl

-----------------------------------------------------------------------------------------
-- Units again and again
-----------------------------------------------------------------------------------------

@[simp]
theorem State.clear_nil (state : State) : state.clear [] = state := by
  simp [State.clear]

/-- A single unit captures nothing, so its rounds clear nothing. -/
theorem run_repeated_single {units : UnitSet} {least : Nat} {most : Option Nat} {greedy : Bool}
    {state : State}
    : (Node.repeated (.single units) least most greedy).run state
      = iterate (Node.single units).run greedy (least + state.rest.length + 1) least most
          state := by
  refine congrArg (iterate · greedy _ least most state) ?_
  exact funext fun place => congrArg (Node.single units).run (State.clear_nil place)

/-- Units of a set, at least so many of them. -/
theorem exists_run_repeated_single {units : UnitSet} {greedy : Bool} {least : Nat} {state : State}
    {value rest : JsString} (ahead : state.rest = value ++ rest)
    : (∃ after ∈ (Node.repeated (.single units) least none greedy).run state, after.rest = rest)
      ↔ value.all units.has = true ∧ least ≤ value.length := by
  have rounds : ∀ (fuel least : Nat) (state : State) (value : JsString),
      state.rest = value ++ rest → least + state.rest.length < fuel →
      ((∃ after ∈ iterate (Node.single units).run greedy fuel least none state, after.rest = rest)
        ↔ value.all units.has = true ∧ least ≤ value.length) := by
    intro fuel
    induction fuel with
    | zero => intro least state value _ enough; omega
    | succ fuel ih =>
        intro least state value ahead enough
        have onward {unit : UInt16} {tail : JsString} (starts : state.rest = unit :: tail)
            : (state.advance 1).rest = tail ∧ least - 1 + (state.advance 1).rest.length < fuel := by
          have drop : (state.advance 1).rest = tail := by rw [State.advance, starts]; rfl
          rw [starts, List.length_cons] at enough
          exact ⟨drop, by rw [drop]; omega⟩
        constructor
        · rintro ⟨after, found, ends⟩
          rcases mem_iterate_succ.mp found with
            ⟨full, -⟩ | ⟨-, ⟨rfl, rfl⟩ | ⟨middle, here, -, later⟩⟩
          · cases full
          · rw [ends, List.self_eq_append_left] at ahead
            subst ahead
            exact ⟨rfl, Nat.le_refl _⟩
          · obtain ⟨unit, tail, starts, fits, rfl⟩ := mem_run_single.mp here
            obtain ⟨drop, less⟩ := onward starts
            obtain ⟨more, reads⟩ :=
              exists_reads_of_iterate (fun place => exists_reads _ place) _ after later
            have tail_eq : tail = more ++ rest := by rw [← drop, reads.rest, ends]
            have whole : value = unit :: more := by
              apply List.append_cancel_right
              rw [← ahead, starts, tail_eq, List.cons_append]
            obtain ⟨all_fit, counted⟩ :=
              (ih (least - 1) _ more (drop.trans tail_eq) less).mp ⟨after, later, ends⟩
            subst whole
            refine ⟨?_, ?_⟩
            · rw [List.all_cons, fits, all_fit, Bool.and_self]
            · rw [List.length_cons]
              omega
        · rintro ⟨fits, counted⟩
          cases value with
          | nil =>
              have none_needed : least = 0 := Nat.le_zero.mp counted
              exact ⟨state, mem_iterate_succ.mpr (.inr ⟨nofun, .inl ⟨none_needed, rfl⟩⟩), ahead⟩
          | cons unit value =>
              obtain ⟨drop, less⟩ := onward ahead
              rw [List.all_cons, Bool.and_eq_true] at fits
              rw [List.length_cons] at counted
              obtain ⟨after, later, ends⟩ :=
                (ih (least - 1) _ value drop less).mpr ⟨fits.2, by omega⟩
              refine ⟨after, mem_iterate_succ.mpr (.inr ⟨nofun, .inr ⟨_, ?_, ?_, later⟩⟩), ends⟩
              · exact mem_run_single.mpr ⟨unit, _, ahead, fits.1, rfl⟩
              · rintro ⟨-, same⟩
                rw [drop, ahead, List.cons_append, List.length_cons] at same
                exact Nat.succ_ne_self _ same.symm
  rw [run_repeated_single]
  exact rounds _ least state value ahead (Nat.lt_succ_self _)

/-- One unit of a set, or none. -/
theorem exists_run_optional {units : UnitSet} {greedy : Bool} {state : State} {rest : JsString}
    : (∃ after ∈ (Node.repeated (.single units) 0 (some 1) greedy).run state, after.rest = rest)
      ↔ state.rest = rest ∨ ∃ unit, units.has unit = true ∧ state.rest = unit :: rest := by
  rw [run_repeated_single]
  constructor
  · rintro ⟨after, found, ends⟩
    rcases mem_iterate_succ.mp found with
      ⟨full, -⟩ | ⟨-, ⟨-, rfl⟩ | ⟨middle, here, -, later⟩⟩
    · cases full
    · exact .inl ends
    · obtain ⟨unit, tail, ahead, fits, rfl⟩ := mem_run_single.mp here
      rw [ahead, List.length_cons, Nat.zero_add] at later
      rcases mem_iterate_succ.mp later with ⟨-, rfl⟩ | ⟨more, -⟩
      · rw [State.advance, ahead] at ends
        exact .inr ⟨unit, fits, ahead.trans (congrArg (unit :: ·) ends)⟩
      · exact absurd rfl more
  · rintro (ends | ⟨unit, fits, ahead⟩)
    · exact ⟨state, mem_iterate_succ.mpr (.inr ⟨nofun, .inl ⟨rfl, rfl⟩⟩), ends⟩
    · have drop : (state.advance 1).rest = rest := by rw [State.advance, ahead]; rfl
      refine
        ⟨state.advance 1,
          mem_iterate_succ.mpr (.inr ⟨nofun, .inr ⟨state.advance 1, ?_, ?_, ?_⟩⟩), drop⟩
      · exact mem_run_single.mpr ⟨unit, rest, ahead, fits, rfl⟩
      · rintro ⟨-, same⟩
        rw [drop, ahead, List.length_cons] at same
        exact Nat.succ_ne_self _ same.symm
      · rw [ahead, List.length_cons, Nat.zero_add]
        exact mem_iterate_succ.mpr (.inl ⟨rfl, rfl⟩)

-----------------------------------------------------------------------------------------
-- Trees that see nothing but what they read
-----------------------------------------------------------------------------------------

/-- No look around, no group, no anchor, and nothing that reads the barred unit. -/
def Node.plain (barred : UInt16) : Node → Bool
  | .empty => true
  | .single units => !units.has barred
  | .seq first later => first.plain barred && later.plain barred
  | .alt left right => left.plain barred && right.plain barred
  | .repeated body _ _ _ => body.plain barred
  | _ => false

section

variable {barred : UInt16}

/-- A plain tree reads no barred unit. -/
theorem plain_reads {node : Node} (plain : node.plain barred = true) (state : State)
    : ∀ after ∈ node.run state, ∃ value, Reads state value after ∧ barred ∉ value := by
  induction node generalizing state with
  | empty =>
      intro after found
      rw [List.mem_singleton.mp found]
      exact ⟨[], .refl state, List.not_mem_nil⟩
  | single units =>
      intro after found
      obtain ⟨unit, rest, ahead, fits, rfl⟩ := mem_run_single.mp found
      refine ⟨[unit], @Reads.advance _ [unit] rest ahead, ?_⟩
      rw [List.mem_singleton]
      rintro rfl
      have outside : (!units.has barred) = true := plain
      rw [fits] at outside
      cases outside
  | seq first later first_ih later_ih =>
      intro after found
      replace plain := Bool.and_eq_true_iff.mp plain
      obtain ⟨middle, here, there⟩ := List.mem_flatMap.mp found
      obtain ⟨value, reads, clean⟩ := first_ih plain.1 state middle here
      obtain ⟨more, reads_more, clean_more⟩ := later_ih plain.2 middle after there
      refine ⟨_, reads.trans reads_more, ?_⟩
      rw [List.mem_append, not_or]
      exact ⟨clean, clean_more⟩
  | alt left right left_ih right_ih =>
      intro after found
      replace plain := Bool.and_eq_true_iff.mp plain
      rcases List.mem_append.mp found with here | here
      · exact left_ih plain.1 state after here
      · exact right_ih plain.2 state after here
  | repeated body least most greedy ih =>
      refine
        @iterate_rule (fun state after => ∃ value, Reads state value after ∧ barred ∉ value)
          (fun place => ⟨[], .refl place, List.not_mem_nil⟩) ?_ _ ?_ _ _ _ _ state
      · rintro _ _ _ ⟨value, first, clean⟩ ⟨more, later, clean_more⟩
        exact ⟨_, first.trans later, by rw [List.mem_append, not_or]; exact ⟨clean, clean_more⟩⟩
      · intro place after found
        obtain ⟨value, reads, clean⟩ := ih plain _ after found
        exact ⟨value, ⟨reads.rest, reads.before⟩, clean⟩
  | group | look | boundary | back | start | finish => cases plain

/-- What follows the stretch that is read may be exchanged, round after round. -/
theorem iterate_elsewhere {once : State → List State} {tail other : JsString}
    (shorter : ∀ state, ∀ after ∈ once state, ∃ value, Reads state value after)
    (round : ∀ (here there : State) (value : JsString),
      here.rest = value ++ tail → there.rest = value ++ other →
      ∀ after ∈ once here, ∀ left, after.rest = left ++ tail →
        ∃ after' ∈ once there, after'.rest = left ++ other) {greedy : Bool} (fuel : Nat)
    : ∀ (fuel' least : Nat) (most : Option Nat) (here there : State) (value : JsString),
      here.rest = value ++ tail → there.rest = value ++ other →
      least + there.rest.length < fuel' →
      ∀ after ∈ iterate once greedy fuel least most here, ∀ left, after.rest = left ++ tail →
        ∃ after' ∈ iterate once greedy fuel' least most there, after'.rest = left ++ other := by
  induction fuel with
  | zero =>
      intro _ _ _ _ _ _ _ _ _ after found
      exact absurd found List.not_mem_nil
  | succ fuel ih =>
      intro fuel' least most here there value ahead ahead' enough after found left ends
      obtain ⟨fuel', rfl⟩ := Nat.exists_eq_add_one_of_ne_zero (Nat.ne_zero_of_lt enough)
      have stays (same : after = here) : there.rest = left ++ other := by
        rw [same, ahead] at ends
        rw [ahead', List.append_cancel_right ends]
      rcases mem_iterate_succ.mp found with
        ⟨full, same⟩ | ⟨more, ⟨done, same⟩ | ⟨middle, first, forward, later⟩⟩
      · exact ⟨there, mem_iterate_succ.mpr (.inl ⟨full, rfl⟩), stays same⟩
      · exact ⟨there, mem_iterate_succ.mpr (.inr ⟨more, .inl ⟨done, rfl⟩⟩), stays same⟩
      · obtain ⟨stretch, reads⟩ := exists_reads_of_iterate shorter middle after later
        have halfway : middle.rest = (stretch ++ left) ++ tail := by
          rw [reads.rest, ends, List.append_assoc]
        obtain ⟨middle', first', halfway'⟩ :=
          round here there value ahead ahead' middle first _ halfway
        obtain ⟨step, reads'⟩ := shorter there middle' first'
        have lengths := reads'.length
        have forward' : ¬ (least = 0 ∧ middle'.rest.length = there.rest.length) := by
          rintro ⟨done, same⟩
          have even : (stretch ++ left).length = value.length := by
            rw [halfway', ahead', @List.length_append _ (stretch ++ left),
              @List.length_append _ value] at same
            exact Nat.add_right_cancel same
          apply forward
          rw [halfway, ahead, @List.length_append _ (stretch ++ left), even, List.length_append]
          exact ⟨done, rfl⟩
        obtain ⟨after', later', ends'⟩ :=
          ih fuel' (least - 1) _ middle middle' _ halfway halfway' (by omega) after later left ends
        exact
          ⟨after', mem_iterate_succ.mpr (.inr ⟨more, .inr ⟨middle', first', forward', later'⟩⟩),
            ends'⟩

/-- A plain tree reads a stretch whatever stands before and behind it. -/
theorem plain_elsewhere {node : Node} (plain : node.plain barred = true) {tail other : JsString}
    : ∀ (here there : State) (value : JsString),
      here.rest = value ++ tail → there.rest = value ++ other →
      ∀ after ∈ node.run here, ∀ left, after.rest = left ++ tail →
        ∃ after' ∈ node.run there, after'.rest = left ++ other := by
  induction node with
  | empty =>
      intro here there value ahead ahead' after found left ends
      rw [List.mem_singleton.mp found, ahead] at ends
      exact ⟨there, List.mem_singleton_self _, by rw [ahead', List.append_cancel_right ends]⟩
  | single units =>
      intro here there value ahead ahead' after found left ends
      obtain ⟨unit, rest, starts, fits, rfl⟩ := mem_run_single.mp found
      have drop : rest = left ++ tail := by rw [← ends, State.advance, starts]; rfl
      have whole : value = unit :: left := by
        apply List.append_cancel_right
        rw [← ahead, starts, drop, List.cons_append]
      subst whole
      refine ⟨_, mem_run_single.mpr ⟨unit, left ++ other, ahead', fits, rfl⟩, ?_⟩
      rw [State.advance, ahead']
      rfl
  | seq first later first_ih later_ih =>
      intro here there value ahead ahead' after found left ends
      replace plain := Bool.and_eq_true_iff.mp plain
      obtain ⟨middle, front, back⟩ := List.mem_flatMap.mp found
      obtain ⟨stretch, reads⟩ := exists_reads later middle after back
      have halfway : middle.rest = (stretch ++ left) ++ tail := by
        rw [reads.rest, ends, List.append_assoc]
      obtain ⟨middle', front', halfway'⟩ :=
        first_ih plain.1 here there value ahead ahead' middle front _ halfway
      obtain ⟨after', back', ends'⟩ :=
        later_ih plain.2 middle middle' _ halfway halfway' after back left ends
      exact ⟨after', List.mem_flatMap.mpr ⟨middle', front', back'⟩, ends'⟩
  | alt first later first_ih later_ih =>
      intro here there value ahead ahead' after found left ends
      replace plain := Bool.and_eq_true_iff.mp plain
      rcases List.mem_append.mp found with side | side
      · obtain ⟨after', found', ends'⟩ :=
          first_ih plain.1 here there value ahead ahead' after side left ends
        exact ⟨after', List.mem_append_left _ found', ends'⟩
      · obtain ⟨after', found', ends'⟩ :=
          later_ih plain.2 here there value ahead ahead' after side left ends
        exact ⟨after', List.mem_append_right _ found', ends'⟩
  | repeated body least most greedy ih =>
      intro here there value ahead ahead'
      have round (place : State)
          : ∀ after ∈ body.run (place.clear body.groups), ∃ value, Reads place value after := by
        intro after found
        obtain ⟨value, reads⟩ := exists_reads body _ after found
        exact ⟨value, reads.rest, reads.before⟩
      exact
        iterate_elsewhere round (fun here there => ih plain (here.clear _) (there.clear _)) _ _ _ _
          here there value ahead ahead' (Nat.lt_succ_self _)
  | group | look | boundary | back | start | finish => cases plain

/-- A stretch is read in its place as it is read alone. -/
theorem plain_run_iff {node : Node} (plain : node.plain barred = true) {state : State}
    {value rest : JsString} (ahead : state.rest = value ++ rest)
    : (∃ after ∈ node.run state, after.rest = rest)
      ↔ ∃ after ∈ node.run (State.initial value), after.rest = [] := by
  have alone : (State.initial value).rest = value ++ [] := (List.append_nil value).symm
  constructor
  · rintro ⟨after, found, ends⟩
    obtain ⟨after', found', ends'⟩ :=
      plain_elsewhere plain state _ value ahead alone after found [] ends
    exact ⟨after', found', ends'⟩
  · rintro ⟨after, found, ends⟩
    obtain ⟨after', found', ends'⟩ :=
      plain_elsewhere plain _ state value alone ahead after found [] ends
    exact ⟨after', found', ends'⟩

end

/-- An expression that starts with `^` matches from the start or not at all. -/
theorem exec_start (node : Node) (text : JsString)
    : (Node.seq .start node).exec text = (node.run (State.initial text)).head? := by
  have here : (Node.seq .start node).run (State.initial text) = node.run (State.initial text) := by
    simp [Node.run, State.initial]
  have elsewhere : ∀ count ∈ List.range' 1 text.length,
      ((Node.seq .start node).run ((State.initial text).advance count)).head? = none := by
    intro count member
    obtain ⟨inside, bound⟩ := List.mem_range'_1.mp member
    have moved : ((State.initial text).advance count).before ≠ [] := by
      cases text with
      | nil => simp at bound; omega
      | cons unit rest =>
          obtain ⟨count, rfl⟩ := Nat.exists_eq_add_one_of_ne_zero (show count ≠ 0 by omega)
          simp [State.advance, State.initial]
    simp [Node.run, moved]
  rw [Node.exec, List.range_eq_range', List.range'_succ, List.findSome?_cons]
  have none_later := List.findSome?_eq_none_iff.mpr elsewhere
  have first : ((Node.seq .start node).run ((State.initial text).advance 0)).head?
      = (node.run (State.initial text)).head? := congrArg List.head? here
  rw [first, none_later]
  cases (node.run (State.initial text)).head? <;> rfl

end RegularExpressions
