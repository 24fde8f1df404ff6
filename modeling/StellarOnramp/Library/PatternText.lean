import StellarOnramp.Library.RegularExpressions

/-! The text of a regular expression without flags, read as the language reads it outside its
Unicode modes: first into tokens, then into a tree.
-/

namespace RegularExpressions

open JsText

-----------------------------------------------------------------------------------------
-- Escapes
-----------------------------------------------------------------------------------------

/-- Exactly so many hexadecimal digits. -/
def hexRun : Nat → Nat → JsString → Option (Nat × JsString)
  | 0, value, text => some (value, text)
  | _ + 1, _, [] => none
  | count + 1, value, unit :: rest =>
      match hexValue unit with
      | some digit => hexRun count (value * 16 + digit.toNat) rest
      | none => none

def isOctalDigit (unit : UInt16) : Bool := 48 ≤ unit && unit ≤ 55

/-- Octal digits, at most so many. -/
def octalRun : Nat → Nat → JsString → Nat × JsString
  | 0, value, text => (value, text)
  | _ + 1, value, [] => (value, [])
  | count + 1, value, unit :: rest =>
      if isOctalDigit unit then octalRun count (value * 8 + (unit.toNat - 48)) rest
      else (value, unit :: rest)

def isLetter (unit : UInt16) : Bool := (65 ≤ unit && unit ≤ 90) || (97 ≤ unit && unit ≤ 122)

/-- `\f`, `\n`, `\r`, `\t` and `\v`. -/
def controlEscapes : List (UInt16 × UInt16) :=
  [(102, 12), (110, 10), (114, 13), (116, 9), (118, 11)]

/-- `\c` and a letter, or the backslash alone. -/
def controlLetter : JsString → UInt16 × JsString
  | [] => (92, [99])
  | letter :: rest => if isLetter letter then (letter % 32, rest) else (92, 99 :: letter :: rest)

/-- `\x` and two hexadecimal digits or `\u` and four, or the letter alone. -/
def hexEscape (unit : UInt16) (rest : JsString) : UInt16 × JsString :=
  match hexRun (if unit = 120 then 2 else 4) 0 rest with
  | some (value, rest) => (UInt16.ofNat value, rest)
  | none => (unit, rest)

def octalEscape (unit : UInt16) (rest : JsString) : UInt16 × JsString :=
  let run := octalRun (if unit ≤ 51 then 3 else 2) 0 (unit :: rest)
  (UInt16.ofNat run.1, run.2)

/-- The one unit that a backslash before this one stands for. -/
def characterEscape (unit : UInt16) (rest : JsString) : UInt16 × JsString :=
  match controlEscapes.lookup unit with
  | some value => (value, rest)
  | none =>
      if unit = 99 then controlLetter rest
      else if isOctalDigit unit then octalEscape unit rest
      else if unit = 120 ∨ unit = 117 then hexEscape unit rest
      else (unit, rest)

/-- `\d`, `\D`, `\s`, `\S`, `\w` and `\W`. -/
def kindEscapes : List (UInt16 × UnitKind × Bool) :=
  [
    (100, .digit, false),
    (68, .digit, true),
    (115, .space, false),
    (83, .space, true),
    (119, .word, false),
    (87, .word, true)
  ]

/-- A number that names one of so many groups. -/
def backReference (groups : Nat) (unit : UInt16) (rest : JsString) : Option (Nat × JsString) :=
  let digits := (unit :: rest).takeWhile isDigit
  if unit ≠ 48 ∧ digits ≠ [] ∧ digitsValue digits ≤ groups then
    some (digitsValue digits, (unit :: rest).dropWhile isDigit)
  else
    none

-----------------------------------------------------------------------------------------
-- Character classes
-----------------------------------------------------------------------------------------

/-- `\c` in a class, where a digit or a low line may follow as well. -/
def classControl (unit : UInt16) : JsString → Option (UInt16 × JsString)
  | [] => none
  | control :: rest =>
      if unit = 99 ∧ (isDigit control = true ∨ control = 95) then some (control % 32, rest)
      else none

/-- An escape in a class. A number there never names a group. -/
def classEscape (unit : UInt16) (rest : JsString) : ClassItem × JsString :=
  if unit = 98 then
    (.range 8 8, rest)
  else
    match kindEscapes.lookup unit with
    | some (kind, negated) => (.escape kind negated, rest)
    | none =>
        let found := (classControl unit rest).getD (characterEscape unit rest)
        (.range found.1 found.1, found.2)

def classAtom : JsString → Option (ClassItem × JsString)
  | [] => none
  | unit :: rest =>
      if unit = 92 then rest.head?.map (fun escaped => classEscape escaped rest.tail)
      else some (.range unit unit, rest)

/-- Two atoms with a hyphen between them; a hyphen beside an escaped set is only itself. -/
def classRange : ClassItem → ClassItem → Option (List ClassItem)
  | .range low _, .range high _ => if low ≤ high then some [.range low high] else none
  | first, last => some [first, .range 45 45, last]

/-- The entries of a class, to its closing bracket. A hyphen before the bracket is itself. -/
def classItems : Nat → JsString → Option (List ClassItem × JsString)
  | 0, _ => none
  | _ + 1, [] => none
  | fuel + 1, unit :: later =>
      if unit = 93 then
        some ([], later)
      else
        match classAtom (unit :: later) with
        | none => none
        | some (first, rest) =>
            if rest.head? = some 45 ∧ rest.tail.head? ≠ some 93 then
              match classAtom rest.tail with
              | none => none
              | some (last, rest) =>
                  match classRange first last, classItems fuel rest with
                  | some entries, some (more, rest) => some (entries ++ more, rest)
                  | _, _ => none
            else
              match classItems fuel rest with
              | some (more, rest) => some (first :: more, rest)
              | none => none

/-- A class, behind its opening bracket. -/
def characterClass (text : JsString) : Option (UnitSet × JsString) :=
  let negated : Bool := text.head? = some 94
  let text := if negated then text.tail else text
  (classItems (text.length + 1) text).map (fun found => (.listed negated found.1, found.2))

-----------------------------------------------------------------------------------------
-- Tokens
-----------------------------------------------------------------------------------------

def closingBrace (least : Nat) (most : Option Nat)
    : JsString → Option ((Nat × Option Nat) × JsString)
  | [] => none
  | unit :: rest => if unit = 125 then some ((least, most), rest) else none

/-- `n}`, `n,}` and `n,m}`, behind the opening brace. -/
def braced (text : JsString) : Option ((Nat × Option Nat) × JsString) :=
  let digits := text.takeWhile isDigit
  let least := digitsValue digits
  if digits = [] then
    none
  else
    match text.dropWhile isDigit with
    | [] => none
    | unit :: rest =>
        if unit = 44 then
          let most := rest.takeWhile isDigit
          closingBrace least (if most = [] then none else some (digitsValue most))
            (rest.dropWhile isDigit)
        else
          closingBrace least (some least) (unit :: rest)

/-- How often: `*`, `+`, `?`, or braces. -/
def bounds (unit : UInt16) (rest : JsString) : Option ((Nat × Option Nat) × JsString) :=
  if unit = 42 then some ((0, none), rest)
  else if unit = 43 then some ((1, none), rest)
  else if unit = 63 then some ((0, some 1), rest)
  else if unit = 123 then braced rest
  else none

inductive GroupKind where
  | capturing
  | plain
  | look (negated : Bool)
  deriving DecidableEq

inductive Token where
  /-- What a quantifier may follow. -/
  | atom (node : Node)
  | assertion (node : Node)
  | quantifier (least : Nat) (most : Option Nat) (greedy : Bool)
  | opening (kind : GroupKind)
  | closing
  | bar
  deriving DecidableEq

/-- What a backslash before this unit begins. -/
def escape (groups : Nat) (unit : UInt16) (rest : JsString) : Token × JsString :=
  if unit = 98 ∨ unit = 66 then
    (.assertion (.boundary (unit == 66)), rest)
  else
    match kindEscapes.lookup unit, backReference groups unit rest with
    | some (kind, negated), _ => (.atom (.single (.listed false [.escape kind negated])), rest)
    | none, some (index, rest) => (.atom (.back index), rest)
    | none, none =>
        let found := characterEscape unit rest
        (.atom (.single (.one found.1)), found.2)

/-- `(?:`, `(?=` and `(?!`. A lookbehind and a named group are not read: the router takes no text
that has one.
-/
def groupKinds : List (UInt16 × GroupKind) := [(58, .plain), (61, .look false), (33, .look true)]

def groupOpening : JsString → Option (Token × JsString)
  | [] => none
  | unit :: rest => (groupKinds.lookup unit).map (fun kind => (.opening kind, rest))

/-- What an opening parenthesis begins. -/
def opening : JsString → Option (Token × JsString)
  | [] => some (.opening .capturing, [])
  | unit :: rest =>
      if unit = 63 then groupOpening rest else some (.opening .capturing, unit :: rest)

/-- A quantifier of these bounds, lazy where a question mark follows. -/
def quantifier (bounds : Nat × Option Nat) : JsString → Token × JsString
  | [] => (.quantifier bounds.1 bounds.2 true, [])
  | unit :: rest =>
      if unit = 63 then (.quantifier bounds.1 bounds.2 false, rest)
      else (.quantifier bounds.1 bounds.2 true, unit :: rest)

/-- A quantifier, or a unit that stands for itself. -/
def quantifierOrUnit (unit : UInt16) (rest : JsString) : Token × JsString :=
  match bounds unit rest with
  | some (bounds, rest) => quantifier bounds rest
  | none => (.atom (.single (.one unit)), rest)

/-- The first token of a text, where the whole has so many groups. -/
def token (groups : Nat) : JsString → Option (Token × JsString)
  | [] => none
  | 36 :: rest => some (.assertion .finish, rest)
  | 40 :: rest => opening rest
  | 41 :: rest => some (.closing, rest)
  | 46 :: rest => some (.atom (.single .any), rest)
  | 91 :: rest => (characterClass rest).map (fun found => (.atom (.single found.1), found.2))
  | 92 :: rest => rest.head?.map (fun unit => escape groups unit rest.tail)
  | 94 :: rest => some (.assertion .start, rest)
  | 124 :: rest => some (.bar, rest)
  | unit :: rest => some (quantifierOrUnit unit rest)

def tokensWithin (groups : Nat) : Nat → JsString → Option (List Token)
  | _, [] => some []
  | 0, _ :: _ => none
  | fuel + 1, unit :: rest => do
      let (first, rest) ← token groups (unit :: rest)
      let more ← tokensWithin groups fuel rest
      some (first :: more)

def tokens (groups : Nat) (text : JsString) : Option (List Token) :=
  tokensWithin groups text.length text

-----------------------------------------------------------------------------------------
-- Trees
-----------------------------------------------------------------------------------------

/-- What has been read of a disjunction: its finished alternatives and the terms of the next
one, the last first, each with whether a quantifier may follow it.
-/
structure Frame where
  alternatives : List Node
  terms : List (Node × Bool)
  deriving DecidableEq

def Frame.fresh : Frame := { alternatives := [], terms := [] }

def Frame.push (frame : Frame) (node : Node) (quantifiable : Bool) : Frame :=
  { frame with terms := (node, quantifiable) :: frame.terms }

def Frame.alternative (frame : Frame) : Node := seqOf (frame.terms.map Prod.fst).reverse

def Frame.tree (frame : Frame) : Node :=
  frame.alternatives.foldl (fun later earlier => .alt earlier later) frame.alternative

/-- A group that has been opened: its kind, its number where it captures, and what stands before
it.
-/
structure OpenGroup where
  kind : GroupKind
  index : Nat
  outside : Frame
  deriving DecidableEq

def OpenGroup.close (group : OpenGroup) (body : Node) : Frame :=
  match group.kind with
  | .capturing => group.outside.push (.group group.index body) true
  | .plain => group.outside.push body true
  | .look negated => group.outside.push (.look negated body) true

structure Reading where
  groups : List OpenGroup
  frame : Frame
  captures : Nat
  deriving DecidableEq

def Reading.initial : Reading := { groups := [], frame := .fresh, captures := 0 }

def Reading.step (reading : Reading) : Token → Option Reading
  | .atom node => some { reading with frame := reading.frame.push node true }
  | .assertion node => some { reading with frame := reading.frame.push node false }
  | .quantifier least most greedy =>
      match reading.frame.terms with
      | (node, true) :: terms =>
          if most.any (fun most => most < least) then
            none
          else
            some
              { reading with
                frame :=
                  { reading.frame with
                    terms := (.repeated node least most greedy, false) :: terms } }
      | _ => none
  | .opening kind =>
      let captures := if kind = .capturing then reading.captures + 1 else reading.captures
      let index := if kind = .capturing then captures else 0
      some
        {
          groups := { kind, index, outside := reading.frame } :: reading.groups
          frame := .fresh
          captures
        }
  | .closing =>
      match reading.groups with
      | [] => none
      | group :: groups => some { reading with groups, frame := group.close reading.frame.tree }
  | .bar =>
      some
        { reading with
          frame :=
            {
              alternatives := reading.frame.alternative :: reading.frame.alternatives
              terms := []
            } }

/-- Token after token. -/
def Reading.run (reading : Reading) (read : List Token) : Option Reading :=
  read.foldlM Reading.step reading

/-- The tree of a text, where the whole has so many groups. -/
def treeOf (groups : Nat) (text : JsString) : Option Node := do
  let read ← tokens groups text
  let reading ← Reading.initial.run read
  if reading.groups = [] then some reading.frame.tree else none

/-- `new RegExp(source)`; `none` where it throws. -/
def newRegExp (source : JsString) : Option Node := do
  let read ← tokens 0 source
  treeOf (read.count (.opening .capturing)) source

/-- `regex.test(text)` -/
def Node.test (node : Node) (text : JsString) : Bool := (node.exec text).isSome

end RegularExpressions
