import Mathlib.Data.List.Dedup
import Mathlib.Data.Set.List
import StellarOnramp.Library.Calendar
import StellarOnramp.Library.ObjectWalk

/-! Contract error codes read back out of a thrown value: out of its message, its `error` field,
its diagnostic events, its chain of causes and its `String()` form. A code is decoded where the
text collected names exactly one.
-/

namespace StellarOnramp.Gateway.Chain

open Calendar JsText ObjectWalk Octets

-----------------------------------------------------------------------------------------
-- Thrown values
-----------------------------------------------------------------------------------------

/-- A value as a program can throw it. Any other value than a string or an object has the text
that `String()` gives of it, `none` where that conversion throws.
-/
inductive Thrown (Ref : Type) where
  | null
  | undefined
  | str (text : JsString)
  | other (text : Option JsString)
  | object (ref : Ref)
  deriving DecidableEq

/-- What the search reads of an object. A field that it does not have is undefined, `cause` is
`none` where the object has none, and `elements` are those of an array.
-/
structure ThrownObject (Ref : Type) where
  message : Thrown Ref
  error : Thrown Ref
  diagnosticEventsXdr : Thrown Ref
  events : Thrown Ref
  cause : Option (Thrown Ref)
  elements : Option (List (Thrown Ref))
  text : Option JsString

variable {Ref : Type}

/-- The text of a field that holds a string. -/
def Thrown.ownText : Thrown Ref → List (Action (Thrown Ref) (Option JsString))
  | .str text => [.emit (some text)]
  | _ => []

/-- `left ?? right` -/
def Thrown.orElse : Thrown Ref → Thrown Ref → Thrown Ref
  | .null, right => right
  | .undefined, right => right
  | left, _ => left

/-- The elements of an array, and nothing of another value. -/
def Thrown.elements (objects : Ref → ThrownObject Ref) : Thrown Ref → List (Thrown Ref)
  | .object ref => (objects ref).elements.getD []
  | _ => []

/-- One call of `candidateStrings` on a value: the texts it pushes, and the calls it makes. -/
def errorWalk (objects : Ref → ThrownObject Ref) : Walk (Thrown Ref) (Option JsString) where
  tracked
    | .object _ => true
    | _ => false
  actions
    | .null => []
    | .undefined => []
    | .str text => [.emit (some text)]
    | .other text => [.emit text]
    | .object ref =>
        let fields := objects ref
        fields.message.ownText
          ++ fields.error.ownText
          ++ ((fields.diagnosticEventsXdr.orElse fields.events).elements objects).map .visit
          ++ fields.cause.toList.map .visit
          ++ [.emit fields.text]

/-- A call at depth 8 is the last. -/
def searchLevels : Nat := 9

/-- The texts of a thrown value; `none` where a `String()` on the way throws. -/
def candidateStrings [DecidableEq Ref] (objects : Ref → ThrownObject Ref) (err : Thrown Ref)
    : Option (List JsString) :=
  ((errorWalk objects).collect searchLevels [] err).1.mapM id

-----------------------------------------------------------------------------------------
-- Codes
-----------------------------------------------------------------------------------------

/-- `/Error\(Contract,\s*#(\d+)\)/` at the start of a text, with the number of its group. -/
def contractErrorAt (text : JsString) : Option Nat := do
  let opening := js "Error(Contract,"
  let number ←
    if opening.isPrefixOf text then
      readUnit 35 ((text.drop opening.length).dropWhile isWhiteSpace)
    else
      none
  let _ ← readUnit 41 (number.dropWhile isDigit)
  let digits := number.takeWhile isDigit
  if digits = [] then none else some (digitsValue digits)

/-- The numbers of all matches in a text. No match starts inside another, so the search can go
on at the next unit.
-/
def contractErrorNumbers : JsString → List Nat
  | [] => []
  | unit :: rest => (contractErrorAt (unit :: rest)).toList ++ contractErrorNumbers rest

/-- A larger number is not read exactly, and is left out. -/
def safeNumberBound : Nat := 2 ^ 53

/-- The one code that the texts name; the outer `none` is a conversion that throws. -/
def decodeContractErrorCode [DecidableEq Ref] (objects : Ref → ThrownObject Ref)
    (err : Thrown Ref)
    : Option (Option Nat) := do
  let texts ← candidateStrings objects err
  let codes := (texts.flatMap contractErrorNumbers).filter (· < safeNumberBound)
  match codes.dedup with
  | [only] => return some only
  | _ => return none

-----------------------------------------------------------------------------------------
-- What a thrown value names
-----------------------------------------------------------------------------------------

/-- A text at one of the places has the code. -/
def NamedAt (objects : Ref → ThrownObject Ref) (places : List (Thrown Ref)) (code : Nat) : Prop :=
  ∃ place ∈ places,
    ∃ text,
      .emit (some text) ∈ (errorWalk objects).actions place
      ∧ code ∈ contractErrorNumbers text

/-- Every value at the places gives its text. -/
def Legible (objects : Ref → ThrownObject Ref) (places : List (Thrown Ref)) : Prop :=
  ∀ place ∈ places, .emit none ∉ (errorWalk objects).actions place

/-- The code is named within eight steps, on whatever route, and no other is. -/
def NamesOnly (objects : Ref → ThrownObject Ref) (err : Thrown Ref) (code : Nat) : Prop :=
  NamedAt objects ((errorWalk objects).places (8 + 1) err) code
  ∧ ∀ other, NamedAt objects ((errorWalk objects).places (8 + 1) err) other → other = code

/-- A route of at most eight steps leads to a value that names the code, and no object on it
lies so far away on another one that the rest of the route would go past eight steps.
-/
def SurelyNamed (objects : Ref → ThrownObject Ref) (err : Thrown Ref) (code : Nat) : Prop :=
  ∃ place, (errorWalk objects).Sure (8 + 1) err 0 place ∧ NamedAt objects [place] code

theorem mapM_id_eq_some {parts : List (Option JsString)} {texts : List JsString}
    : parts.mapM id = some texts ↔ parts = texts.map some := by
  induction parts generalizing texts with
  | nil => cases texts <;> simp
  | cons part rest ih =>
      cases texts with
      | nil => cases part <;> simp [List.mapM_cons, Option.bind_eq_some_iff]
      | cons text texts =>
          cases part <;> simp [List.mapM_cons, Option.bind_eq_some_iff, ih, and_comm]

theorem dedup_eq_singleton {codes : List Nat} {code : Nat}
    : codes.dedup = [code] ↔ code ∈ codes ∧ ∀ other ∈ codes, other = code := by
  constructor
  · intro single
    have members : ∀ other, other ∈ codes ↔ other = code := fun other => by
      rw [← List.mem_dedup, single, List.mem_singleton]
    exact ⟨(members code).mpr rfl, fun other => (members other).mp⟩
  · rintro ⟨named, alone⟩
    refine List.perm_singleton.mp ?_
    refine (List.perm_ext_iff_of_nodup codes.nodup_dedup (List.nodup_singleton code)).mpr ?_
    intro other
    rw [List.mem_dedup, List.mem_singleton]
    exact ⟨alone other, fun same => same ▸ named⟩

section

variable [DecidableEq Ref] {objects : Ref → ThrownObject Ref} {err : Thrown Ref} {code : Nat}

/-- The texts come back exactly where every value that the search enters gives its own. -/
theorem exists_candidateStrings
    : (∃ texts, candidateStrings objects err = some texts)
      ↔ Legible objects ((errorWalk objects).entered searchLevels err) := by
  constructor
  · rintro ⟨texts, read⟩ place entered unreadable
    have lost : none ∈ ((errorWalk objects).collect searchLevels [] err).1 :=
      Walk.mem_collect_iff.mpr ⟨place, entered, unreadable⟩
    rw [mapM_id_eq_some.mp read] at lost
    simp at lost
  · intro legible
    have given
        : ((errorWalk objects).collect searchLevels [] err).1 ∈ Set.range (List.map some) := by
      rw [Set.range_list_map]
      intro part found
      refine Option.ne_none_iff_exists.mp ?_
      rintro rfl
      obtain ⟨place, entered, unreadable⟩ := Walk.mem_collect_iff.mp found
      exact legible place entered unreadable
    obtain ⟨texts, same⟩ := given
    exact ⟨texts, mapM_id_eq_some.mpr same.symm⟩

theorem namedAt_entered {texts : List JsString} (read : candidateStrings objects err = some texts)
    : code ∈ texts.flatMap contractErrorNumbers
      ↔ NamedAt objects ((errorWalk objects).entered searchLevels err) code := by
  have found (text : JsString)
      : text ∈ texts
        ↔ ∃ place ∈ (errorWalk objects).entered searchLevels err,
            .emit (some text) ∈ (errorWalk objects).actions place := by
    rw [← Walk.mem_collect_iff, mapM_id_eq_some.mp read]
    simp
  simp only [List.mem_flatMap, found, NamedAt]
  constructor
  · rintro ⟨text, ⟨place, entered, pushed⟩, named⟩
    exact ⟨place, entered, text, pushed, named⟩
  · rintro ⟨place, entered, text, pushed, named⟩
    exact ⟨text, ⟨place, entered, pushed⟩, named⟩

/-- What the decoder answers: the one code below the bound that is named where the search came.
-/
theorem decodeContractErrorCode_eq_some
    : decodeContractErrorCode objects err = some (some code)
      ↔ Legible objects ((errorWalk objects).entered searchLevels err)
        ∧ code < safeNumberBound
        ∧ NamedAt objects ((errorWalk objects).entered searchLevels err) code
        ∧ ∀ other < safeNumberBound,
            NamedAt objects ((errorWalk objects).entered searchLevels err) other
            → other = code := by
  rw [← exists_candidateStrings]
  cases read : candidateStrings objects err with
  | none => simp [decodeContractErrorCode, read]
  | some texts =>
      have single
          : decodeContractErrorCode objects err = some (some code)
            ↔ ((texts.flatMap contractErrorNumbers).filter (· < safeNumberBound)).dedup
                = [code] := by
        simp only [decodeContractErrorCode, read, Option.bind_eq_bind, Option.bind_some]
        split
        · next only same => simp [same]
        · next several =>
            simp only [Option.pure_def, Option.some.injEq, reduceCtorEq, false_iff]
            exact several code
      simp only [single, dedup_eq_singleton, List.mem_filter, decide_eq_true_eq,
        namedAt_entered read, Option.some.injEq, exists_eq', true_and]
      constructor
      · rintro ⟨⟨named, small⟩, alone⟩
        exact ⟨small, named, fun other bound here => alone other ⟨here, bound⟩⟩
      · rintro ⟨small, named, alone⟩
        exact ⟨⟨named, small⟩, fun other here => alone other here.2 here.1⟩

end

end StellarOnramp.Gateway.Chain
