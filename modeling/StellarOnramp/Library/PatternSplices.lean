import StellarOnramp.Library.PatternText

/-! What stands between parentheses in a regular expression reads as it reads alone, as long as it
opens no capturing group.
-/

namespace RegularExpressions

open JsText

-----------------------------------------------------------------------------------------
-- A parenthesis behind the text
-----------------------------------------------------------------------------------------

/-- What is found in a text, where a closing parenthesis and more stand behind it. -/
def closedBy {Found : Type} (tail : JsString) (found : Found × JsString) : Found × JsString :=
  (found.1, found.2 ++ 41 :: tail)

section

variable {tail : JsString}

/-- Hexadecimal digits end before a parenthesis, by induction on those still to come. -/
theorem hexRun_closedBy (count value : Nat) (text : JsString)
    : hexRun count value (text ++ 41 :: tail)
      = (hexRun count value text).map (closedBy tail) := by
  induction count generalizing value text with
  | zero => rfl
  | succ count ih =>
      cases text with
      | nil => rfl
      | cons unit rest =>
          rw [List.cons_append, hexRun, hexRun]
          cases hexValue unit with
          | none => rfl
          | some digit => exact ih _ rest

/-- Octal digits end before a parenthesis, by induction on those still to come. -/
theorem octalRun_closedBy (count value : Nat) (text : JsString)
    : octalRun count value (text ++ 41 :: tail) = closedBy tail (octalRun count value text) := by
  induction count generalizing value text with
  | zero => rfl
  | succ count ih =>
      cases text with
      | nil => rfl
      | cons unit rest =>
          rw [List.cons_append, octalRun, octalRun]
          split
          · exact ih _ rest
          · rfl

/-- So do decimal digits. -/
theorem takeWhile_closedBy (text : JsString)
    : (text ++ 41 :: tail).takeWhile isDigit = text.takeWhile isDigit
      ∧ (text ++ 41 :: tail).dropWhile isDigit = text.dropWhile isDigit ++ 41 :: tail := by
  induction text with
  | nil => exact ⟨rfl, rfl⟩
  | cons unit rest ih => cases digit : isDigit unit <;> simp [digit, ih]

/-- An escape of one unit never reaches the parenthesis behind the text. -/
theorem characterEscape_closedBy (unit : UInt16) (rest : JsString)
    : characterEscape unit (rest ++ 41 :: tail) = closedBy tail (characterEscape unit rest) := by
  unfold characterEscape
  cases controlEscapes.lookup unit with
  | some value => rfl
  | none =>
      dsimp only
      split
      · cases rest with
        | nil => rfl
        | cons letter more =>
            rw [List.cons_append, controlLetter, controlLetter]
            split <;> rfl
      · split
        · rw [octalEscape, octalEscape, ← List.cons_append, octalRun_closedBy]
          rfl
        · split
          · rw [hexEscape, hexEscape, hexRun_closedBy]
            cases hexRun (if unit = 120 then 2 else 4) 0 rest <;> rfl
          · rfl

/-- A back reference is the digits behind its backslash. -/
theorem backReference_closedBy (groups : Nat) (unit : UInt16) (rest : JsString)
    : backReference groups unit (rest ++ 41 :: tail)
      = (backReference groups unit rest).map (closedBy tail) := by
  obtain ⟨taken, dropped⟩ := @takeWhile_closedBy tail (unit :: rest)
  rw [List.cons_append] at taken dropped
  rw [backReference, backReference, taken, dropped]
  split <;> rfl

/-- An escape inside a class, where `\c` takes digits too. -/
theorem classEscape_closedBy (unit : UInt16) (rest : JsString)
    : classEscape unit (rest ++ 41 :: tail) = closedBy tail (classEscape unit rest) := by
  have control : classControl unit (rest ++ 41 :: tail)
      = (classControl unit rest).map (closedBy tail) := by
    cases rest with
    | nil => simp [classControl, isDigit]
    | cons control more =>
        rw [List.cons_append, classControl, classControl]
        split <;> rfl
  unfold classEscape
  rw [control, characterEscape_closedBy]
  split
  · rfl
  · cases kindEscapes.lookup unit with
    | some found => rfl
    | none => cases classControl unit rest <;> rfl

/-- A single entry of a class. -/
theorem classAtom_closedBy {text rest : JsString} {item : ClassItem}
    (found : classAtom text = some (item, rest))
    : classAtom (text ++ 41 :: tail) = some (item, rest ++ 41 :: tail) := by
  cases text with
  | nil => cases found
  | cons unit later =>
      rw [classAtom] at found
      rw [List.cons_append, classAtom]
      split at found
      case isTrue backslash =>
        rw [if_pos backslash]
        cases later with
        | nil => cases found
        | cons escaped later =>
            have plainly := @classEscape_closedBy tail escaped later
            rw [show classEscape escaped later = (item, rest) from Option.some.inj found] at plainly
            exact congrArg some plainly
      case isFalse other =>
        rw [if_neg other]
        cases found
        rfl

theorem head?_closedBy {text : JsString} (started : text ≠ [])
    : (text ++ 41 :: tail).head? = text.head? := by
  obtain ⟨unit, rest, rfl⟩ := List.exists_cons_of_ne_nil started
  rfl

/-- A class that is not closed is none. -/
theorem classItems_nil (fuel : Nat) : classItems fuel [] = none := by
  cases fuel <;> rfl

/-- A hyphen does not close a class. -/
theorem classItems_hyphen (fuel : Nat) : classItems fuel [45] = none := by
  cases fuel with
  | zero => rfl
  | succ fuel => simp [classItems, classAtom, classItems_nil]

/-- The entries of a closed class, by induction on the fuel. A hyphen before the parenthesis would
make a range that the text alone does not have, but then the class is not closed either.
-/
theorem classItems_closedBy {fuel fuel' : Nat} {text rest : JsString} {items : List ClassItem}
    (enough : fuel ≤ fuel') (found : classItems fuel text = some (items, rest))
    : classItems fuel' (text ++ 41 :: tail) = some (items, rest ++ 41 :: tail) := by
  induction fuel generalizing fuel' text rest items with
  | zero => cases found
  | succ fuel ih =>
      obtain ⟨fuel', rfl⟩ := Nat.exists_eq_add_one_of_ne_zero (Nat.ne_zero_of_lt enough)
      have fewer : fuel ≤ fuel' := Nat.le_of_succ_le_succ enough
      cases text with
      | nil => cases found
      | cons unit later =>
          rw [classItems] at found
          rw [List.cons_append, classItems]
          split at found
          case isTrue bracket =>
            rw [if_pos bracket]
            cases found
            rfl
          case isFalse other =>
            rw [if_neg other]
            split at found
            case h_1 => cases found
            case h_2 first middle here =>
              rw [← List.cons_append, classAtom_closedBy here]
              dsimp only
              cases middle with
              | nil =>
                  simp [classItems_nil] at found
              | cons next middle =>
                  rw [List.cons_append, List.head?_cons, List.tail_cons]
                  rw [List.head?_cons, List.tail_cons] at found
                  split at found
                  case isTrue hyphen =>
                    split at found
                    case h_1 => cases found
                    case h_2 last after there =>
                      have started : middle ≠ [] := by rintro rfl; cases there
                      rw [if_pos (by rwa [head?_closedBy started]), classAtom_closedBy there]
                      split at found
                      case h_1 entries more remaining ranged rest_items =>
                        cases found
                        simp only [ranged, ih fewer rest_items]
                      case h_2 => cases found
                  case isFalse plain =>
                    split at found
                    case h_1 more remaining rest_items =>
                      cases found
                      have shut
                          : ¬ (some next = some 45 ∧ (middle ++ 41 :: tail).head? ≠ some 93) := by
                        cases middle with
                        | nil =>
                            rintro ⟨dash, -⟩
                            rw [Option.some.inj dash, classItems_hyphen] at rest_items
                            cases rest_items
                        | cons => exact plain
                      rw [if_neg shut, ← List.cons_append, ih fewer rest_items]
                    case h_2 => cases found

/-- A class is read as it is read alone. -/
theorem characterClass_closedBy {text rest : JsString} {units : UnitSet}
    (found : characterClass text = some (units, rest))
    : characterClass (text ++ 41 :: tail) = some (units, rest ++ 41 :: tail) := by
  cases text with
  | nil => cases found
  | cons unit later =>
      rw [characterClass, Option.map_eq_some_iff] at found
      obtain ⟨⟨items, remaining⟩, entries, pair⟩ := found
      cases pair
      rw [characterClass]
      by_cases caret : unit = 94
      · simp only [caret, List.cons_append, List.head?_cons, decide_true, if_true, List.tail_cons]
          at entries ⊢
        rw [classItems_closedBy (by simp) entries]
        rfl
      · simp only [caret, List.cons_append, List.head?_cons, Option.some.injEq, decide_false,
          Bool.false_eq_true, if_false] at entries ⊢
        rw [← List.cons_append, classItems_closedBy (by simp) entries]
        rfl

theorem closingBrace_closedBy (least : Nat) (most : Option Nat) (text : JsString)
    : closingBrace least most (text ++ 41 :: tail)
      = (closingBrace least most text).map (closedBy tail) := by
  cases text with
  | nil => rfl
  | cons unit rest =>
      rw [List.cons_append, closingBrace, closingBrace]
      split <;> rfl

/-- Counted bounds: digits, perhaps a comma and more digits, and a brace. -/
theorem braced_closedBy (text : JsString)
    : braced (text ++ 41 :: tail) = (braced text).map (closedBy tail) := by
  obtain ⟨taken, dropped⟩ := @takeWhile_closedBy tail text
  rw [braced, braced, taken, dropped]
  dsimp only
  split
  · rfl
  · cases text.dropWhile isDigit with
    | nil => rfl
    | cons unit later =>
        obtain ⟨taken, dropped⟩ := @takeWhile_closedBy tail later
        rw [List.cons_append]
        dsimp only
        split
        · rw [taken, dropped, closingBrace_closedBy]
        · rw [← List.cons_append, closingBrace_closedBy]

/-- A quantifier with its question mark, or a unit that stands for itself. -/
theorem quantifierOrUnit_closedBy (unit : UInt16) (rest : JsString)
    : quantifierOrUnit unit (rest ++ 41 :: tail) = closedBy tail (quantifierOrUnit unit rest) := by
  have bounds_closedBy : bounds unit (rest ++ 41 :: tail)
      = (bounds unit rest).map (closedBy tail) := by
    unfold bounds
    split
    · rfl
    split
    · rfl
    split
    · rfl
    split
    · exact braced_closedBy rest
    · rfl
  rw [quantifierOrUnit, quantifierOrUnit, bounds_closedBy]
  rcases bounds unit rest with _ | ⟨found, remaining⟩
  · rfl
  · cases remaining with
    | nil => rfl
    | cons next later =>
        simp only [Option.map_some, closedBy, List.cons_append, quantifier]
        split <;> rfl

/-- What a backslash starts outside a class. -/
theorem escape_closedBy (groups : Nat) (unit : UInt16) (rest : JsString)
    : escape groups unit (rest ++ 41 :: tail) = closedBy tail (escape groups unit rest) := by
  rw [escape, escape, backReference_closedBy, characterEscape_closedBy]
  split
  · rfl
  · cases kindEscapes.lookup unit with
    | some found => rfl
    | none => cases backReference groups unit rest <;> rfl

/-- The kind of a group is read from the units behind its parenthesis. -/
theorem opening_closedBy {text rest : JsString} {first : Token}
    (found : opening text = some (first, rest))
    : opening (text ++ 41 :: tail) = some (first, rest ++ 41 :: tail) := by
  cases text with
  | nil => cases found; rfl
  | cons unit later =>
      rw [opening] at found
      rw [List.cons_append, opening]
      split at found
      case isTrue question =>
        rw [if_pos question]
        cases later with
        | nil => cases found
        | cons kind later =>
            obtain ⟨known, here, pair⟩ := Option.map_eq_some_iff.mp found
            cases pair
            rw [List.cons_append, groupOpening, here]
            rfl
      case isFalse other =>
        rw [if_neg other]
        cases found
        rfl

/-- A token is read as it is read alone. -/
theorem token_closedBy {groups : Nat} {text rest : JsString} {first : Token}
    (found : token groups text = some (first, rest))
    : token groups (text ++ 41 :: tail) = some (first, rest ++ 41 :: tail) := by
  unfold token at found
  split at found
  case h_1 => cases found
  case h_3 => exact opening_closedBy found
  case h_6 later =>
    obtain ⟨⟨units, remaining⟩, inside, pair⟩ := Option.map_eq_some_iff.mp found
    cases pair
    rw [List.cons_append, token, characterClass_closedBy inside]
    rfl
  case h_7 later =>
    cases later with
    | nil => cases found
    | cons unit later =>
        have plainly := @escape_closedBy tail groups unit later
        rw [show escape groups unit later = (first, rest) from Option.some.inj found] at plainly
        exact congrArg some plainly
  case h_10 unit later _ _ _ _ _ _ _ _ =>
    have plainly := @quantifierOrUnit_closedBy tail unit later
    rw [show quantifierOrUnit unit later = (first, rest) from Option.some.inj found] at plainly
    rw [List.cons_append, token, plainly]
    · rfl
    all_goals assumption
  all_goals cases found; rfl

end

-----------------------------------------------------------------------------------------
-- How far a token goes
-----------------------------------------------------------------------------------------

/-- A text down to the rest, where the last unit that is gone is no backslash. -/
def Ended (text rest : JsString) : Prop := ∃ front last, text = front ++ last :: rest ∧ last ≠ 92

theorem Ended.suffix {text rest : JsString} (ended : Ended text rest) : rest <:+ text := by
  obtain ⟨front, last, rfl, -⟩ := ended
  exact ⟨front ++ [last], by simp⟩

/-- Only the end of what is gone matters. -/
theorem Ended.of_suffix {text later rest : JsString} (ended : Ended later rest)
    (behind : later <:+ text) : Ended text rest := by
  obtain ⟨front, last, rfl, other⟩ := ended
  obtain ⟨before, rfl⟩ := behind
  exact ⟨before ++ front, last, by simp, other⟩

theorem Ended.head {unit : UInt16} (other : unit ≠ 92) (rest : JsString)
    : Ended (unit :: rest) rest :=
  ⟨[], unit, rfl, other⟩

/-- One more unit in front, whether or not more was read behind it. -/
theorem Ended.cons {unit : UInt16} (other : unit ≠ 92) {text rest : JsString}
    (later : rest = text ∨ Ended text rest) : Ended (unit :: text) rest := by
  rcases later with rfl | ended
  · exact .head other rest
  · exact ended.of_suffix (List.suffix_cons unit text)

/-- Digits are no backslashes. -/
theorem ended_dropWhile (text : JsString)
    : text.dropWhile isDigit = text ∨ Ended text (text.dropWhile isDigit) := by
  induction text with
  | nil => exact .inl rfl
  | cons unit rest ih =>
      cases digit : isDigit unit with
      | true =>
          refine .inr ?_
          rw [List.dropWhile_cons_of_pos digit]
          exact .cons (by rintro rfl; simp [isDigit] at digit) ih
      | false => exact .inl (List.dropWhile_cons_of_neg (by simp [digit]))

/-- Octal digits are none either, by induction on those still to come. -/
theorem ended_octalRun (count value : Nat) (text : JsString)
    : (octalRun count value text).2 = text ∨ Ended text (octalRun count value text).2 := by
  induction count generalizing value text with
  | zero => exact .inl rfl
  | succ count ih =>
      cases text with
      | nil => exact .inl rfl
      | cons unit rest =>
          rw [octalRun]
          split
          case isTrue digit =>
            exact .inr (.cons (by rintro rfl; simp [isOctalDigit] at digit) (ih _ rest))
          case isFalse => exact .inl rfl

/-- Nor are hexadecimal digits, by induction on those still to come. -/
theorem ended_hexRun {count value found : Nat} {text rest : JsString}
    (read : hexRun count value text = some (found, rest)) : rest = text ∨ Ended text rest := by
  induction count generalizing value text with
  | zero => cases read; exact .inl rfl
  | succ count ih =>
      cases text with
      | nil => cases read
      | cons unit later =>
          rw [hexRun] at read
          split at read
          case h_1 digit here =>
            exact .inr (.cons (by rintro rfl; simp [hexValue] at here) (ih read))
          case h_2 => cases read

/-- Behind a backslash: on past the unit, or not at all where `\\c` names no letter. -/
theorem characterEscape_rest (unit : UInt16) (rest : JsString)
    : Ended (unit :: rest) (characterEscape unit rest).2
      ∨ (unit = 92 ∧ (characterEscape unit rest).2 = rest)
      ∨ (unit = 99 ∧ (characterEscape unit rest).2 = 99 :: rest) := by
  unfold characterEscape
  split
  case h_1 value control =>
    refine .inl (.head ?_ rest)
    rintro rfl
    cases (show controlEscapes.lookup 92 = none by decide).symm.trans control
  case h_2 =>
    split
    case isTrue letter =>
      cases rest with
      | nil => exact .inr (.inr ⟨letter, rfl⟩)
      | cons next more =>
          rw [controlLetter]
          split
          case isTrue named =>
            refine .inl ⟨[unit], next, rfl, ?_⟩
            rintro rfl
            simp [isLetter] at named
          case isFalse => exact .inr (.inr ⟨letter, rfl⟩)
    case isFalse =>
      split
      case isTrue digit =>
        have other : unit ≠ 92 := by rintro rfl; simp [isOctalDigit] at digit
        refine .inl ?_
        rw [octalEscape]
        split <;> (rw [octalRun, if_pos digit]; exact .cons other (ended_octalRun _ _ rest))
      case isFalse =>
        split
        case isTrue hex =>
          have other : unit ≠ 92 := by rcases hex with rfl | rfl <;> decide
          refine .inl ?_
          rw [hexEscape]
          split
          case h_1 read => exact .cons other (ended_hexRun read)
          case h_2 => exact .head other rest
        case isFalse =>
          by_cases backslash : unit = 92
          · exact .inr (.inl ⟨backslash, rfl⟩)
          · exact .inl (.head backslash rest)

/-- An entry of a class leaves an end of the text. -/
theorem classAtom_suffix {text rest : JsString} {item : ClassItem}
    (found : classAtom text = some (item, rest)) : rest <:+ text := by
  cases text with
  | nil => cases found
  | cons unit later =>
      rw [classAtom] at found
      split at found
      case isTrue =>
        cases later with
        | nil => cases found
        | cons escaped later =>
            have read : classEscape escaped later = (item, rest) := Option.some.inj found
            have inside : (classEscape escaped later).2 <:+ escaped :: later := by
              have plainly : (characterEscape escaped later).2 <:+ escaped :: later := by
                rcases characterEscape_rest escaped later with ended | ⟨-, same⟩ | ⟨rfl, same⟩
                · exact ended.suffix
                · rw [same]
                  exact List.suffix_cons _ _
                · exact same ▸ List.suffix_rfl
              unfold classEscape
              split
              · exact List.suffix_cons _ _
              split
              · exact List.suffix_cons _ _
              · cases later with
                | nil => exact plainly
                | cons control more =>
                    rw [classControl]
                    split
                    · exact (List.suffix_cons _ _).trans (List.suffix_cons _ _)
                    · exact plainly
            rw [read] at inside
            exact inside.trans (List.suffix_cons _ _)
      case isFalse =>
        cases found
        exact List.suffix_cons _ _

/-- A class ends with its bracket, by induction on the fuel. -/
theorem ended_classItems {fuel : Nat} {text rest : JsString} {items : List ClassItem}
    (found : classItems fuel text = some (items, rest)) : Ended text rest := by
  induction fuel generalizing text rest items with
  | zero => cases found
  | succ fuel ih =>
      cases text with
      | nil => cases found
      | cons unit later =>
          rw [classItems] at found
          split at found
          case isTrue bracket =>
            cases found
            exact .head (by rw [bracket]; decide) rest
          case isFalse =>
            split at found
            case h_1 => cases found
            case h_2 first middle here =>
              have on := classAtom_suffix here
              split at found
              case isTrue =>
                split at found
                case h_1 => cases found
                case h_2 last after there =>
                  have on_again := (classAtom_suffix there).trans (List.tail_suffix middle)
                  split at found
                  case h_1 read =>
                    cases found
                    exact (ih read).of_suffix (on_again.trans on)
                  case h_2 => cases found
              case isFalse =>
                split at found
                case h_1 read =>
                  cases found
                  exact (ih read).of_suffix on
                case h_2 => cases found

theorem ended_characterClass {text rest : JsString} {units : UnitSet}
    (found : characterClass text = some (units, rest)) : Ended text rest := by
  rw [characterClass, Option.map_eq_some_iff] at found
  obtain ⟨⟨items, remaining⟩, entries, pair⟩ := found
  cases pair
  refine (ended_classItems entries).of_suffix ?_
  split
  · exact List.tail_suffix text
  · exact List.suffix_rfl

theorem ended_closingBrace {least : Nat} {most : Option Nat} {text rest : JsString}
    {found : Nat × Option Nat} (read : closingBrace least most text = some (found, rest))
    : Ended text rest := by
  cases text with
  | nil => cases read
  | cons unit later =>
      rw [closingBrace] at read
      split at read
      case isTrue brace =>
        cases read
        exact .head (by rw [brace]; decide) rest
      case isFalse => cases read

/-- Counted bounds end with their brace. -/
theorem ended_braced {text rest : JsString} {found : Nat × Option Nat}
    (read : braced text = some (found, rest)) : Ended text rest := by
  have within : text.dropWhile isDigit <:+ text := List.dropWhile_suffix isDigit
  unfold braced at read
  dsimp only at read
  split at read
  case isTrue => cases read
  case isFalse =>
    split at read
    case h_1 => cases read
    case h_2 unit later here =>
      rw [here] at within
      split at read
      case isTrue =>
        have on := (List.dropWhile_suffix isDigit).trans (List.suffix_cons unit later)
        exact (ended_closingBrace read).of_suffix (on.trans within)
      case isFalse => exact (ended_closingBrace read).of_suffix within

/-- A quantifier ends with its sign, its brace or the question mark behind it. -/
theorem ended_quantifierOrUnit {unit : UInt16} (other : unit ≠ 92) (rest : JsString)
    : Ended (unit :: rest) (quantifierOrUnit unit rest).2 := by
  unfold quantifierOrUnit
  split
  case h_1 found remaining here =>
    have bounded : remaining = rest ∨ Ended rest remaining := by
      unfold bounds at here
      split at here
      · cases here; exact .inl rfl
      split at here
      · cases here; exact .inl rfl
      split at here
      · cases here; exact .inl rfl
      split at here
      · exact .inr (ended_braced here)
      · cases here
    cases remaining with
    | nil => exact .cons other bounded
    | cons next later =>
        rw [quantifier]
        split
        case isTrue question =>
          have on : next :: later <:+ rest := by
            rcases bounded with same | ended
            · exact same ▸ List.suffix_rfl
            · exact ended.suffix
          have last : Ended (next :: later) later := .head (by rw [question]; decide) later
          exact last.of_suffix (on.trans (List.suffix_cons _ _))
        case isFalse => exact .cons other bounded
  case h_2 => exact .head other rest

/-- A token ends with a unit that is no backslash, with an escaped backslash, or with the backslash
of a `\c` that names no letter.
-/
def Read (text rest : JsString) : Prop :=
  Ended text rest ∨ text = 92 :: 92 :: rest ∨ ∃ more, text = 92 :: 99 :: more ∧ rest = 99 :: more

/-- What a backslash starts outside a class is read this way. -/
theorem read_escape (groups : Nat) (unit : UInt16) (rest : JsString)
    : Read (92 :: unit :: rest) (escape groups unit rest).2 := by
  have behind {later : JsString} (ended : Ended (unit :: rest) later)
      : Read (92 :: unit :: rest) later :=
    .inl (ended.of_suffix (List.suffix_cons _ _))
  unfold escape
  split
  case isTrue boundary =>
    exact behind (.head (by rcases boundary with rfl | rfl <;> decide) rest)
  case isFalse =>
    split
    case h_1 kind =>
      refine behind (.head ?_ rest)
      rintro rfl
      cases (show kindEscapes.lookup 92 = none by decide).symm.trans kind
    case h_2 index later _ reference =>
      rw [backReference] at reference
      split at reference
      case isTrue named =>
        cases reference
        have digit : isDigit unit = true := by
          cases digit : isDigit unit with
          | true => rfl
          | false => exact absurd (List.takeWhile_cons_of_neg (by simp [digit])) named.2.1
        rw [List.dropWhile_cons_of_pos digit]
        exact
          behind (.cons (by rintro rfl; simp [isDigit] at digit) (ended_dropWhile rest))
      case isFalse => cases reference
    case h_3 =>
      rcases characterEscape_rest unit rest with ended | ⟨rfl, same⟩ | ⟨rfl, same⟩
      · exact behind ended
      · exact .inr (.inl (by rw [same]))
      · exact .inr (.inr ⟨rest, rfl, same⟩)

/-- Every token is read this way. -/
theorem read_token {groups : Nat} {text rest : JsString} {first : Token}
    (found : token groups text = some (first, rest)) : Read text rest := by
  unfold token at found
  split at found
  case h_1 => cases found
  case h_3 later =>
    cases later with
    | nil => cases found; exact .inl (.head (by decide) _)
    | cons unit later =>
        rw [opening] at found
        split at found
        case isTrue =>
          cases later with
          | nil => cases found
          | cons kind later =>
              obtain ⟨known, here, pair⟩ := Option.map_eq_some_iff.mp found
              cases pair
              have other : kind ≠ 92 := by
                rintro rfl
                cases (show groupKinds.lookup 92 = none by decide).symm.trans here
              exact .inl ⟨[40, unit], kind, rfl, other⟩
        case isFalse =>
          cases found
          exact .inl (.head (by decide) _)
  case h_6 later =>
    obtain ⟨⟨units, remaining⟩, inside, pair⟩ := Option.map_eq_some_iff.mp found
    cases pair
    exact .inl ((ended_characterClass inside).of_suffix (List.suffix_cons _ _))
  case h_7 later =>
    cases later with
    | nil => cases found
    | cons unit later =>
        have plainly := read_escape groups unit later
        rwa [show escape groups unit later = (first, rest) from Option.some.inj found] at plainly
  case h_10 unit later _ _ _ _ _ backslash _ _ =>
    have plainly := ended_quantifierOrUnit backslash later
    rw [show quantifierOrUnit unit later = (first, rest) from Option.some.inj found] at plainly
    exact .inl plainly
  all_goals
    cases found
    exact .inl (.head (by decide) _)

/-- A token takes at least one unit. -/
theorem Read.shorter {text rest : JsString} (read : Read text rest)
    : rest.length < text.length := by
  rcases read with ⟨front, last, rfl, -⟩ | rfl | ⟨more, rfl, rfl⟩
  · rw [List.length_append, List.length_cons]
    omega
  · exact Nat.lt_add_of_pos_right (Nat.zero_lt_two)
  · exact Nat.lt_succ_self _

-----------------------------------------------------------------------------------------
-- Texts token by token
-----------------------------------------------------------------------------------------

/-- The tokens of a text. -/
inductive Lexed (groups : Nat) : JsString → List Token → Prop where
  | nil : Lexed groups [] []
  | cons {text rest : JsString} {first : Token} {later : List Token}
      (head : token groups text = some (first, rest)) (more : Lexed groups rest later)
      : Lexed groups text (first :: later)

/-- The tokens that are found are those of the text: one way by induction on the fuel, the other on
the tokens, with as much fuel as the text is long.
-/
theorem tokens_eq_some_iff {groups : Nat} {text : JsString} {read : List Token}
    : tokens groups text = some read ↔ Lexed groups text read := by
  constructor
  · have within (fuel : Nat)
        : ∀ {text read}, tokensWithin groups fuel text = some read → Lexed groups text read := by
      induction fuel with
      | zero =>
          intro text read found
          cases text with
          | nil => cases found; exact .nil
          | cons => cases found
      | succ fuel ih =>
          intro text read found
          cases text with
          | nil => cases found; exact .nil
          | cons unit rest =>
              rw [tokensWithin, Option.bind_eq_bind, Option.bind_eq_some_iff] at found
              obtain ⟨⟨first, remaining⟩, head, found⟩ := found
              rw [Option.bind_eq_bind, Option.bind_eq_some_iff] at found
              obtain ⟨more, later, pair⟩ := found
              cases pair
              exact .cons head (ih later)
    exact within _
  · intro lexed
    have within : ∀ fuel, text.length ≤ fuel → tokensWithin groups fuel text = some read := by
      induction lexed with
      | nil => intro fuel _; cases fuel <;> rfl
      | @cons text rest first later head more ih =>
          intro fuel enough
          have shorter := (read_token head).shorter
          obtain ⟨fuel, rfl⟩ := Nat.exists_eq_add_one_of_ne_zero (show fuel ≠ 0 by omega)
          cases text with
          | nil => cases head
          | cons unit remaining =>
              have later_read := ih fuel (by omega)
              simp only [tokensWithin, head, later_read, Option.bind_eq_bind, Option.bind_some]
    exact within _ (Nat.le_refl _)

/-- A closing parenthesis ends the tokens of what stands before it. -/
theorem Lexed.closedBy {groups : Nat} {text tail : JsString} {read later : List Token}
    (lexed : Lexed groups text read) (more : Lexed groups (41 :: tail) later)
    : Lexed groups (text ++ 41 :: tail) (read ++ later) := by
  induction lexed with
  | nil => exact more
  | cons head _ ih => exact .cons (token_closedBy head) ih

-----------------------------------------------------------------------------------------
-- Trees between parentheses
-----------------------------------------------------------------------------------------

/-- The same reading with groups open around it. -/
def Reading.inside (reading : Reading) (outer : List OpenGroup) (captures : Nat) : Reading :=
  { groups := reading.groups ++ outer, frame := reading.frame, captures }

/-- A token reads the same with groups open around it. Only a capturing group reads the count of
captures, and only a closing parenthesis reads the groups, its own one first.
-/
theorem step_inside {reading after : Reading} {read : Token} (other : read ≠ .opening .capturing)
    (stepped : reading.step read = some after) (outer : List OpenGroup) (captures : Nat)
    : (reading.inside outer captures).step read = some (after.inside outer captures)
      ∧ after.captures = reading.captures := by
  cases read with
  | atom node => cases stepped; exact ⟨rfl, rfl⟩
  | assertion node => cases stepped; exact ⟨rfl, rfl⟩
  | bar => cases stepped; exact ⟨rfl, rfl⟩
  | quantifier least most greedy =>
      rw [Reading.step] at stepped ⊢
      rw [Reading.inside]
      dsimp only
      split at stepped
      case h_1 node terms here =>
        split at stepped
        case isTrue => cases stepped
        case isFalse ordered =>
          cases stepped
          rw [if_neg ordered]
          exact ⟨rfl, rfl⟩
      case h_2 => cases stepped
  | opening kind =>
      have plain : kind ≠ .capturing := by rintro rfl; exact other rfl
      simp only [Reading.step, if_neg plain, Option.some.injEq] at stepped
      subst stepped
      simp only [Reading.step, if_neg plain, Reading.inside, List.cons_append, and_self]
  | closing =>
      rw [Reading.step] at stepped
      split at stepped
      case h_1 => cases stepped
      case h_2 group groups here =>
        cases stepped
        simp only [Reading.step, Reading.inside, here, List.cons_append, and_self]

/-- Tokens that open no capturing group read the same wherever they stand. -/
theorem run_inside {read : List Token} (plain : .opening .capturing ∉ read)
    {reading after : Reading} (found : reading.run read = some after) (outer : List OpenGroup) (captures : Nat)
    : (reading.inside outer captures).run read = some (after.inside outer captures)
      ∧ after.captures = reading.captures := by
  induction read generalizing reading with
  | nil => cases found; exact ⟨rfl, rfl⟩
  | cons first later ih =>
      rw [List.mem_cons, not_or] at plain
      rw [Reading.run, List.foldlM_cons, Option.bind_eq_bind, Option.bind_eq_some_iff] at found
      obtain ⟨middle, stepped, found⟩ := found
      obtain ⟨here, kept⟩ := step_inside (Ne.symm plain.1) stepped outer captures
      obtain ⟨there, kept_later⟩ := ih plain.2 found
      refine ⟨?_, kept_later.trans kept⟩
      rw [Reading.run, List.foldlM_cons, here]
      exact there

/-- The frame in which a text of its own ends. -/
theorem treeOf_eq_some_iff {groups : Nat} {text : JsString} {tree : Node}
    : treeOf groups text = some tree
      ↔ ∃ read after, Lexed groups text read ∧ Reading.initial.run read = some after
        ∧ after.groups = [] ∧ after.frame.tree = tree := by
  simp only [treeOf, Option.bind_eq_bind, Option.bind_eq_some_iff, tokens_eq_some_iff]
  constructor
  · rintro ⟨read, lexed, after, found, here⟩
    split at here
    case isTrue closed =>
      cases here
      exact ⟨read, after, lexed, found, closed, rfl⟩
    case isFalse => cases here
  · rintro ⟨read, after, lexed, found, closed, rfl⟩
    exact ⟨read, lexed, after, found, if_pos closed⟩

/-- A text of its own does not start with a question mark. -/
theorem head?_of_treeOf {groups : Nat} {text : JsString} {tree : Node}
    (found : treeOf groups text = some tree) : text.head? ≠ some 63 := by
  obtain ⟨read, after, lexed, ran, -⟩ := treeOf_eq_some_iff.mp found
  intro question
  cases text with
  | nil => cases question
  | cons unit rest =>
      cases question
      cases lexed with
      | @cons _ remaining first later head =>
          have quantified : ∃ greedy, first = .quantifier 0 (some 1) greedy := by
            have plainly : token groups (63 :: rest) = some (quantifier (0, some 1) rest) := rfl
            rw [plainly] at head
            cases rest with
            | nil => cases head; exact ⟨true, rfl⟩
            | cons next rest =>
                rw [quantifier] at head
                split at head <;> cases head
                · exact ⟨false, rfl⟩
                · exact ⟨true, rfl⟩
          obtain ⟨greedy, rfl⟩ := quantified
          cases ran

-----------------------------------------------------------------------------------------
-- Trees without groups
-----------------------------------------------------------------------------------------

/-- Nothing that has been read captures. -/
structure Frame.Quiet (frame : Frame) : Prop where
  terms : ∀ term ∈ frame.terms, term.1.groups = []
  alternatives : ∀ node ∈ frame.alternatives, node.groups = []

theorem groups_seqOf {nodes : List Node} (quiet : ∀ node ∈ nodes, node.groups = [])
    : (seqOf nodes).groups = [] := by
  induction nodes with
  | nil => rfl
  | cons node nodes ih =>
      have whole : (seqOf (node :: nodes)).groups = node.groups ++ (seqOf nodes).groups := rfl
      rw [whole, quiet node List.mem_cons_self,
        ih (fun later member => quiet later (List.mem_cons_of_mem _ member)), List.append_nil]

/-- The terms of the open alternative capture nothing in sequence. -/
theorem Frame.Quiet.alternative {frame : Frame} (quiet : frame.Quiet)
    : frame.alternative.groups = [] := by
  apply groups_seqOf
  intro node member
  obtain ⟨term, here, rfl⟩ := List.mem_map.mp (List.mem_reverse.mp member)
  exact quiet.terms term here

/-- Nor does the choice between the alternatives of a frame. -/
theorem Frame.Quiet.tree {frame : Frame} (quiet : frame.Quiet) : frame.tree.groups = [] := by
  have folded : ∀ (nodes : List Node) (later : Node), (∀ node ∈ nodes, node.groups = []) →
      later.groups = [] →
      (nodes.foldl (fun later earlier => .alt earlier later) later).groups = [] := by
    intro nodes
    induction nodes with
    | nil => intro later _ silent; exact silent
    | cons node nodes ih =>
        intro later each silent
        refine ih _ (fun other member => each other (List.mem_cons_of_mem _ member)) ?_
        rw [Node.groups, each node List.mem_cons_self, silent, List.append_nil]
  exact folded _ _ quiet.alternatives quiet.alternative

theorem Frame.Quiet.push {frame : Frame} (quiet : frame.Quiet) {node : Node}
    (silent : node.groups = []) (quantifiable : Bool) : (frame.push node quantifiable).Quiet where
  terms := by
    intro term member
    rcases List.mem_cons.mp member with rfl | member
    · exact silent
    · exact quiet.terms term member
  alternatives := quiet.alternatives

/-- No group of the reading captures. -/
structure Reading.Quiet (reading : Reading) : Prop where
  frame : reading.frame.Quiet
  outside : ∀ group ∈ reading.groups, group.kind ≠ .capturing ∧ group.outside.Quiet

/-- What a token brings along captures nothing. -/
def Token.Quiet : Token → Prop
  | .atom node | .assertion node => node.groups = []
  | .opening kind => kind ≠ .capturing
  | _ => True

/-- One case for each token: a term is added, quantified or wrapped, a group is opened or closed, or
an alternative is put away.
-/
theorem Reading.Quiet.step {reading after : Reading} (quiet : reading.Quiet) {read : Token}
    (silent : read.Quiet) (stepped : reading.step read = some after) : after.Quiet := by
  cases read with
  | atom node =>
      cases stepped
      exact ⟨quiet.frame.push silent true, quiet.outside⟩
  | assertion node =>
      cases stepped
      exact ⟨quiet.frame.push silent false, quiet.outside⟩
  | quantifier least most greedy =>
      rw [Reading.step] at stepped
      split at stepped
      case h_1 node terms here =>
        split at stepped
        case isTrue => cases stepped
        case isFalse =>
          cases stepped
          have each := quiet.frame.terms
          rw [here] at each
          refine ⟨⟨?_, quiet.frame.alternatives⟩, quiet.outside⟩
          intro term member
          rcases List.mem_cons.mp member with rfl | member
          · exact each (node, true) List.mem_cons_self
          · exact each term (List.mem_cons_of_mem _ member)
      case h_2 => cases stepped
  | opening kind =>
      cases stepped
      refine ⟨⟨nofun, nofun⟩, ?_⟩
      intro group member
      rcases List.mem_cons.mp member with rfl | member
      · exact ⟨silent, quiet.frame⟩
      · exact quiet.outside group member
  | closing =>
      rw [Reading.step] at stepped
      split at stepped
      case h_1 => cases stepped
      case h_2 group groups here =>
        cases stepped
        have outside := quiet.outside
        rw [here] at outside
        obtain ⟨kind, around⟩ := outside group List.mem_cons_self
        refine ⟨?_, fun other member => outside other (List.mem_cons_of_mem _ member)⟩
        rw [OpenGroup.close]
        split
        case h_1 capturing => exact absurd capturing kind
        case h_2 => exact around.push quiet.frame.tree true
        case h_3 =>
          refine around.push ?_ true
          exact quiet.frame.tree
  | bar =>
      cases stepped
      refine ⟨⟨nofun, ?_⟩, quiet.outside⟩
      intro node member
      rcases List.mem_cons.mp member with rfl | member
      · exact quiet.frame.alternative
      · exact quiet.frame.alternatives node member

/-- Tokens that capture nothing leave a reading that captures nothing. -/
theorem Reading.Quiet.run {read : List Token} (silent : ∀ token ∈ read, token.Quiet)
    {reading after : Reading} (quiet : reading.Quiet) (ran : reading.run read = some after)
    : after.Quiet := by
  induction read generalizing reading with
  | nil => cases ran; exact quiet
  | cons first later ih =>
      rw [Reading.run, List.foldlM_cons, Option.bind_eq_bind, Option.bind_eq_some_iff] at ran
      obtain ⟨middle, stepped, ran⟩ := ran
      exact
        ih (fun token member => silent token (List.mem_cons_of_mem _ member))
          (quiet.step (silent first List.mem_cons_self) stepped) ran

theorem quiet_initial : Reading.initial.Quiet := ⟨⟨nofun, nofun⟩, nofun⟩

/-- No escape captures. -/
theorem quiet_escape (groups : Nat) (unit : UInt16) (rest : JsString)
    : (escape groups unit rest).1.Quiet := by
  unfold escape
  split
  · rfl
  · split <;> rfl

theorem quiet_quantifierOrUnit (unit : UInt16) (rest : JsString)
    : (quantifierOrUnit unit rest).1.Quiet := by
  unfold quantifierOrUnit
  split
  case h_1 remaining _ =>
    cases remaining with
    | nil => trivial
    | cons next later =>
        rw [quantifier]
        split <;> trivial
  case h_2 => rfl

end RegularExpressions
