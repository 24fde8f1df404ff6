import StellarOnramp.Library.Json

/-! `JSON.parse`, and that it reads back what `JSON.stringify` writes. -/

namespace Json

open JsText Octets

-----------------------------------------------------------------------------------------
-- The parser
-----------------------------------------------------------------------------------------

def isSpace (unit : UInt16) : Bool := unit == 32 || unit == 9 || unit == 10 || unit == 13

def skipSpace (text : JsString) : JsString := text.dropWhile isSpace

/-- The unit behind `\u`. -/
def hexUnit (digits : JsString) : Option UInt16 :=
  match hexToBytes digits with
  | some [high, low] => some (high.toUInt16 * 256 + low.toUInt16)
  | _ => none

/-- The unit that one letter behind a backslash stands for. -/
def escapedUnit (letter : UInt16) : Option UInt16 :=
  if letter = 34 ∨ letter = 47 ∨ letter = 92 then some letter
  else if letter = 98 then some 8
  else if letter = 102 then some 12
  else if letter = 110 then some 10
  else if letter = 114 then some 13
  else if letter = 116 then some 9
  else none

/-- The units of a string up to its closing quote, and what is behind it. -/
def readUnits : JsString → Option (JsString × JsString)
  | [] => none
  | unit :: rest =>
      if unit = 34 then
        some ([], rest)
      else if unit = 92 then
        match rest with
        | [] => none
        | letter :: rest =>
            if letter = 117 then
              match rest with
              | a :: b :: c :: d :: rest => do
                  let unit ← hexUnit [a, b, c, d]
                  let (units, behind) ← readUnits rest
                  some (unit :: units, behind)
              | _ => none
            else do
              let unit ← escapedUnit letter
              let (units, behind) ← readUnits rest
              some (unit :: units, behind)
      else if unit < 32 then
        none
      else do
        let (units, behind) ← readUnits rest
        some (unit :: units, behind)

/-- Digits, of which there must be one. -/
def readDigits (text : JsString) : Option (JsString × JsString) :=
  if text.takeWhile isDigit = [] then none
  else some (text.takeWhile isDigit, text.dropWhile isDigit)

/-- A point and digits, if there is a point. -/
def readFraction (text : JsString) : Option (JsString × JsString) :=
  match text with
  | [] => some ([], [])
  | unit :: rest =>
      if unit = 46 then
        (readDigits rest).map fun (digits, behind) => (unit :: digits, behind)
      else
        some ([], text)

/-- A power of ten, if there is one. -/
def readExponent (text : JsString) : Option (JsString × JsString) :=
  match text with
  | [] => some ([], [])
  | unit :: rest =>
      if unit = 101 ∨ unit = 69 then
        let sign := rest.take 1 |>.filter fun unit => unit == 43 || unit == 45
        (readDigits (rest.drop sign.length)).map fun (digits, behind) =>
          (unit :: sign ++ digits, behind)
      else
        some ([], text)

/-- A number. A natural number in the safe range is itself; the double that another literal
stands for is given by `other`.
-/
def readNumber (other : JsString → Value) (text : JsString) : Option (Value × JsString) := do
  let sign := text.take 1 |>.filter fun unit => unit == 45
  let (whole, behind) ← readDigits (text.drop sign.length)
  -- No zero stands in front of another digit.
  if whole.head? = some 48 ∧ 1 < whole.length then
    none
  else do
    let (fraction, behind) ← readFraction behind
    let (exponent, behind) ← readExponent behind
    if sign = [] ∧ fraction = [] ∧ exponent = [] ∧ digitsValue whole ≤ 2 ^ 53 - 1 then
      some (.number (digitsValue whole), behind)
    else
      some (other (sign ++ whole ++ fraction ++ exponent), behind)

/-- A value that is not a string and has no parts. -/
def readAtom (other : JsString → Value) (text : JsString) : Option (Value × JsString) :=
  if (js "null").isPrefixOf text then some (.null, text.drop 4)
  else if (js "true").isPrefixOf text then some (.boolean true, text.drop 4)
  else if (js "false").isPrefixOf text then some (.boolean false, text.drop 5)
  else readNumber other text

/-- A member with the key of an earlier one takes its place. -/
def setMember (members : List (JsString × Value)) (member : JsString × Value)
    : List (JsString × Value) :=
  if members.any (fun earlier => earlier.1 == member.1) then
    members.map (fun earlier => if earlier.1 = member.1 then member else earlier)
  else
    members ++ [member]

/-- What stands between two elements, or behind the last one. -/
inductive Separator where
  | comma
  | close

def readSeparator (close : UInt16) (text : JsString) : Option (Separator × JsString) :=
  match skipSpace text with
  | [] => none
  | unit :: rest =>
      if unit = close then some (.close, rest)
      else if unit = 44 then some (.comma, rest)
      else none

/-- One given unit behind white space. -/
def readUnit (unit : UInt16) (text : JsString) : Option JsString :=
  match skipSpace text with
  | [] => none
  | first :: rest => if first = unit then some rest else none

/-- A key and its colon. -/
def readKey (text : JsString) : Option (JsString × JsString) := do
  let quoted ← readUnit 34 text
  let (key, behind) ← readUnits quoted
  let behind ← readUnit 58 behind
  some (key, behind)

mutual

/-- A value and what is behind it; every level and every element uses up some of the fuel. -/
def readValue (other : JsString → Value) : Nat → JsString → Option (Value × JsString)
  | 0, _ => none
  | fuel + 1, text =>
      match skipSpace text with
      | [] => none
      | unit :: rest =>
          if unit = 34 then
            (readUnits rest).map fun (units, behind) => (.string units, behind)
          else if unit = 91 then
            match readUnit 93 rest with
            | some behind => some (.array [], behind)
            | none => (readItems other fuel rest).map fun (items, behind) => (.array items, behind)
          else if unit = 123 then
            match readUnit 125 rest with
            | some behind => some (.object [], behind)
            | none =>
                (readMembers other fuel rest).map fun (members, behind) =>
                  (.object (members.foldl setMember []), behind)
          else
            readAtom other (unit :: rest)

/-- The elements of an array up to its bracket. -/
def readItems (other : JsString → Value) : Nat → JsString → Option (List Value × JsString)
  | 0, _ => none
  | fuel + 1, text => do
      let (item, behind) ← readValue other fuel text
      match ← readSeparator 93 behind with
      | (.close, behind) => some ([item], behind)
      | (.comma, behind) => do
          let (items, behind) ← readItems other fuel behind
          some (item :: items, behind)

/-- The members of an object up to its brace. -/
def readMembers (other : JsString → Value)
    : Nat → JsString → Option (List (JsString × Value) × JsString)
  | 0, _ => none
  | fuel + 1, text => do
      let (key, behind) ← readKey text
      let (value, behind) ← readValue other fuel behind
      match ← readSeparator 125 behind with
      | (.close, behind) => some ([(key, value)], behind)
      | (.comma, behind) => do
          let (members, behind) ← readMembers other fuel behind
          some ((key, value) :: members, behind)

end

/-- `JSON.parse`; `none` is a `SyntaxError`. -/
def parse (other : JsString → Value) (text : JsString) : Option Value :=
  match readValue other (2 * text.length + 2) text with
  | some (value, behind) => if skipSpace behind = [] then some value else none
  | none => none

-----------------------------------------------------------------------------------------
-- Strings
-----------------------------------------------------------------------------------------

/-- Put a unit in front of what was read. -/
def consUnit (unit : UInt16) (read : Option (JsString × JsString))
    : Option (JsString × JsString) :=
  read.map fun (units, behind) => (unit :: units, behind)

theorem readUnits_plain {unit : UInt16} (large : ¬ unit < 32) (quote : unit ≠ 34)
    (backslash : unit ≠ 92) (rest : JsString)
    : readUnits (unit :: rest) = consUnit unit (readUnits rest) := by
  rw [readUnits.eq_def]
  dsimp only
  rw [if_neg quote, if_neg backslash, if_neg large, consUnit]
  cases readUnits rest <;> rfl

theorem readUnits_escape (letter : UInt16) {unit : UInt16} (escape : letter ≠ 117)
    (stands : escapedUnit letter = some unit) (rest : JsString)
    : readUnits (92 :: letter :: rest) = consUnit unit (readUnits rest) := by
  rw [readUnits.eq_def]
  dsimp only
  rw [if_neg (by decide), if_pos rfl, if_neg escape, stands, consUnit]
  cases readUnits rest <;> rfl

theorem octets_joined (unit : UInt16)
    : (unit >>> 8).toUInt8.toUInt16 * 256 + unit.toUInt8.toUInt16 = unit := by
  apply UInt16.toNat_inj.mp
  have bound := unit.toNat_lt
  have high : (unit >>> 8).toUInt8.toUInt16.toNat = unit.toNat / 256 := by
    rw [UInt8.toNat_toUInt16, UInt16.toNat_toUInt8, UInt16.toNat_shiftRight]
    have shift : unit.toNat >>> ((8 : UInt16).toNat % 16) = unit.toNat / 256 :=
      Nat.shiftRight_eq_div_pow _ _
    rw [shift]
    omega
  have low : unit.toUInt8.toUInt16.toNat = unit.toNat % 256 := by
    rw [UInt8.toNat_toUInt16, UInt16.toNat_toUInt8]
  have scale : (256 : UInt16).toNat = 256 := rfl
  rw [UInt16.toNat_add, UInt16.toNat_mul, high, low, scale]
  omega

/-- The four digits of a unit read back. -/
theorem readUnits_unicodeEscape (unit : UInt16) (rest : JsString)
    : readUnits (unicodeEscape unit ++ rest) = consUnit unit (readUnits rest) := by
  have read := hexToBytes_bytesToHex [(unit >>> 8).toUInt8, unit.toUInt8]
  have length := bytesToHex_length [(unit >>> 8).toUInt8, unit.toUInt8]
  obtain ⟨a, b, c, d, digits⟩
      : ∃ a b c d, bytesToHex [(unit >>> 8).toUInt8, unit.toUInt8] = [a, b, c, d] :=
    List.length_eq_four.mp length
  rw [digits] at read
  have stands : hexUnit [a, b, c, d] = some unit := by
    rw [hexUnit, read]
    exact congrArg some (octets_joined unit)
  have front : unicodeEscape unit ++ rest = 92 :: 117 :: a :: b :: c :: d :: rest := by
    rw [unicodeEscape, digits]
    rfl
  rw [front, readUnits.eq_def]
  dsimp only
  rw [if_neg (by decide), if_pos rfl, if_pos rfl, stands, consUnit]
  cases readUnits rest <;> rfl

/-- A quoted unit is read as itself. -/
theorem readUnits_quoteUnit (unit : UInt16) (rest : JsString)
    : readUnits (quoteUnit unit ++ rest) = consUnit unit (readUnits rest) := by
  unfold quoteUnit
  split
  case isTrue same => exact same ▸ readUnits_escape 98 (by decide) rfl rest
  split
  case isTrue same => exact same ▸ readUnits_escape 116 (by decide) rfl rest
  split
  case isTrue same => exact same ▸ readUnits_escape 110 (by decide) rfl rest
  split
  case isTrue same => exact same ▸ readUnits_escape 102 (by decide) rfl rest
  split
  case isTrue same => exact same ▸ readUnits_escape 114 (by decide) rfl rest
  split
  case isTrue same => exact same ▸ readUnits_escape 34 (by decide) rfl rest
  split
  case isTrue same => exact same ▸ readUnits_escape 92 (by decide) rfl rest
  split
  case isTrue => exact readUnits_unicodeEscape unit rest
  split
  case isTrue => exact readUnits_unicodeEscape unit rest
  case isFalse => exact readUnits_plain ‹_› ‹_› ‹_› rest

theorem readUnits_surrogate {unit : UInt16}
    (surrogate : (isHighSurrogate unit || isLowSurrogate unit) = true) (rest : JsString)
    : readUnits (unit :: rest) = consUnit unit (readUnits rest) := by
  have large : 0xD800 ≤ unit := by
    rcases Bool.or_eq_true_iff.mp surrogate with high | low
    · exact of_decide_eq_true (Bool.and_eq_true_iff.mp high).1
    · have bound := of_decide_eq_true (Bool.and_eq_true_iff.mp low).1
      exact UInt16.le_trans (by decide) bound
  refine readUnits_plain ?_ ?_ ?_ rest
  · exact UInt16.not_lt.mpr (UInt16.le_trans (by decide) large)
  · rintro rfl
    exact absurd large (by decide)
  · rintro rfl
    exact absurd large (by decide)

/-- The units of a quoted string are read up to the quote, by induction on the string. -/
theorem readUnits_quoteUnits (text behind : JsString)
    : readUnits (quoteUnits text ++ 34 :: behind) = some (text, behind) := by
  have done : readUnits (34 :: behind) = some ([], behind) := by
    rw [readUnits.eq_def]
    rfl
  induction text using quoteUnits.induct with
  | case1 => exact done
  | case2 unit =>
      rw [quoteUnits, readUnits_quoteUnit, done]
      rfl
  | case3 unit next rest pair ih =>
      obtain ⟨high, low⟩ := Bool.and_eq_true_iff.mp pair
      rw [quoteUnits, if_pos pair, List.cons_append, List.cons_append,
        readUnits_surrogate (by rw [high, Bool.true_or]),
        readUnits_surrogate (by rw [low, Bool.or_true]), ih]
      rfl
  | case4 unit next rest single ih =>
      rw [quoteUnits, if_neg single, List.append_assoc, readUnits_quoteUnit, ih]
      rfl

theorem readUnits_quote (text behind : JsString)
    : ∃ quoted, quote text ++ behind = 34 :: quoted ∧ readUnits quoted = some (text, behind) := by
  refine ⟨quoteUnits text ++ 34 :: behind, ?_, readUnits_quoteUnits text behind⟩
  rw [quote, List.append_assoc, List.append_assoc]
  rfl

-----------------------------------------------------------------------------------------
-- Values
-----------------------------------------------------------------------------------------

/-- What stands behind a value: nothing, or a unit that ends it. -/
def Delimited (behind : JsString) : Prop :=
  ∀ unit ∈ behind.head?, unit = 44 ∨ unit = 93 ∨ unit = 125

mutual

/-- The value is one that a parser leaves, and its numbers are natural and safe. -/
def Plain : Value → Prop
  | .null => True
  | .boolean _ => True
  | .number value => 0 ≤ value ∧ value ≤ 2 ^ 53 - 1
  | .fraction _ => False
  | .string _ => True
  | .array items => PlainItems items
  | .object members => (members.map Prod.fst).Nodup ∧ PlainMembers members

def PlainItems : List Value → Prop
  | [] => True
  | item :: rest => Plain item ∧ PlainItems rest

def PlainMembers : List (JsString × Value) → Prop
  | [] => True
  | (_, value) :: rest => Plain value ∧ PlainMembers rest

end

variable {other : JsString → Value}

/-- A run of digits ends where another unit follows. -/
theorem readDigits_append {digits behind : JsString} (filled : digits ≠ [])
    (all : digits.all isDigit = true) (ends : ∀ unit ∈ behind.head?, isDigit unit = false)
    : readDigits (digits ++ behind) = some (digits, behind) := by
  have nothing : behind.takeWhile isDigit = [] ∧ behind.dropWhile isDigit = behind := by
    cases behind with
    | nil => exact ⟨rfl, rfl⟩
    | cons unit rest =>
        have other := ends unit rfl
        simp [other]
  have each := List.all_eq_true.mp all
  have taken : (digits ++ behind).takeWhile isDigit = digits := by
    rw [List.takeWhile_append_of_pos each, nothing.1, List.append_nil]
  have dropped : (digits ++ behind).dropWhile isDigit = behind := by
    rw [List.dropWhile_append_of_pos each, nothing.2]
  rw [readDigits, taken, dropped, if_neg filled]

theorem delimited_cons {unit : UInt16} (ends : unit = 44 ∨ unit = 93 ∨ unit = 125)
    (rest : JsString)
    : Delimited (unit :: rest) := by
  intro first head
  obtain rfl := Option.some.inj head
  exact ends

theorem Delimited.not_digit {behind : JsString} (delimited : Delimited behind)
    : ∀ unit ∈ behind.head?, isDigit unit = false := by
  intro unit head
  rcases delimited unit head with rfl | rfl | rfl <;> rfl

/-- Behind a delimited number there is neither a fraction nor an exponent. -/
theorem Delimited.reads_nothing {behind : JsString} (delimited : Delimited behind)
    : readFraction behind = some ([], behind) ∧ readExponent behind = some ([], behind) := by
  cases behind with
  | nil => exact ⟨rfl, rfl⟩
  | cons unit rest =>
      rcases delimited unit rfl with rfl | rfl | rfl <;> exact ⟨rfl, rfl⟩

/-- A natural number in the safe range is read back. -/
theorem readNumber_numberText {value : Nat} (safe : value ≤ 2 ^ 53 - 1) {behind : JsString}
    (delimited : Delimited behind)
    : readNumber other (numberText (value : Int) ++ behind) = some (.number value, behind) := by
  obtain ⟨digits, read, filled, head⟩ := numberText_spec value
  obtain ⟨fraction, exponent⟩ := delimited.reads_nothing
  have sign
      : ((numberText (value : Int) ++ behind).take 1).filter (fun unit => unit == 45) = [] := by
    obtain ⟨first, rest, shape⟩ := List.exists_cons_of_ne_nil filled
    rw [shape, List.all_cons, Bool.and_eq_true] at digits
    have digit : first ≠ 45 := by
      rintro rfl
      exact absurd digits.1 (by decide)
    rw [shape]
    simp [digit]
  have canonical
      : ¬ ((numberText (value : Int)).head? = some 48 ∧ 1 < (numberText (value : Int)).length) := by
    intro zeros
    cases value with
    | zero => exact absurd zeros.2 (by decide)
    | succ value => exact head (Nat.succ_pos value) zeros.1
  unfold readNumber
  dsimp only
  rw [sign, List.length_nil, List.drop_zero, readDigits_append filled digits delimited.not_digit]
  dsimp only [bind, Option.bind]
  rw [if_neg canonical, fraction]
  dsimp only
  rw [exponent]
  dsimp only
  rw [read, if_pos ⟨rfl, rfl, rfl, safe⟩]

/-- The first unit of the text of a value is a quote, a bracket, a letter or a digit. -/
theorem stringify_head {value : Value} (plain : Plain value)
    : ∃ first rest,
        stringify value = first :: rest
        ∧ (first ∈ [34, 91, 123, 110, 116, 102] ∨ isDigit first = true) := by
  cases value with
  | null => exact ⟨_, _, rfl, by decide⟩
  | boolean value => cases value <;> exact ⟨_, _, rfl, by decide⟩
  | number value =>
      obtain ⟨value, rfl⟩ := Int.eq_ofNat_of_zero_le plain.1
      obtain ⟨digits, -, filled, -⟩ := numberText_spec value
      obtain ⟨first, rest, shape⟩ := List.exists_cons_of_ne_nil filled
      rw [shape, List.all_cons, Bool.and_eq_true] at digits
      exact ⟨first, rest, shape, Or.inr digits.1⟩
  | fraction text => exact absurd plain id
  | string text => exact ⟨_, _, rfl, by decide⟩
  | array items => exact ⟨_, _, rfl, by decide⟩
  | object members => exact ⟨_, _, rfl, by decide⟩

theorem skipSpace_cons {unit : UInt16} (solid : isSpace unit = false) (rest : JsString)
    : skipSpace (unit :: rest) = unit :: rest :=
  List.dropWhile_cons_of_neg (by rw [solid]; exact Bool.false_ne_true)

theorem readUnit_self {unit : UInt16} (solid : isSpace unit = false) (rest : JsString)
    : readUnit unit (unit :: rest) = some rest := by
  rw [readUnit, skipSpace_cons solid]
  exact if_pos rfl

/-- No value starts with white space or with a closing bracket. -/
theorem solid_of_head {first : UInt16}
    (head : first ∈ [34, 91, 123, 110, 116, 102] ∨ isDigit first = true)
    : isSpace first = false ∧ first ≠ 93 ∧ first ≠ 125 := by
  rcases head with listed | digit
  · simp only [List.mem_cons, List.not_mem_nil, or_false] at listed
    rcases listed with rfl | rfl | rfl | rfl | rfl | rfl <;> decide
  · have range : 48 ≤ first.toNat ∧ first.toNat ≤ 57 := by
      simpa [isDigit, UInt16.le_iff_toNat_le] using digit
    have apart {unit : UInt16} (outside : unit.toNat < 48 ∨ 57 < unit.toNat) : first ≠ unit := by
      rintro rfl
      omega
    refine ⟨?_, apart (Or.inr (by decide)), apart (Or.inr (by decide))⟩
    simp only [isSpace, Bool.or_eq_false_iff, beq_eq_false_iff_ne]
    exact ⟨⟨⟨apart (Or.inl (by decide)), apart (Or.inl (by decide))⟩,
      apart (Or.inl (by decide))⟩, apart (Or.inl (by decide))⟩

theorem readUnit_stringify {value : Value} (plain : Plain value) {close : UInt16}
    (closing : close = 93 ∨ close = 125) (behind : JsString)
    : readUnit close (stringify value ++ behind) = none := by
  obtain ⟨first, rest, shape, head⟩ := stringify_head plain
  obtain ⟨solid, bracket, brace⟩ := solid_of_head head
  have apart : first ≠ close := by
    rcases closing with rfl | rfl
    · exact bracket
    · exact brace
  rw [shape, List.cons_append, readUnit, skipSpace_cons solid]
  exact if_neg apart

/-- Members with distinct keys are kept as they are, by induction on those still to come. -/
theorem foldl_setMember {earlier members : List (JsString × Value)}
    (distinct : ((earlier ++ members).map Prod.fst).Nodup)
    : members.foldl setMember earlier = earlier ++ members := by
  induction members generalizing earlier with
  | nil => exact (List.append_nil earlier).symm
  | cons member rest ih =>
      have fresh : ¬ earlier.any (fun other => other.1 == member.1) = true := by
        intro found
        obtain ⟨other, held, same⟩ := List.any_eq_true.mp found
        rw [List.map_append, List.nodup_append] at distinct
        exact distinct.2.2 other.1 (List.mem_map_of_mem held) member.1
          (List.mem_map_of_mem List.mem_cons_self) (beq_iff_eq.mp same)
      have split : earlier ++ member :: rest = earlier ++ [member] ++ rest := by
        rw [List.append_assoc]
        rfl
      rw [split] at distinct
      rw [List.foldl_cons, setMember, if_neg fresh, ih distinct, split]

theorem joined_cons_cons (first second : JsString) (rest : List JsString)
    : joined (first :: second :: rest) = first ++ js "," ++ joined (second :: rest) :=
  rfl

theorem readAtom_number {value : Nat} (safe : value ≤ 2 ^ 53 - 1) {behind : JsString}
    (delimited : Delimited behind)
    : readAtom other (numberText (value : Int) ++ behind) = some (.number value, behind) := by
  obtain ⟨digits, -, filled, -⟩ := numberText_spec value
  obtain ⟨first, rest, shape⟩ := List.exists_cons_of_ne_nil filled
  have digit : isDigit first = true := by
    rw [shape, List.all_cons, Bool.and_eq_true] at digits
    exact digits.1
  have literal (word : JsString) (letter : isDigit (word.headD 48) = false)
      : ¬ word.isPrefixOf (numberText (value : Int) ++ behind) = true := by
    cases word with
    | nil => exact absurd letter (by decide)
    | cons unit word =>
        have apart : unit ≠ first := by
          rintro rfl
          rw [List.headD_cons, digit] at letter
          cases letter
        rw [shape, List.cons_append, List.isPrefixOf]
        simp [apart]
  rw [readAtom, if_neg (literal (js "null") (by decide)), if_neg (literal (js "true") (by decide)),
    if_neg (literal (js "false") (by decide)), readNumber_numberText safe delimited]

theorem readValue_atom {first : UInt16} (solid : isSpace first = false) (quote : first ≠ 34)
    (bracket : first ≠ 91) (brace : first ≠ 123) (fuel : Nat) (rest : JsString)
    : readValue other (fuel + 1) (first :: rest) = readAtom other (first :: rest) := by
  rw [readValue, skipSpace_cons solid]
  dsimp only
  rw [if_neg quote, if_neg bracket, if_neg brace]

theorem readValue_array {fuel : Nat} {text behind : JsString} {items : List Value}
    (started : readUnit 93 text = none) (read : readItems other fuel text = some (items, behind))
    : readValue other (fuel + 1) (91 :: text) = some (.array items, behind) := by
  rw [readValue, skipSpace_cons (by decide)]
  dsimp only
  rw [if_neg (by decide), if_pos rfl, started, read]
  rfl

theorem readValue_object {fuel : Nat} {text behind : JsString}
    {members : List (JsString × Value)} (started : readUnit 125 text = none)
    (read : readMembers other fuel text = some (members, behind))
    : readValue other (fuel + 1) (123 :: text)
      = some (.object (members.foldl setMember []), behind) := by
  rw [readValue, skipSpace_cons (by decide)]
  dsimp only
  rw [if_neg (by decide), if_neg (by decide), if_pos rfl, started, read]
  rfl

theorem readItems_last {fuel : Nat} {text behind : JsString} {item : Value}
    (read : readValue other fuel text = some (item, 93 :: behind))
    : readItems other (fuel + 1) text = some ([item], behind) := by
  rw [readItems, read]
  rfl

theorem readItems_more {fuel : Nat} {text later behind : JsString} {item : Value}
    {items : List Value} (read : readValue other fuel text = some (item, 44 :: later))
    (rest : readItems other fuel later = some (items, behind))
    : readItems other (fuel + 1) text = some (item :: items, behind) := by
  rw [readItems, read]
  change (do let (items, behind) ← readItems other fuel later; some (item :: items, behind)) = _
  rw [rest]
  rfl

/-- A key is read up to its colon. -/
theorem readKey_quote (key behind : JsString)
    : readKey (quote key ++ js ":" ++ behind) = some (key, behind) := by
  obtain ⟨quoted, shape, read⟩ := readUnits_quote key (js ":" ++ behind)
  rw [readKey, List.append_assoc, shape, readUnit_self (by decide)]
  change (do
    let (key, behind) ← readUnits quoted
    let behind ← readUnit 58 behind
    some (key, behind)) = _
  rw [read]
  rfl

theorem readMembers_last {fuel : Nat} {key text behind : JsString} {value : Value}
    (read : readValue other fuel text = some (value, 125 :: behind))
    : readMembers other (fuel + 1) (quote key ++ js ":" ++ text)
      = some ([(key, value)], behind) := by
  rw [readMembers, readKey_quote]
  dsimp only [bind, Option.bind]
  rw [read]
  rfl

theorem readMembers_more {fuel : Nat} {key text later behind : JsString} {value : Value}
    {members : List (JsString × Value)}
    (read : readValue other fuel text = some (value, 44 :: later))
    (rest : readMembers other fuel later = some (members, behind))
    : readMembers other (fuel + 1) (quote key ++ js ":" ++ text)
      = some ((key, value) :: members, behind) := by
  rw [readMembers, readKey_quote]
  dsimp only [bind, Option.bind]
  rw [read]
  change (do
    let (members, behind) ← readMembers other fuel later
    some ((key, value) :: members, behind)) = _
  rw [rest]
  rfl

mutual

/-- The text of a value is read up to its end, by induction on the value. -/
theorem readValue_stringify
    : ∀ (value : Value) (fuel : Nat) (behind : JsString),
        Plain value
        → (stringify value).length < fuel
        → Delimited behind
        → readValue other fuel (stringify value ++ behind) = some (value, behind)
  | _, 0, _, _, enough, _ => absurd enough (Nat.not_lt_zero _)
  | .null, _ + 1, _, _, _, _ => rfl
  | .boolean true, _ + 1, _, _, _, _ => rfl
  | .boolean false, _ + 1, _, _, _, _ => rfl
  | .number value, fuel + 1, behind, plain, _, delimited => by
      obtain ⟨value, rfl⟩ := Int.eq_ofNat_of_zero_le plain.1
      have safe : value ≤ 2 ^ 53 - 1 := by
        have bound := plain.2
        omega
      have read : readAtom other (numberText (value : Int) ++ behind) = _ :=
        readAtom_number safe delimited
      obtain ⟨digits, -, filled, -⟩ := numberText_spec value
      obtain ⟨first, rest, shape⟩ := List.exists_cons_of_ne_nil filled
      rw [shape, List.all_cons, Bool.and_eq_true] at digits
      obtain ⟨solid, -, -⟩ := solid_of_head (Or.inr digits.1)
      have apart {unit : UInt16} (letter : isDigit unit = false) : first ≠ unit := by
        rintro rfl
        rw [digits.1] at letter
        cases letter
      rw [shape, List.cons_append] at read
      rw [stringify, shape, List.cons_append,
        readValue_atom solid (apart (by decide)) (apart (by decide)) (apart (by decide)), read]
  | .fraction _, _ + 1, _, plain, _, _ => absurd plain id
  | .string text, fuel + 1, behind, _, _, _ => by
      obtain ⟨quoted, shape, read⟩ := readUnits_quote text behind
      rw [stringify, shape, readValue, skipSpace_cons (by decide)]
      dsimp only
      rw [if_pos rfl, read]
      rfl
  | .array [], _ + 1, _, _, _, _ => rfl
  | .array (item :: rest), fuel + 1, behind, plain, enough, delimited => by
      have text
          : stringify (.array (item :: rest)) ++ behind
            = 91 :: (joined (stringifyItems (item :: rest)) ++ 93 :: behind) := by
        rw [stringify, List.append_assoc, List.append_assoc]
        rfl
      have started
          : readUnit 93 (joined (stringifyItems (item :: rest)) ++ 93 :: behind) = none := by
        cases rest with
        | nil => exact readUnit_stringify plain.1 (Or.inl rfl) _
        | cons next rest =>
            rw [stringifyItems, stringifyItems, joined_cons_cons, List.append_assoc,
              List.append_assoc]
            exact readUnit_stringify plain.1 (Or.inl rfl) _
      have length := congrArg List.length text
      simp only [List.length_append, List.length_cons] at length
      rw [text]
      exact readValue_array started
        (readItems_stringify item rest fuel behind plain (by omega))
  | .object [], _ + 1, _, _, _, _ => rfl
  | .object ((key, value) :: rest), fuel + 1, behind, plain, enough, delimited => by
      have text
          : stringify (.object ((key, value) :: rest)) ++ behind
            = 123 :: (joined (stringifyMembers ((key, value) :: rest)) ++ 125 :: behind) := by
        rw [stringify, List.append_assoc, List.append_assoc]
        rfl
      have started
          : readUnit 125 (joined (stringifyMembers ((key, value) :: rest)) ++ 125 :: behind)
            = none := by
        have quoted (later : JsString) : readUnit 125 (quote key ++ later) = none := rfl
        cases rest with
        | nil =>
            rw [stringifyMembers, stringifyMembers, joined, List.append_assoc, List.append_assoc]
            exact quoted _
        | cons next rest =>
            rw [stringifyMembers, stringifyMembers, joined_cons_cons]
            simp only [List.append_assoc]
            exact quoted _
      have length := congrArg List.length text
      simp only [List.length_append, List.length_cons] at length
      have read :=
        readValue_object started
          (readMembers_stringify key value rest fuel behind plain.2 (by omega))
      rw [text, read, foldl_setMember plain.1, List.nil_append]

theorem readItems_stringify
    : ∀ (item : Value) (rest : List Value) (fuel : Nat) (behind : JsString),
        PlainItems (item :: rest)
        → (joined (stringifyItems (item :: rest))).length + 1 < fuel
        → readItems other fuel (joined (stringifyItems (item :: rest)) ++ 93 :: behind)
          = some (item :: rest, behind)
  | _, _, 0, _, _, enough => absurd enough (Nat.not_lt_zero _)
  | item, [], fuel + 1, behind, plain, enough => by
      have length : (joined (stringifyItems [item])).length = (stringify item).length := rfl
      apply readItems_last
      exact readValue_stringify item fuel (93 :: behind) plain.1 (by omega)
        (delimited_cons (by decide) behind)
  | item, next :: rest, fuel + 1, behind, plain, enough => by
      have text
          : joined (stringifyItems (item :: next :: rest)) ++ 93 :: behind
            = stringify item
                ++ 44 :: (joined (stringifyItems (next :: rest)) ++ 93 :: behind) := by
        rw [stringifyItems, stringifyItems, joined_cons_cons, List.append_assoc,
          List.append_assoc]
        rfl
      have length := congrArg List.length text
      simp only [List.length_append, List.length_cons] at length
      rw [text]
      exact readItems_more
        (readValue_stringify item fuel _ plain.1 (by omega) (delimited_cons (by decide) _))
        (readItems_stringify next rest fuel behind plain.2 (by omega))

theorem readMembers_stringify
    : ∀ (key : JsString) (value : Value) (rest : List (JsString × Value)) (fuel : Nat)
        (behind : JsString),
        PlainMembers ((key, value) :: rest)
        → (joined (stringifyMembers ((key, value) :: rest))).length + 1 < fuel
        → readMembers other fuel
            (joined (stringifyMembers ((key, value) :: rest)) ++ 125 :: behind)
          = some ((key, value) :: rest, behind)
  | _, _, _, 0, _, _, enough => absurd enough (Nat.not_lt_zero _)
  | key, value, [], fuel + 1, behind, plain, enough => by
      have text
          : joined (stringifyMembers [(key, value)]) ++ 125 :: behind
            = quote key ++ js ":" ++ (stringify value ++ 125 :: behind) :=
        List.append_assoc _ _ _
      have length := congrArg List.length text
      simp only [List.length_append, List.length_cons] at length
      rw [text]
      apply readMembers_last
      exact readValue_stringify value fuel (125 :: behind) plain.1 (by omega)
        (delimited_cons (by decide) behind)
  | key, value, (next, later) :: rest, fuel + 1, behind, plain, enough => by
      have text
          : joined (stringifyMembers ((key, value) :: (next, later) :: rest)) ++ 125 :: behind
            = quote key ++ js ":"
                ++ (stringify value
                  ++ 44 :: (joined (stringifyMembers ((next, later) :: rest)) ++ 125 :: behind)) := by
        rw [stringifyMembers, stringifyMembers, joined_cons_cons]
        simp only [List.append_assoc]
        rfl
      have length := congrArg List.length text
      simp only [List.length_append, List.length_cons] at length
      rw [text]
      exact readMembers_more
        (readValue_stringify value fuel _ plain.1 (by omega) (delimited_cons (by decide) _))
        (readMembers_stringify next later rest fuel behind plain.2 (by omega))

end

/-- `JSON.parse` reads back what `JSON.stringify` writes. -/
theorem parse_stringify (other : JsString → Value) {value : Value} (plain : Plain value)
    : parse other (stringify value) = some value := by
  have nothing : Delimited [] := by
    intro unit head
    cases head
  have read
      : readValue other (2 * (stringify value).length + 2) (stringify value ++ [])
        = some (value, []) :=
    readValue_stringify value _ [] plain (by omega) nothing
  rw [List.append_nil] at read
  rw [parse, read]
  rfl

end Json
