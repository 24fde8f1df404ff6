import Mathlib.Data.List.Basic
import StellarOnramp.Library.Octets

/-! Strings of UTF-16 code units as JavaScript has them, and their UTF-8, hexadecimal and
decimal forms. ASCII text is where all of these agree with octets.
-/

namespace JsText

open Octets

/-- A JavaScript string: any sequence of code units, paired surrogates or not. -/
abbrev JsString := List UInt16

instance : LawfulBEq JsString := inferInstanceAs (LawfulBEq (List UInt16))

/-- Octets read as code units. -/
def ofOctets (octets : Bytes) : JsString :=
  octets.map (fun octet => octet.toUInt16)

/-- An ASCII literal. -/
def js (text : String) : JsString := ofOctets (ascii text)

/-- Every octet is ASCII. -/
def isAscii (octets : Bytes) : Bool :=
  octets.all (fun octet => octet < 128)

@[simp]
theorem ofOctets_nil : ofOctets [] = [] := rfl

@[simp]
theorem ofOctets_cons (octet : UInt8) (rest : Bytes)
    : ofOctets (octet :: rest) = octet.toUInt16 :: ofOctets rest := rfl

@[simp]
theorem ofOctets_append (left right : Bytes)
    : ofOctets (left ++ right) = ofOctets left ++ ofOctets right :=
  List.map_append

@[simp]
theorem ofOctets_length (octets : Bytes) : (ofOctets octets).length = octets.length :=
  List.length_map ..

theorem ofOctets_injective : Function.Injective ofOctets :=
  List.map_injective_iff.mpr fun left right same => by
    rw [← UInt8.toUInt8_toUInt16 left, same, UInt8.toUInt8_toUInt16]

-----------------------------------------------------------------------------------------
-- UTF-8
-----------------------------------------------------------------------------------------

def isHighSurrogate (unit : UInt16) : Bool := 0xD800 ≤ unit && unit < 0xDC00

def isLowSurrogate (unit : UInt16) : Bool := 0xDC00 ≤ unit && unit < 0xE000

/-- The UTF-8 octets of a code point. -/
def encodePoint (point : Nat) : Bytes :=
  if point < 0x80 then
    [UInt8.ofNat point]
  else if point < 0x800 then
    [UInt8.ofNat (0xC0 + point / 64), UInt8.ofNat (0x80 + point % 64)]
  else if point < 0x10000 then
    [
      UInt8.ofNat (0xE0 + point / 4096),
      UInt8.ofNat (0x80 + point / 64 % 64),
      UInt8.ofNat (0x80 + point % 64)
    ]
  else
    [
      UInt8.ofNat (0xF0 + point / 262144),
      UInt8.ofNat (0x80 + point / 4096 % 64),
      UInt8.ofNat (0x80 + point / 64 % 64),
      UInt8.ofNat (0x80 + point % 64)
    ]

/-- A unit on its own; a lone surrogate is replaced. -/
def encodeUnit (unit : UInt16) : Bytes :=
  if isHighSurrogate unit || isLowSurrogate unit then
    encodePoint 0xFFFD
  else
    encodePoint unit.toNat

def encodePair (high low : UInt16) : Bytes :=
  encodePoint (0x10000 + (high.toNat - 0xD800) * 0x400 + (low.toNat - 0xDC00))

/-- The UTF-8 octets of a string, as `TextEncoder` writes them. -/
def utf8ToBytes : JsString → Bytes
  | [] => []
  | [unit] => encodeUnit unit
  | unit :: next :: rest =>
      if isHighSurrogate unit && isLowSurrogate next then
        encodePair unit next ++ utf8ToBytes rest
      else
        encodeUnit unit ++ utf8ToBytes (next :: rest)

/-- A unit outside ASCII starts with an octet outside ASCII. -/
theorem encodePoint_head {point : Nat} (large : 0x80 ≤ point) (valid : point < 0x110000)
    : ∃ octet rest, encodePoint point = octet :: rest ∧ ¬ octet < 128 := by
  have large_octet {value : Nat} (low : 128 ≤ value) (high : value < 256)
      : ¬ UInt8.ofNat value < 128 := by
    rw [UInt8.lt_iff_toNat_lt, UInt8.toNat_ofNat', Nat.mod_eq_of_lt high]
    exact Nat.not_lt.mpr low
  unfold encodePoint
  rw [if_neg (by omega)]
  split
  · exact ⟨_, _, rfl, large_octet (by omega) (by omega)⟩
  split
  · exact ⟨_, _, rfl, large_octet (by omega) (by omega)⟩
  · exact ⟨_, _, rfl, large_octet (by omega) (by omega)⟩

/-- An ASCII unit is written as itself. -/
theorem encodeUnit_of_lt {unit : UInt16} (small : unit < 128)
    : encodeUnit unit = [unit.toUInt8] := by
  have bound : unit.toNat < 128 := UInt16.lt_iff_toNat_lt.mp small
  have plain : (isHighSurrogate unit || isLowSurrogate unit) = false := by
    simp only [isHighSurrogate, isLowSurrogate, UInt16.le_iff_toNat_le, Bool.or_eq_false_iff,
      Bool.and_eq_false_iff, decide_eq_false_iff_not]
    exact ⟨Or.inl (by change ¬ 0xD800 ≤ _; omega), Or.inl (by change ¬ 0xDC00 ≤ _; omega)⟩
  rw [encodeUnit, plain, if_neg (by simp), encodePoint, if_pos bound]
  congr 1

theorem encodeUnit_head {unit : UInt16} (large : ¬ unit < 128)
    : ∃ octet rest, encodeUnit unit = octet :: rest ∧ ¬ octet < 128 := by
  unfold encodeUnit
  split
  · exact encodePoint_head (by omega) (by omega)
  · have bound := unit.toNat_lt
    rw [UInt16.lt_iff_toNat_lt] at large
    exact encodePoint_head (Nat.not_lt.mp large) (by omega)

theorem encodePair_head {high low : UInt16} (isHigh : isHighSurrogate high = true)
    (isLow : isLowSurrogate low = true)
    : ∃ octet rest, encodePair high low = octet :: rest ∧ ¬ octet < 128 := by
  simp only [isHighSurrogate, isLowSurrogate, Bool.and_eq_true, decide_eq_true_eq,
    UInt16.lt_iff_toNat_lt] at isHigh isLow
  have highBound : high.toNat < 0xDC00 := isHigh.2
  have lowBound : low.toNat < 0xE000 := isLow.2
  exact encodePoint_head (by omega) (by omega)

/-- A string either starts with an ASCII unit, which is written as one octet, or its first
octet is outside ASCII. Witness: cases on the unit, and on a pair at the front.
-/
theorem utf8ToBytes_cons (unit : UInt16) (rest : JsString)
    : (unit < 128 ∧ utf8ToBytes (unit :: rest) = unit.toUInt8 :: utf8ToBytes rest)
      ∨ (¬ unit < 128
        ∧ ∃ octet later, utf8ToBytes (unit :: rest) = octet :: later ∧ ¬ octet < 128) := by
  by_cases small : unit < 128
  · refine Or.inl ⟨small, ?_⟩
    have plain := encodeUnit_of_lt small
    cases rest with
    | nil => exact plain
    | cons next rest =>
        have single : isHighSurrogate unit = false := by
          have bound : unit.toNat < 128 := UInt16.lt_iff_toNat_lt.mp small
          simp only [isHighSurrogate, UInt16.le_iff_toNat_le, Bool.and_eq_false_iff,
            decide_eq_false_iff_not]
          exact Or.inl (by change ¬ 0xD800 ≤ _; omega)
        rw [utf8ToBytes, single, Bool.false_and, if_neg (by simp), plain]
        rfl
  · refine Or.inr ⟨small, ?_⟩
    obtain ⟨octet, later, written, large⟩ := encodeUnit_head small
    cases rest with
    | nil => exact ⟨octet, later, written, large⟩
    | cons next rest =>
        rw [utf8ToBytes]
        split
        case isTrue pair =>
          rw [Bool.and_eq_true] at pair
          obtain ⟨octet, later, written, large⟩ := encodePair_head pair.1 pair.2
          exact ⟨octet, later ++ utf8ToBytes rest, by rw [written]; rfl, large⟩
        case isFalse =>
          exact ⟨octet, later ++ utf8ToBytes (next :: rest), by rw [written]; rfl, large⟩

/-- A string is written as given ASCII octets exactly when it is these octets, by induction
on the string.
-/
theorem utf8ToBytes_eq_iff {text : JsString} {octets : Bytes} (plain : isAscii octets = true)
    : utf8ToBytes text = octets ↔ text = ofOctets octets := by
  induction text generalizing octets with
  | nil =>
      cases octets with
      | nil => simp [utf8ToBytes, ofOctets]
      | cons octet rest => simp [utf8ToBytes, ofOctets]
  | cons unit rest ih =>
      cases octets with
      | nil =>
          rcases utf8ToBytes_cons unit rest with ⟨-, written⟩ | ⟨-, octet, later, written, -⟩
            <;> simp [written, ofOctets]
      | cons octet octets =>
          simp only [isAscii, List.all_cons, Bool.and_eq_true, decide_eq_true_eq] at plain
          have later := @ih octets plain.2
          rcases utf8ToBytes_cons unit rest with ⟨small, written⟩ | ⟨large, head, tail, written,
            outside⟩
          · have same : unit.toUInt8 = octet ↔ unit = octet.toUInt16 := by
              constructor
              · rintro rfl
                rw [UInt16.toUInt16_toUInt8]
                apply UInt16.toNat_inj.mp
                have bound : unit.toNat < 128 := UInt16.lt_iff_toNat_lt.mp small
                rw [UInt16.toNat_mod]
                exact (Nat.mod_eq_of_lt (by change _ < 256; omega)).symm
              · rintro rfl
                exact UInt8.toUInt8_toUInt16 octet
            rw [written, List.cons.injEq, later, ofOctets_cons, List.cons.injEq, same]
          · rw [written, List.cons.injEq, ofOctets_cons, List.cons.injEq]
            constructor
            · rintro ⟨rfl, -⟩
              exact absurd plain.1 outside
            · rintro ⟨rfl, -⟩
              refine absurd ?_ large
              rw [UInt16.lt_iff_toNat_lt, UInt8.toNat_toUInt16]
              exact UInt8.lt_iff_toNat_lt.mp plain.1

theorem utf8ToBytes_ofOctets {octets : Bytes} (plain : isAscii octets = true)
    : utf8ToBytes (ofOctets octets) = octets :=
  (utf8ToBytes_eq_iff plain).mpr rfl

theorem isLowSurrogate_of_lt {unit : UInt16} (small : unit < 128)
    : isLowSurrogate unit = false := by
  have bound : unit.toNat < 128 := UInt16.lt_iff_toNat_lt.mp small
  simp only [isLowSurrogate, UInt16.le_iff_toNat_le, Bool.and_eq_false_iff,
    decide_eq_false_iff_not]
  exact Or.inl (by change ¬ 0xDC00 ≤ _; omega)

theorem utf8ToBytes_ascii_cons {unit : UInt16} (small : unit < 128) (rest : JsString)
    : utf8ToBytes (unit :: rest) = unit.toUInt8 :: utf8ToBytes rest := by
  rcases utf8ToBytes_cons unit rest with ⟨-, written⟩ | ⟨large, -⟩
  · exact written
  · exact absurd small large

/-- A string can be written in two parts around an ASCII unit, by induction on the first. -/
theorem utf8ToBytes_split {unit : UInt16} (small : unit < 128) (left right : JsString)
    : utf8ToBytes (left ++ unit :: right)
      = utf8ToBytes left ++ unit.toUInt8 :: utf8ToBytes right := by
  induction left using utf8ToBytes.induct with
  | case1 => exact utf8ToBytes_ascii_cons small right
  | case2 first =>
      have single : ¬ (isHighSurrogate first && isLowSurrogate unit) = true := by
        rw [isLowSurrogate_of_lt small, Bool.and_false]
        exact Bool.false_ne_true
      calc utf8ToBytes ([first] ++ unit :: right)
          = encodeUnit first ++ utf8ToBytes (unit :: right) := if_neg single
        _ = utf8ToBytes [first] ++ unit.toUInt8 :: utf8ToBytes right := by
            rw [utf8ToBytes_ascii_cons small right]
            rfl
  | case3 first next rest pair ih =>
      simp only [List.cons_append] at ih ⊢
      rw [utf8ToBytes, if_pos pair, utf8ToBytes, if_pos pair, ih, List.append_assoc]
  | case4 first next rest single ih =>
      simp only [List.cons_append] at ih ⊢
      rw [utf8ToBytes, if_neg single, utf8ToBytes, if_neg single, ih, List.append_assoc]

/-- How many octets a string is written as. -/
def octetLength (text : JsString) : Nat := (utf8ToBytes text).length

theorem octetLength_split (unit : UInt16) (small : unit < 128) (left right : JsString)
    : octetLength (left ++ unit :: right) = octetLength left + 1 + octetLength right := by
  simp only [octetLength, utf8ToBytes_split small, List.length_append, List.length_cons]
  omega

theorem octetLength_of_ascii {text : JsString} (plain : text.all (fun unit => unit < 128) = true)
    : octetLength text = text.length := by
  induction text with
  | nil => rfl
  | cons unit rest ih =>
      rw [List.all_cons, Bool.and_eq_true, decide_eq_true_eq] at plain
      rw [octetLength, utf8ToBytes_ascii_cons plain.1, List.length_cons, List.length_cons]
      exact congrArg Nat.succ (ih plain.2)

-----------------------------------------------------------------------------------------
-- Hexadecimal and decimal text
-----------------------------------------------------------------------------------------

/-- Lower-case hexadecimal text. -/
def bytesToHex (octets : Bytes) : JsString := ofOctets (hexText octets)

/-- The value of a hexadecimal digit in either case. -/
def hexValue (unit : UInt16) : Option UInt8 :=
  if 48 ≤ unit && unit ≤ 57 then
    some (unit - 48).toUInt8
  else if 65 ≤ unit && unit ≤ 70 then
    some (unit - 55).toUInt8
  else if 97 ≤ unit && unit ≤ 102 then
    some (unit - 87).toUInt8
  else
    none

/-- Read pairs of hexadecimal digits; an odd length or another character fails. -/
def hexToBytes : JsString → Option Bytes
  | [] => some []
  | [_] => none
  | high :: low :: rest =>
      match hexValue high, hexValue low, hexToBytes rest with
      | some high, some low, some rest => some ((high * 16 + low) :: rest)
      | _, _, _ => none

def isLowerHexDigit (unit : UInt16) : Bool :=
  (48 ≤ unit && unit ≤ 57) || (97 ≤ unit && unit ≤ 102)

/-- `/^[0-9a-f]{64}$/`: the lower-case hexadecimal text of 32 octets. -/
def isHex32 (text : JsString) : Bool :=
  text.length == 64 && text.all isLowerHexDigit

/-- The text of a number that holds an integer. -/
def numberText (value : Int) : JsString :=
  if value < 0 then
    js "-" ++ ofOctets (decimalText value.natAbs)
  else
    ofOctets (decimalText value.natAbs)

def isDigit (unit : UInt16) : Bool := 48 ≤ unit && unit ≤ 57

/-- `\s`, and what `trim` takes off. -/
def isWhiteSpace (unit : UInt16) : Bool :=
  (9 ≤ unit && unit ≤ 13) || unit == 32 || unit == 0xA0 || unit == 0x1680
    || (0x2000 ≤ unit && unit ≤ 0x200A) || unit == 0x2028 || unit == 0x2029 || unit == 0x202F
    || unit == 0x205F || unit == 0x3000 || unit == 0xFEFF

def trim (text : JsString) : JsString :=
  ((text.dropWhile isWhiteSpace).reverse.dropWhile isWhiteSpace).reverse

/-- The number that decimal digits spell. -/
def digitsValue (text : JsString) : Nat :=
  text.foldl (fun value unit => value * 10 + (unit.toNat - 48)) 0

/-- The low decimal digits of a number, padded with zeros to a width. -/
def paddedText : Nat → Nat → JsString
  | 0, _ => []
  | width + 1, value => paddedText width (value / 10) ++ [UInt16.ofNat (48 + value % 10)]

theorem isAscii_append (left right : Bytes)
    : isAscii (left ++ right) = (isAscii left && isAscii right) :=
  List.all_append

theorem isAscii_hexText (octets : Bytes) : isAscii (hexText octets) = true := by
  have digit : ∀ nibble : Fin 16, hexDigit (UInt8.ofNat nibble) < 128 := by decide
  induction octets with
  | nil => rfl
  | cons octet rest ih =>
      obtain ⟨high, low, first, second, -⟩ := exists_nibbles octet
      simp only [isAscii, hexText, first, second, List.all_cons, Bool.and_eq_true,
        decide_eq_true_eq]
      exact ⟨digit high, digit low, ih⟩

@[simp]
theorem bytesToHex_length (octets : Bytes)
    : (bytesToHex octets).length = 2 * octets.length := by
  simp [bytesToHex]

/-- The two digits of an octet read back. -/
theorem hexValue_hexDigit (octet : UInt8)
    : hexValue (hexDigit (octet >>> 4)).toUInt16 = some (octet >>> 4)
      ∧ hexValue (hexDigit (octet &&& 15)).toUInt16 = some (octet &&& 15)
      ∧ (octet >>> 4) * 16 + (octet &&& 15) = octet := by
  have table : ∀ nibble : Fin 16,
      hexValue (hexDigit (UInt8.ofNat nibble)).toUInt16 = some (UInt8.ofNat nibble) := by
    decide
  obtain ⟨high, low, first, second, whole⟩ := exists_nibbles octet
  rw [first, second]
  exact ⟨table high, table low, whole⟩

/-- Hexadecimal text is made of lower-case digits. -/
theorem bytesToHex_all (octets : Bytes) : (bytesToHex octets).all isLowerHexDigit = true := by
  have table : ∀ nibble : Fin 16,
      isLowerHexDigit (hexDigit (UInt8.ofNat nibble)).toUInt16 = true := by
    decide
  induction octets with
  | nil => rfl
  | cons octet rest ih =>
      obtain ⟨high, low, first, second, -⟩ := exists_nibbles octet
      simp only [bytesToHex, hexText, ofOctets_cons, List.all_cons, first, second, table,
        Bool.true_and]
      exact ih

/-- Hexadecimal text reads back, by induction on the octets. -/
theorem hexToBytes_bytesToHex (octets : Bytes)
    : hexToBytes (bytesToHex octets) = some octets := by
  induction octets with
  | nil => rfl
  | cons octet rest ih =>
      obtain ⟨high, low, joined⟩ := hexValue_hexDigit octet
      change hexToBytes (_ :: _ :: bytesToHex rest) = _
      simp only [hexToBytes, high, low, ih, joined]

/-- Two lower-case digits are the digits of one octet, by exhausting their values. -/
theorem exists_octet_of_digits {high low : UInt16} (highDigit : isLowerHexDigit high = true)
    (lowDigit : isLowerHexDigit low = true)
    : ∃ octet : UInt8,
        (hexDigit (octet >>> 4)).toUInt16 = high ∧ (hexDigit (octet &&& 15)).toUInt16 = low := by
  have nibble {unit : UInt16} (digit : isLowerHexDigit unit = true)
      : ∃ value : Fin 16, (hexDigit (UInt8.ofNat value)).toUInt16 = unit := by
    have table : ∀ value : Fin 128,
        isLowerHexDigit (UInt16.ofNat value) = true
        → ∃ nibble : Fin 16,
            (hexDigit (UInt8.ofNat nibble)).toUInt16 = UInt16.ofNat value := by
      decide
    have small : unit.toNat < 128 := by
      simp only [isLowerHexDigit, Bool.or_eq_true, Bool.and_eq_true, decide_eq_true_eq,
        UInt16.le_iff_toNat_le] at digit
      rcases digit with ⟨-, bound⟩ | ⟨-, bound⟩
      · exact Nat.lt_of_le_of_lt bound (by decide)
      · exact Nat.lt_of_le_of_lt bound (by decide)
    have found := table ⟨unit.toNat, small⟩
    rw [UInt16.ofNat_toNat] at found
    exact found digit
  obtain ⟨first, rfl⟩ := nibble highDigit
  obtain ⟨second, rfl⟩ := nibble lowDigit
  have table : ∀ first second : Fin 16,
      (UInt8.ofNat first * 16 + UInt8.ofNat second) >>> 4 = UInt8.ofNat first
      ∧ (UInt8.ofNat first * 16 + UInt8.ofNat second) &&& 15 = UInt8.ofNat second := by
    decide
  obtain ⟨highPart, lowPart⟩ := table first second
  exact ⟨UInt8.ofNat first * 16 + UInt8.ofNat second, by rw [highPart], by rw [lowPart]⟩

/-- Lower-case hexadecimal text of even length is the text of its octets, by induction on
their number.
-/
theorem exists_bytesToHex {count : Nat} {text : JsString} (even : text.length = 2 * count)
    (digits : text.all isLowerHexDigit = true)
    : ∃ octets, octets.length = count ∧ bytesToHex octets = text := by
  induction count generalizing text with
  | zero => exact ⟨[], rfl, (List.eq_nil_of_length_eq_zero even).symm⟩
  | succ count ih =>
      match text, even, digits with
      | high :: low :: rest, even, digits =>
          simp only [List.all_cons, Bool.and_eq_true] at digits
          obtain ⟨octet, rfl, rfl⟩ := exists_octet_of_digits digits.1 digits.2.1
          obtain ⟨octets, length, rfl⟩ :=
            ih (by simp only [List.length_cons] at even; omega) digits.2.2
          exact ⟨octet :: octets, by rw [List.length_cons, length], rfl⟩
      | [_], even, _ =>
          simp only [List.length_singleton] at even
          omega
      | [], even, _ => simp at even

/-- Text of the 32-octet form is the text of 32 octets. -/
theorem exists_bytes_of_isHex32 {text : JsString} (hex : isHex32 text = true)
    : ∃ octets : BytesN 32, bytesToHex octets.val = text := by
  simp only [isHex32, Bool.and_eq_true, beq_iff_eq] at hex
  obtain ⟨octets, length, written⟩ := @exists_bytesToHex 32 text hex.1 hex.2
  exact ⟨⟨octets, length⟩, written⟩

-----------------------------------------------------------------------------------------
-- Decimal digits
-----------------------------------------------------------------------------------------

theorem digit_toNat_of_lt {digit : Nat} (small : digit < 10)
    : (UInt16.ofNat (48 + digit)).toNat = 48 + digit := by
  rw [UInt16.toNat_ofNat']
  omega

theorem isDigit_ofNat {digit : Nat} (small : digit < 10)
    : isDigit (UInt16.ofNat (48 + digit)) = true := by
  simp only [isDigit, Bool.and_eq_true, decide_eq_true_eq, UInt16.le_iff_toNat_le,
    digit_toNat_of_lt small]
  exact ⟨Nat.le_add_right 48 _, Nat.add_le_add_left (Nat.le_of_lt_succ small) 48⟩

theorem digit_toNat (value : Nat) : (UInt16.ofNat (48 + value % 10)).toNat = 48 + value % 10 :=
  digit_toNat_of_lt (Nat.mod_lt value (by decide))

@[simp]
theorem paddedText_length (width value : Nat) : (paddedText width value).length = width := by
  induction width generalizing value with
  | zero => rfl
  | succ width ih => simp [paddedText, ih]

theorem paddedText_all (width value : Nat) : (paddedText width value).all isDigit = true := by
  induction width generalizing value with
  | zero => rfl
  | succ width ih =>
      have low : value % 10 < 10 := Nat.mod_lt value (by decide)
      rw [paddedText, List.all_append, ih, List.all_cons, isDigit_ofNat low]
      rfl

/-- Padded digits read back, by induction on the width. -/
theorem digitsValue_paddedText {width value : Nat} (fits : value < 10 ^ width)
    : digitsValue (paddedText width value) = value := by
  induction width generalizing value with
  | zero =>
      rw [pow_zero, Nat.lt_one_iff] at fits
      rw [fits]
      rfl
  | succ width ih =>
      have high : value / 10 < 10 ^ width :=
        Nat.div_lt_of_lt_mul (by rwa [← pow_succ'])
      have read := ih high
      rw [digitsValue] at read
      rw [digitsValue, paddedText, List.foldl_append, read, List.foldl_cons, List.foldl_nil,
        digit_toNat, Nat.add_sub_cancel_left]
      exact Nat.div_add_mod' value 10

theorem numberText_natCast (value : Nat)
    : numberText (value : Int) = ofOctets (decimalText value) := by
  rw [numberText, if_neg (by omega), Int.natAbs_natCast]

theorem numberText_of_lt {value : Nat} (small : value < 10)
    : numberText (value : Int) = [UInt16.ofNat (48 + value)] := by
  have table : ∀ digit : Fin 10,
      (48 + UInt8.ofNat digit.val : UInt8).toUInt16 = UInt16.ofNat (48 + digit.val) := by decide
  rw [numberText_natCast, decimalText_of_lt small]
  exact congrArg (fun unit => [unit]) (table ⟨value, small⟩)

/-- Decimal text ends in the last digit, after the text of the other digits. -/
theorem numberText_of_le {value : Nat} (large : 10 ≤ value)
    : numberText (value : Int)
      = numberText ((value / 10 : Nat) : Int) ++ [UInt16.ofNat (48 + value % 10)] := by
  have last := numberText_of_lt (Nat.mod_lt value (by decide : 0 < 10))
  rw [numberText_natCast, decimalText_of_lt (Nat.mod_lt value (by decide : 0 < 10))] at last
  rw [numberText_natCast, decimalText_of_le large, ofOctets_append, last, numberText_natCast]

theorem digitsValue_append (front : JsString) (unit : UInt16)
    : digitsValue (front ++ [unit]) = digitsValue front * 10 + (unit.toNat - 48) := by
  rw [digitsValue, List.foldl_append]
  rfl

/-- The text of a natural number is digits that read back, without a zero in front unless it
is the number; by strong induction on the number.
-/
theorem numberText_spec (value : Nat)
    : (numberText (value : Int)).all isDigit = true
      ∧ digitsValue (numberText (value : Int)) = value
      ∧ numberText (value : Int) ≠ []
      ∧ (0 < value → (numberText (value : Int)).head? ≠ some 48) := by
  induction value using Nat.strongRecOn with
  | ind value ih =>
      by_cases small : value < 10
      · rw [numberText_of_lt small]
        refine ⟨?_, ?_, List.cons_ne_nil _ _, ?_⟩
        · rw [List.all_cons, isDigit_ofNat small]
          rfl
        · rw [← List.nil_append [UInt16.ofNat (48 + value)], digitsValue_append,
            digit_toNat_of_lt small, Nat.add_sub_cancel_left]
          exact Nat.zero_add value
        · intro positive same
          have unit := congrArg UInt16.toNat (Option.some.inj same)
          rw [digit_toNat_of_lt small] at unit
          have zero : (48 : UInt16).toNat = 48 := rfl
          omega
      · have large : 10 ≤ value := by omega
        obtain ⟨digits, read, filled, head⟩ := ih (value / 10) (by omega)
        have last : value % 10 < 10 := Nat.mod_lt value (by decide)
        rw [numberText_of_le large]
        refine ⟨?_, ?_, List.append_ne_nil_of_right_ne_nil _ (List.cons_ne_nil _ _), ?_⟩
        · rw [List.all_append, digits, List.all_cons, isDigit_ofNat last]
          rfl
        · rw [digitsValue_append, read, digit_toNat_of_lt last]
          omega
        · intro _
          rw [List.head?_append_of_ne_nil _ filled]
          exact head (by omega)

/-- Digits without a zero in front are the text of the number they spell, by induction from
the end.
-/
theorem numberText_digitsValue {text : JsString} (filled : text ≠ [])
    (digits : text.all isDigit = true) (head : text.head? ≠ some 48)
    : 0 < digitsValue text ∧ numberText (digitsValue text : Int) = text := by
  induction text using List.reverseRecOn with
  | nil => exact absurd rfl filled
  | append_singleton front unit ih =>
      rw [List.all_append, Bool.and_eq_true] at digits
      obtain ⟨digits, digit⟩ := digits
      obtain ⟨last, small, rfl⟩ : ∃ last, last < 10 ∧ unit = UInt16.ofNat (48 + last) := by
        have range : 48 ≤ unit.toNat ∧ unit.toNat ≤ 57 := by
          simpa [isDigit, UInt16.le_iff_toNat_le] using digit
        refine ⟨unit.toNat - 48, by omega, ?_⟩
        apply UInt16.toNat_inj.mp
        rw [UInt16.toNat_ofNat']
        omega
      rw [digitsValue_append, digit_toNat_of_lt small, Nat.add_sub_cancel_left]
      by_cases empty : front = []
      · subst empty
        have nonzero : last ≠ 0 := by
          intro zero
          subst zero
          exact head rfl
        have none : digitsValue [] = 0 := rfl
        rw [none, Nat.zero_mul, Nat.zero_add, numberText_of_lt small]
        exact ⟨Nat.pos_of_ne_zero nonzero, rfl⟩
      · rw [List.head?_append_of_ne_nil _ empty] at head
        obtain ⟨positive, written⟩ := ih empty digits head
        have tens : (digitsValue front * 10 + last) / 10 = digitsValue front := by omega
        have ones : (digitsValue front * 10 + last) % 10 = last := by omega
        rw [numberText_of_le (by omega), tens, ones, written]
        exact ⟨by omega, rfl⟩

end JsText
