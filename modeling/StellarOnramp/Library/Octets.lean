import Mathlib.Data.List.Induction
import Mathlib.Tactic.Ring

/-! Octet strings: big-endian numbers, length-prefixed fields, and hexadecimal text.
Every encoding here comes with the inverse or the injectivity law its users rely on.
-/

namespace Octets

/-- An octet string of any length. -/
abbrev Bytes := List UInt8

/-- An octet string of exactly `width` octets. -/
abbrev BytesN (width : Nat) := { bytes : Bytes // bytes.length = width }

def zeroBytes (width : Nat) : BytesN width := ⟨List.replicate width 0, List.length_replicate⟩

/-- The octets of an ASCII literal. -/
def ascii (text : String) : Bytes :=
  text.toList.map (fun char => UInt8.ofNat char.toNat)

-----------------------------------------------------------------------------------------
-- Big-endian numbers
-----------------------------------------------------------------------------------------

/-- The low `width` octets of `value`, most significant first (I2OSP). -/
def beBytes : Nat → Nat → Bytes
  | 0, _ => []
  | width + 1, value => beBytes width (value / 256) ++ [UInt8.ofNat value]

/-- The number an octet string spells, most significant first (OS2IP). -/
def beNat (bytes : Bytes) : Nat :=
  bytes.foldl (fun value byte => value * 256 + byte.toNat) 0

/-- `beBytes` has the requested width, by induction on it. -/
@[simp]
theorem beBytes_length (width value : Nat) : (beBytes width value).length = width := by
  induction width generalizing value with
  | zero => rfl
  | succ width ih => simp [beBytes, ih]

/-- The first octet holds the top of the number, by induction on the width. -/
theorem beBytes_succ (width value : Nat)
    : beBytes (width + 1) value
      = UInt8.ofNat (value / 256 ^ width) :: beBytes width value := by
  induction width generalizing value with
  | zero =>
      rw [pow_zero, Nat.div_one]
      rfl
  | succ width ih =>
      rw [beBytes, ih, Nat.div_div_eq_div_mul, ← pow_succ', beBytes]
      rfl

/-- Reading one more octet shifts the number, since the reader is a left fold. -/
theorem beNat_snoc (bytes : Bytes) (byte : UInt8)
    : beNat (bytes ++ [byte]) = beNat bytes * 256 + byte.toNat := by
  simp [beNat, List.foldl_append]

/-- Concatenation shifts the left number by the right width, by induction from the end. -/
theorem beNat_append (left right : Bytes)
    : beNat (left ++ right) = beNat left * 256 ^ right.length + beNat right := by
  induction right using List.reverseRecOn with
  | nil => simp [beNat]
  | append_singleton right byte ih =>
      rw [← List.append_assoc, beNat_snoc, beNat_snoc, ih, List.length_append,
        List.length_singleton, pow_succ]
      ring

/-- A string of `n` octets spells a number below `256 ^ n`, by induction from the end. -/
theorem beNat_lt (bytes : Bytes) : beNat bytes < 256 ^ bytes.length := by
  induction bytes using List.reverseRecOn with
  | nil => simp [beNat]
  | append_singleton bytes byte ih =>
      have small := byte.toNat_lt
      rw [beNat_snoc, List.length_append, List.length_singleton, pow_succ]
      omega

/-- Leading zero octets do not change the number. -/
theorem beNat_replicate_zero (count : Nat) (bytes : Bytes)
    : beNat (List.replicate count 0 ++ bytes) = beNat bytes := by
  induction count with
  | zero => rfl
  | succ count ih => simpa [List.replicate_succ, beNat] using ih

/-- Writing and reading back keeps the number modulo the width, by induction on it. -/
theorem beNat_beBytes (width value : Nat)
    : beNat (beBytes width value) = value % 256 ^ width := by
  induction width generalizing value with
  | zero => simp [beBytes, beNat, Nat.mod_one]
  | succ width ih =>
      have split : value % (256 * 256 ^ width) = value % 256 + 256 * (value / 256 % 256 ^ width) :=
        Nat.mod_mul
      have octet : (UInt8.ofNat value).toNat = value % 256 := UInt8.toNat_ofNat'
      rw [beBytes, beNat_snoc, ih, octet, pow_succ', split]
      omega

/-- A number that fits its width survives writing and reading back. -/
theorem beNat_beBytes_of_lt {width value : Nat} (fits : value < 256 ^ width)
    : beNat (beBytes width value) = value := by
  rw [beNat_beBytes, Nat.mod_eq_of_lt fits]

/-- Reading and writing back keeps the octets, by induction from the end. -/
theorem beBytes_beNat (bytes : Bytes) : beBytes bytes.length (beNat bytes) = bytes := by
  induction bytes using List.reverseRecOn with
  | nil => rfl
  | append_singleton bytes byte ih =>
      have small := byte.toNat_lt
      have front : (beNat bytes * 256 + byte.toNat) / 256 = beNat bytes := by omega
      have last : UInt8.ofNat (beNat bytes * 256 + byte.toNat) = byte := by
        apply UInt8.toNat_inj.mp
        rw [UInt8.toNat_ofNat']
        omega
      rw [beNat_snoc, List.length_append, List.length_singleton, beBytes, front, last, ih]

/-- Octet strings of one length that spell one number are equal. -/
theorem beNat_inj {left right : Bytes} (length : left.length = right.length)
    (same : beNat left = beNat right)
    : left = right := by
  rw [← beBytes_beNat left, ← beBytes_beNat right, length, same]

/-- Numbers that fit a width have distinct octets there. Witness: read them back. -/
theorem beBytes_inj {width left right : Nat} (leftFits : left < 256 ^ width)
    (rightFits : right < 256 ^ width)
    (same : beBytes width left = beBytes width right)
    : left = right := by
  rw [← beNat_beBytes_of_lt leftFits, same, beNat_beBytes_of_lt rightFits]

-----------------------------------------------------------------------------------------
-- Fields of one width
-----------------------------------------------------------------------------------------

/-- As many fields of one width can be read back from in front of a rest, by induction on
both lists.
-/
theorem flatMap_append_inj {α : Type} {emit : α → Bytes} {width : Nat}
    (fixed : ∀ item, (emit item).length = width) (injective : Function.Injective emit)
    {left right : List α} {leftRest rightRest : Bytes} (length : left.length = right.length)
    (same : left.flatMap emit ++ leftRest = right.flatMap emit ++ rightRest)
    : left = right ∧ leftRest = rightRest := by
  induction left generalizing right with
  | nil =>
      obtain rfl := List.length_eq_zero_iff.mp length.symm
      exact ⟨rfl, same⟩
  | cons item left ih =>
      cases right with
      | nil => cases length
      | cons item' right =>
          simp only [List.flatMap_cons, List.append_assoc] at same
          obtain ⟨heads, tails⟩ := List.append_inj same ((fixed item).trans (fixed item').symm)
          obtain ⟨rfl, rests⟩ := ih (Nat.succ.inj length) tails
          exact ⟨by rw [injective heads], rests⟩

-----------------------------------------------------------------------------------------
-- Length-prefixed fields
-----------------------------------------------------------------------------------------

/-- A field behind its length as four big-endian octets. -/
def lenPrefixed (field : Bytes) : Bytes :=
  beBytes 4 field.length ++ field

/-- Equal strings that start with length-prefixed fields agree on the field and on the rest.
Witness: the prefixes have equal width, so the lengths agree, and then the fields.
-/
theorem lenPrefixed_append_inj {left right leftRest rightRest : Bytes}
    (leftFits : left.length < 2 ^ 32) (rightFits : right.length < 2 ^ 32)
    (same : lenPrefixed left ++ leftRest = lenPrefixed right ++ rightRest)
    : left = right ∧ leftRest = rightRest := by
  simp only [lenPrefixed, List.append_assoc] at same
  obtain ⟨lengths, rest⟩ := List.append_inj same (by simp)
  have sameLength : left.length = right.length :=
    beBytes_inj (by omega) (by omega) lengths
  exact List.append_inj rest sameLength

/-- A sequence of length-prefixed fields. -/
def lenPrefixedFields (fields : List Bytes) : Bytes :=
  fields.flatMap lenPrefixed

theorem lenPrefixed_ne_nil (field rest : Bytes) : lenPrefixed field ++ rest ≠ [] := by
  intro empty
  have lengths := congrArg List.length empty
  simp [lenPrefixed] at lengths

/-- A sequence of fields can be read back from its octets, by induction on both sequences. -/
theorem lenPrefixedFields_inj {left right : List Bytes}
    (leftFits : ∀ field ∈ left, field.length < 2 ^ 32)
    (rightFits : ∀ field ∈ right, field.length < 2 ^ 32)
    (same : lenPrefixedFields left = lenPrefixedFields right)
    : left = right := by
  induction left generalizing right with
  | nil =>
      cases right with
      | nil => rfl
      | cons field rest => exact absurd same.symm (lenPrefixed_ne_nil field _)
  | cons field rest ih =>
      cases right with
      | nil => exact absurd same (lenPrefixed_ne_nil field _)
      | cons other more =>
          rcases List.forall_mem_cons.mp leftFits with ⟨fieldFits, restFits⟩
          rcases List.forall_mem_cons.mp rightFits with ⟨otherFits, moreFits⟩
          obtain ⟨heads, tails⟩ := lenPrefixed_append_inj fieldFits otherFits same
          rw [heads, ih restFits moreFits tails]

-----------------------------------------------------------------------------------------
-- Hexadecimal text
-----------------------------------------------------------------------------------------

/-- The lower-case hexadecimal digit of a nibble, as an ASCII octet. -/
def hexDigit (nibble : UInt8) : UInt8 :=
  if nibble < 10 then 48 + nibble else 87 + nibble

/-- Two lower-case hexadecimal digits for each octet, high nibble first. -/
def hexText : Bytes → Bytes
  | [] => []
  | byte :: rest => hexDigit (byte >>> 4) :: hexDigit (byte &&& 15) :: hexText rest

/-- Hexadecimal text is twice as long as its octets. -/
@[simp]
theorem hexText_length (bytes : Bytes) : (hexText bytes).length = 2 * bytes.length := by
  induction bytes with
  | nil => rfl
  | cons byte rest ih =>
      simp only [hexText, List.length_cons, ih]
      omega

theorem hexText_append (left right : Bytes)
    : hexText (left ++ right) = hexText left ++ hexText right := by
  induction left with
  | nil => rfl
  | cons byte rest ih => simp only [List.cons_append, hexText, ih]

/-- An octet is its two nibbles. -/
theorem exists_nibbles (octet : UInt8)
    : ∃ high low : Fin 16,
        octet >>> 4 = UInt8.ofNat high
        ∧ octet &&& 15 = UInt8.ofNat low
        ∧ UInt8.ofNat high * 16 + UInt8.ofNat low = octet := by
  have bound := octet.toNat_lt
  refine ⟨⟨octet.toNat / 16, by omega⟩, ⟨octet.toNat % 16, by omega⟩, ?_, ?_, ?_⟩
  · apply UInt8.toNat_inj.mp
    simp [Nat.shiftRight_eq_div_pow]
    omega
  · have masked := Nat.and_two_pow_sub_one_eq_mod octet.toNat 4
    apply UInt8.toNat_inj.mp
    simp at masked
    simp [masked]
    omega
  · apply UInt8.toNat_inj.mp
    simp
    omega

/-- The two digits of an octet determine it, because each digit reads back. -/
theorem hexDigits_inj (left right : UInt8)
    (high : hexDigit (left >>> 4) = hexDigit (right >>> 4))
    (low : hexDigit (left &&& 15) = hexDigit (right &&& 15))
    : left = right := by
  have table : ∀ nibble : Fin 16,
      UInt8.ofNat nibble = (if hexDigit (UInt8.ofNat nibble) < 87
          then hexDigit (UInt8.ofNat nibble) - 48
          else hexDigit (UInt8.ofNat nibble) - 87) := by decide
  obtain ⟨leftHigh, leftLow, leftFirst, leftSecond, leftWhole⟩ := exists_nibbles left
  obtain ⟨rightHigh, rightLow, rightFirst, rightSecond, rightWhole⟩ := exists_nibbles right
  rw [leftFirst, rightFirst] at high
  rw [leftSecond, rightSecond] at low
  rw [← leftWhole, ← rightWhole, table leftHigh, table leftLow, high, low, ← table, ← table]

/-- Hexadecimal text determines its octets, by induction on both strings. -/
theorem hexText_injective : Function.Injective hexText := by
  intro left right same
  induction left generalizing right with
  | nil =>
      cases right with
      | nil => rfl
      | cons byte rest => simp [hexText] at same
  | cons byte rest ih =>
      cases right with
      | nil => simp [hexText] at same
      | cons other more =>
          simp only [hexText, List.cons.injEq] at same
          obtain ⟨high, low, tails⟩ := same
          rw [hexDigits_inj byte other high low, ih tails]

-----------------------------------------------------------------------------------------
-- Decimal text
-----------------------------------------------------------------------------------------

/-- The decimal digits of a number without leading zeros, as ASCII octets. -/
def decimalText (value : Nat) : Bytes :=
  (Nat.toDigits 10 value).map (fun char => UInt8.ofNat char.toNat)

/-- The octet of a decimal digit. -/
theorem ofNat_digitChar {digit : Nat} (small : digit < 10)
    : UInt8.ofNat (Nat.digitChar digit).toNat = 48 + UInt8.ofNat digit := by
  have table : ∀ digit : Fin 10,
      UInt8.ofNat (Nat.digitChar digit).toNat = 48 + UInt8.ofNat digit := by decide
  exact table ⟨digit, small⟩

theorem decimalText_of_lt {value : Nat} (small : value < 10)
    : decimalText value = [48 + UInt8.ofNat value] := by
  simp [decimalText, Nat.toDigits_of_lt_base small, ofNat_digitChar small]

/-- Decimal text ends in the last digit, after the text of the other digits. -/
theorem decimalText_of_le {value : Nat} (large : 10 ≤ value)
    : decimalText value = decimalText (value / 10) ++ [48 + UInt8.ofNat (value % 10)] := by
  have small : value % 10 < 10 := Nat.mod_lt _ (by decide)
  simp only [decimalText, Nat.toDigits_of_base_le (by decide) large, List.map_append,
    List.map_cons, List.map_nil, ofNat_digitChar small]

/-- The octets of decimal text read back as its digit characters, since digits are ASCII. -/
theorem decimalText_readBack (value : Nat)
    : (decimalText value).map (fun byte => Char.ofNat byte.toNat) = Nat.toDigits 10 value := by
  rw [decimalText, List.map_map]
  refine (List.map_congr_left ?_).trans (List.map_id _)
  intro char member
  have digit := Nat.isDigit_of_mem_toDigits (by decide) (by decide) member
  have small : char.toNat ≤ '9'.toNat := (Char.isDigit_iff_toNat.mp digit).2
  have fits : char.toNat < 256 := Nat.lt_of_le_of_lt small (by decide)
  simp only [Function.comp_apply, UInt8.toNat_ofNat', Nat.mod_eq_of_lt fits,
    Char.ofNat_toNat, id_eq]

/-- Decimal text determines its number. Witness: read the digits back. -/
theorem decimalText_injective : Function.Injective decimalText := by
  intro left right same
  have digits : Nat.toDigits 10 left = Nat.toDigits 10 right := by
    rw [← decimalText_readBack left, same, decimalText_readBack right]
  rw [← Nat.ofDigitChars_ten_toDigits (n := left), digits, Nat.ofDigitChars_ten_toDigits]

end Octets
