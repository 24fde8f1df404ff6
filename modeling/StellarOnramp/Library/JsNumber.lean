import StellarOnramp.Library.Octets

/-! JavaScript's bitwise operators on numbers that hold integers: each reads its operands as
32-bit words, and all but the unsigned shift answer with a signed number.
-/

namespace JsNumber

open Octets

/-- The 32-bit word of a number. -/
def toWord (value : Int) : BitVec 32 := BitVec.ofInt 32 value

/-- `a & b` -/
def bitAnd (left right : Int) : Int := (toWord left &&& toWord right).toInt

/-- `a | b` -/
def bitOr (left right : Int) : Int := (toWord left ||| toWord right).toInt

/-- `a << count` -/
def shiftLeft (value : Int) (count : Nat) : Int := (toWord value <<< (count % 32)).toInt

/-- `a >> count`, which keeps the sign. -/
def shiftRight (value : Int) (count : Nat) : Int :=
  ((toWord value).sshiftRight (count % 32)).toInt

/-- `a >>> count`, which answers with a non-negative number. -/
def shiftRightZero (value : Int) (count : Nat) : Int := (toWord value >>> (count % 32)).toNat

/-- The octet that a `Uint8Array` stores for a number. -/
def toOctet (value : Int) : UInt8 := UInt8.ofInt value

@[simp]
theorem toWord_toInt (word : BitVec 32) : toWord word.toInt = word :=
  BitVec.ofInt_toInt

@[simp]
theorem toWord_natCast (value : Nat) : toWord value = BitVec.ofNat 32 value :=
  BitVec.ofInt_natCast 32 value

@[simp]
theorem toWord_bitAnd (left right : Int)
    : toWord (bitAnd left right) = toWord left &&& toWord right :=
  toWord_toInt _

@[simp]
theorem toWord_bitOr (left right : Int)
    : toWord (bitOr left right) = toWord left ||| toWord right :=
  toWord_toInt _

@[simp]
theorem toWord_shiftLeft (value : Int) (count : Nat)
    : toWord (shiftLeft value count) = toWord value <<< (count % 32) :=
  toWord_toInt _

@[simp]
theorem toWord_shiftRight (value : Int) (count : Nat)
    : toWord (shiftRight value count) = (toWord value).sshiftRight (count % 32) :=
  toWord_toInt _

@[simp]
theorem toWord_shiftRightZero (value : Int) (count : Nat)
    : toWord (shiftRightZero value count) = toWord value >>> (count % 32) := by
  rw [shiftRightZero, toWord_natCast, BitVec.ofNat_toNat, BitVec.setWidth_eq]

/-- A stored octet depends on the low eight bits of the word only. -/
theorem toOctet_toNat (value : Int) : (toOctet value).toNat = (toWord value).toNat % 256 := by
  have word : (toWord value).toNat = (value % 2 ^ 32).toNat := BitVec.toNat_ofInt value
  have octet : (toOctet value).toNat = (value % 2 ^ 8).toNat % 2 ^ 8 := UInt8.toNat_ofNat'
  rw [octet, word]
  omega

/-- Masking with `0xff` keeps the stored octet. -/
theorem toOctet_bitAnd (value : Int) : toOctet (bitAnd value 0xff) = toOctet value := by
  rw [← UInt8.toNat_inj, toOctet_toNat, toOctet_toNat, toWord_bitAnd, BitVec.toNat_and]
  have mask : (toWord 0xff).toNat = 2 ^ 8 - 1 := by decide
  rw [mask, Nat.and_two_pow_sub_one_eq_mod]
  omega

/-- The octet at a shift is that digit of the number in base 256. -/
theorem toOctet_shiftRightZero {value count : Nat} (small : count < 32)
    (fits : value < 2 ^ 32)
    : toOctet (shiftRightZero value count) = UInt8.ofNat (value / 2 ^ count) := by
  rw [← UInt8.toNat_inj, toOctet_toNat, toWord_shiftRightZero, BitVec.toNat_ushiftRight,
    toWord_natCast, BitVec.toNat_ofNat, Nat.mod_eq_of_lt fits, Nat.mod_eq_of_lt small,
    Nat.shiftRight_eq_div_pow, UInt8.toNat_ofNat']

/-- Four octets of a number, most significant first, as the shifts and masks write them. -/
def fourOctets (value : Int) : Bytes :=
  [
    toOctet (bitAnd (shiftRightZero value 24) 0xff),
    toOctet (bitAnd (shiftRightZero value 16) 0xff),
    toOctet (bitAnd (shiftRightZero value 8) 0xff),
    toOctet (bitAnd value 0xff)
  ]

/-- The shifts write every unsigned 32-bit number big-endian, above `2 ^ 31` as well. -/
theorem fourOctets_eq {value : Nat} (fits : value < 2 ^ 32)
    : fourOctets value = beBytes 4 value := by
  have last : toOctet (value : Int) = UInt8.ofNat value := by
    rw [← UInt8.toNat_inj, toOctet_toNat, toWord_natCast, BitVec.toNat_ofNat,
      Nat.mod_eq_of_lt fits, UInt8.toNat_ofNat']
  simp only [fourOctets, toOctet_bitAnd, toOctet_shiftRightZero (by decide : 24 < 32) fits,
    toOctet_shiftRightZero (by decide : 16 < 32) fits,
    toOctet_shiftRightZero (by decide : 8 < 32) fits, last]
  simp [beBytes, Nat.div_div_eq_div_mul]

-----------------------------------------------------------------------------------------
-- Low bits of a word
-----------------------------------------------------------------------------------------

/-- A small number is its own word. -/
theorem toWord_toNat_of_lt {value : Nat} (fits : value < 2 ^ 32)
    : (toWord value).toNat = value := by
  rw [toWord_natCast, BitVec.toNat_ofNat, Nat.mod_eq_of_lt fits]

/-- Shifting six bits in moves the low bits up, whatever stands above them. -/
theorem toWord_pushSix (value : Int) {bits sextet : Nat} (small : sextet < 64)
    (room : bits ≤ 26)
    : (toWord (bitOr (shiftLeft value 6) sextet)).toNat % 2 ^ (bits + 6)
      = (toWord value).toNat % 2 ^ bits * 64 + sextet := by
  have fits : sextet < 2 ^ 32 := Nat.lt_of_lt_of_le small (by decide)
  have wide : (2 : Nat) ^ (bits + 6) ∣ 2 ^ 32 := Nat.pow_dvd_pow 2 (by omega)
  have above : sextet < 2 ^ (bits + 6) := by
    have grows : 2 ^ 6 ≤ 2 ^ (bits + 6) := Nat.pow_le_pow_right (by decide) (by omega)
    exact Nat.lt_of_lt_of_le small grows
  have moved : (toWord value).toNat <<< 6 % 2 ^ (bits + 6)
      = ((toWord value).toNat % 2 ^ bits) <<< 6 := by
    rw [Nat.shiftLeft_eq, Nat.shiftLeft_eq, pow_add, Nat.mul_mod_mul_right]
  rw [toWord_bitOr, toWord_shiftLeft, BitVec.toNat_or, BitVec.toNat_shiftLeft,
    toWord_toNat_of_lt fits, Nat.or_mod_two_pow, Nat.mod_mod_of_dvd _ wide, moved,
    Nat.mod_eq_of_lt above, ← Nat.shiftLeft_add_eq_or_of_lt (i := 6) small, Nat.shiftLeft_eq]

/-- A signed shift leaves the octet at its position, as long as the word reaches that far. -/
theorem toOctet_shiftRight (value : Int) {count : Nat} (room : count ≤ 24)
    : (toOctet (bitAnd (shiftRight value count) 0xff)).toNat
      = (toWord value).toNat / 2 ^ count % 256 := by
  have small : count % 32 = count := Nat.mod_eq_of_lt (by omega)
  rw [toOctet_bitAnd, toOctet_toNat, toWord_shiftRight, small, ← Nat.shiftRight_eq_div_pow]
  change _ % 2 ^ 8 = _ % 2 ^ 8
  refine Nat.eq_of_testBit_eq fun position => ?_
  rw [Nat.testBit_mod_two_pow, Nat.testBit_mod_two_pow, Nat.testBit_shiftRight]
  by_cases low : position < 8
  · have inside : position < 32 := by omega
    have reached : count + position < 32 := by omega
    simp only [low, decide_true, Bool.true_and]
    change ((toWord value).sshiftRight count).getLsbD position
      = (toWord value).getLsbD (count + position)
    rw [BitVec.getLsbD_sshiftRight]
    simp [inside, reached]
  · simp [low]

/-- Masking with a block of low bits answers with their number. -/
theorem bitAnd_low (value : Int) {bits : Nat} (room : bits < 31)
    : bitAnd value ((2 ^ bits - 1 : Nat) : Int) = ((toWord value).toNat % 2 ^ bits : Nat) := by
  have positive : 0 < 2 ^ bits := Nat.two_pow_pos bits
  have half : 2 ^ bits ≤ 2 ^ 30 := Nat.pow_le_pow_right (by decide) (by omega)
  have below := Nat.mod_lt (toWord value).toNat positive
  have word : (toWord value &&& toWord ((2 ^ bits - 1 : Nat) : Int)).toNat
      = (toWord value).toNat % 2 ^ bits := by
    rw [BitVec.toNat_and, toWord_toNat_of_lt (by omega), Nat.and_two_pow_sub_one_eq_mod]
  rw [bitAnd, BitVec.toInt_eq_toNat_of_lt (by omega), word]

/-- A signed shift of a natural number is a division. -/
theorem shiftRight_natCast {value count : Nat} (fits : value < 2 ^ 31) (small : count < 32)
    : shiftRight value count = (value / 2 ^ count : Nat) := by
  have word : (toWord value).toInt = value := by
    rw [BitVec.toInt_eq_toNat_of_lt, toWord_toNat_of_lt (by omega)]
    rw [toWord_toNat_of_lt (by omega)]
    omega
  rw [shiftRight, BitVec.toInt_sshiftRight, word, Nat.mod_eq_of_lt small,
    Int.shiftRight_eq_div_pow]
  norm_cast

/-- The octet that or-ing two octet-sized numbers stores. -/
theorem toOctet_bitOr {left right : Nat} (leftFits : left < 256) (rightFits : right < 256)
    : (toOctet (bitOr left right)).toNat = left ||| right := by
  have width : (256 : Nat) = 2 ^ 8 := by decide
  rw [toOctet_toNat, toWord_bitOr, BitVec.toNat_or, toWord_toNat_of_lt (by omega),
    toWord_toNat_of_lt (by omega)]
  exact Nat.mod_eq_of_lt (width ▸ Nat.or_lt_two_pow (width ▸ leftFits) (width ▸ rightFits))

/-- Shifting one bit in doubles a small number. -/
theorem bitOr_shiftLeft_one {value bit : Nat} (fits : value < 2 ^ 30) (single : bit < 2)
    : bitOr (shiftLeft value 1) bit = (2 * value + bit : Nat) := by
  have word : (toWord (shiftLeft value 1) ||| toWord bit).toNat = 2 * value + bit := by
    have joined := Nat.shiftLeft_add_eq_or_of_lt (a := value) (i := 1) (b := bit) single
    rw [Nat.shiftLeft_eq] at joined
    have doubled : value <<< 1 % 2 ^ 32 = value * 2 ^ 1 := by
      rw [Nat.shiftLeft_eq]
      omega
    have one : 1 % 32 = 1 := by decide
    rw [BitVec.toNat_or, toWord_shiftLeft, BitVec.toNat_shiftLeft, toWord_toNat_of_lt (by omega),
      toWord_toNat_of_lt (by omega), one, doubled, ← joined]
    omega
  rw [bitOr, BitVec.toInt_eq_toNat_of_lt (by omega), word]

end JsNumber
