import StellarOnramp.Identity.Schema
import StellarOnramp.Library.JsNumber

/-! Strict base64url without padding, as the status list codec writes and reads it. -/

namespace StellarOnramp.Identity

open Attempts JsNumber JsText Octets

def statusListFailure (message : JsString) : Failure :=
  { kind := .statusList, message }

def b64urlAlphabet : Bytes :=
  ascii "ABCDEFGHIJKLMNOPQRSTUVWXYZabcdefghijklmnopqrstuvwxyz0123456789-_"

/-- The position of a character in the alphabet. -/
def b64urlReverse (code : UInt16) : Option Nat :=
  if code < 128 then b64urlAlphabet.idxOf? code.toUInt8 else none

/-- The character at a position; outside the alphabet there is none. -/
def b64char (sextet : Number) : JsString :=
  if sextet < 0 then
    []
  else
    (b64urlAlphabet[sextet.toNat]?).toList.map UInt8.toUInt16

def base64urlEncode : Bytes → JsString
  | a :: b :: c :: rest =>
      let n := bitOr (bitOr (shiftLeft a.toNat 16) (shiftLeft b.toNat 8)) c.toNat
      b64char (bitAnd (shiftRight n 18) 63)
        ++ b64char (bitAnd (shiftRight n 12) 63)
        ++ b64char (bitAnd (shiftRight n 6) 63)
        ++ b64char (bitAnd n 63)
        ++ base64urlEncode rest
  | [a, b] =>
      b64char (shiftRight a.toNat 2)
        ++ b64char (bitAnd (bitOr (shiftLeft a.toNat 4) (shiftRight b.toNat 4)) 63)
        ++ b64char (bitAnd (shiftLeft b.toNat 2) 63)
  | [a] => b64char (shiftRight a.toNat 2) ++ b64char (bitAnd (shiftLeft a.toNat 4) 63)
  | [] => []

/-- Shift the characters into the accumulator and take an octet off whenever it holds one.
The accumulator and the number of its unread bits are left over.
-/
def decodeUnits (acc : Number) (bits : Nat) : JsString → Attempt (Bytes × Number × Nat)
  | [] => .ok ([], acc, bits)
  | unit :: rest =>
      match b64urlReverse unit with
      | none =>
          .error
            (statusListFailure
              (js "\"" ++ [unit]
                ++ js "\" is not a base64url character (padding \"=\" is not allowed either)"))
      | some v =>
          let acc := bitOr (shiftLeft acc 6) v
          let bits := bits + 6
          if 8 ≤ bits then do
            let bits := bits - 8
            let octet := toOctet (bitAnd (shiftRight acc bits) 0xff)
            let (out, left) ← decodeUnits acc bits rest
            .ok (octet :: out, left)
          else
            decodeUnits acc bits rest

/-- The octets that a text of a length without padding holds. -/
def decodedLength (n : Nat) : Nat :=
  n / 4 * 3 + (if n % 4 = 0 then 0 else n % 4 - 1)

def base64urlDecode (s : JsString) : Attempt Bytes := do
  failIf (s.length % 4 = 1) (statusListFailure (js "base64url string has an impossible length"))
  let (out, acc, bits) ← decodeUnits 0 0 s
  -- Leftover bits must be zero, or two texts would decode to the same octets.
  failIf (0 < bits ∧ bitAnd acc (shiftLeft 1 bits - 1) ≠ 0)
    (statusListFailure (js "base64url string has non-canonical trailing bits"))
  failIf (out.length ≠ decodedLength s.length)
    (statusListFailure (js "internal: base64url length miscount"))
  .ok out

-----------------------------------------------------------------------------------------
-- One character
-----------------------------------------------------------------------------------------

/-- The character of a sextet. -/
def sextetChar (sextet : Nat) : UInt16 :=
  (b64urlAlphabet.getD sextet 0).toUInt16

theorem b64char_eq {sextet : Nat} (small : sextet < 64)
    : b64char sextet = [sextetChar sextet] := by
  have table : ∀ sextet : Fin 64, b64char sextet.val = [sextetChar sextet.val] := by
    decide +kernel
  exact table ⟨sextet, small⟩

theorem b64urlReverse_sextetChar {sextet : Nat} (small : sextet < 64)
    : b64urlReverse (sextetChar sextet) = some sextet := by
  have table : ∀ sextet : Fin 64, b64urlReverse (sextetChar sextet.val) = some sextet.val := by
    decide +kernel
  exact table ⟨sextet, small⟩

/-- The low bits of the accumulator after a character. -/
theorem decodeUnits_short {acc : Int} {bits low sextet : Nat} {rest : JsString}
    (small : sextet < 64) (short : bits + 6 < 8)
    (held : (toWord acc).toNat % 2 ^ bits = low)
    : ∃ next : Int,
        decodeUnits acc bits (sextetChar sextet :: rest) = decodeUnits next (bits + 6) rest
        ∧ (toWord next).toNat % 2 ^ (bits + 6) = low * 64 + sextet := by
  refine ⟨bitOr (shiftLeft acc 6) sextet, ?_, ?_⟩
  · simp only [decodeUnits, b64urlReverse_sextetChar small, if_neg (Nat.not_le.mpr short)]
  · rw [toWord_pushSix acc small (by omega), held]

/-- A character that completes an octet: the octet is the top of the unread bits, and the
rest of them stay.
-/
theorem decodeUnits_long {acc : Int} {bits low sextet : Nat} {rest : JsString}
    (small : sextet < 64) (long : 8 ≤ bits + 6) (room : bits ≤ 8)
    (held : (toWord acc).toNat % 2 ^ bits = low)
    : ∃ next : Int,
        decodeUnits acc bits (sextetChar sextet :: rest)
          = (decodeUnits next (bits - 2) rest).map
              (fun found =>
                (UInt8.ofNat ((low * 64 + sextet) / 2 ^ (bits - 2)) :: found.1, found.2))
        ∧ (toWord next).toNat % 2 ^ (bits - 2) = (low * 64 + sextet) % 2 ^ (bits - 2) := by
  have pushed := toWord_pushSix acc small (by omega : bits ≤ 26)
  rw [held] at pushed
  have left : bits + 6 - 8 = bits - 2 := by omega
  have width : 2 ^ (bits + 6) = 2 ^ (bits - 2) * 256 := by
    have split : bits + 6 = bits - 2 + 8 := by omega
    rw [split, pow_add]
    norm_num
  have octet : toOctet (bitAnd (shiftRight (bitOr (shiftLeft acc 6) sextet) (bits - 2)) 0xff)
      = UInt8.ofNat ((low * 64 + sextet) / 2 ^ (bits - 2)) := by
    rw [← UInt8.toNat_inj, toOctet_shiftRight _ (by omega), UInt8.toNat_ofNat', ← pushed, width,
      Nat.mod_mul_right_div_self, Nat.mod_mod]
  refine ⟨bitOr (shiftLeft acc 6) sextet, ?_, ?_⟩
  · simp only [decodeUnits, b64urlReverse_sextetChar small, if_pos long, left, octet]
    cases decodeUnits (bitOr (shiftLeft acc 6) sextet) (bits - 2) rest <;> rfl
  · rw [← pushed, width, Nat.mod_mul_right_mod]

-----------------------------------------------------------------------------------------
-- The round trip
-----------------------------------------------------------------------------------------

theorem ofNat_eq_of_toNat {octet : UInt8} {value : Nat} (same : value = octet.toNat)
    : UInt8.ofNat value = octet := by
  rw [same, UInt8.ofNat_toNat]

/-- An octet shifted inside a word. -/
theorem toWord_shiftLeft_octet (octet : UInt8) {count : Nat} (fits : count ≤ 16)
    : (toWord (shiftLeft octet.toNat count)).toNat = octet.toNat * 2 ^ count := by
  have small := octet.toNat_lt
  have bound : octet.toNat * 2 ^ count < 2 ^ 32 := by
    have grows : 2 ^ count ≤ 2 ^ 16 := Nat.pow_le_pow_right (by decide) fits
    calc octet.toNat * 2 ^ count ≤ 255 * 2 ^ 16 := Nat.mul_le_mul (by omega) grows
      _ < 2 ^ 32 := by decide
  rw [toWord_shiftLeft, BitVec.toNat_shiftLeft, toWord_toNat_of_lt (by omega),
    Nat.mod_eq_of_lt (by omega : count < 32), Nat.shiftLeft_eq, Nat.mod_eq_of_lt bound]

/-- The number that three octets make in the encoder. -/
theorem packed_toNat (a b c : UInt8)
    : (toWord (bitOr (bitOr (shiftLeft a.toNat 16) (shiftLeft b.toNat 8)) c.toNat)).toNat
      = a.toNat * 65536 + b.toNat * 256 + c.toNat := by
  have aSmall := a.toNat_lt
  have bSmall := b.toNat_lt
  have cSmall := c.toNat_lt
  have first : (a.toNat * 2 ^ 16) ||| (b.toNat * 2 ^ 8) = (a.toNat * 256 + b.toNat) * 2 ^ 8 := by
    have joined := Nat.shiftLeft_add_eq_or_of_lt (a := a.toNat) (i := 16)
      (b := b.toNat * 2 ^ 8) (by omega)
    rw [Nat.shiftLeft_eq] at joined
    omega
  have second : ((a.toNat * 256 + b.toNat) * 2 ^ 8) ||| c.toNat
      = (a.toNat * 256 + b.toNat) * 2 ^ 8 + c.toNat := by
    have joined := Nat.shiftLeft_add_eq_or_of_lt (a := a.toNat * 256 + b.toNat) (i := 8)
      (b := c.toNat) (by omega)
    rw [Nat.shiftLeft_eq] at joined
    exact joined.symm
  rw [toWord_bitOr, toWord_bitOr, BitVec.toNat_or, BitVec.toNat_or,
    toWord_shiftLeft_octet a (by decide), toWord_shiftLeft_octet b (by decide),
    toWord_toNat_of_lt (by omega), first, second]
  omega

/-- A sextet that the encoder masks out of a small word. -/
theorem b64char_bitAnd (value : Int)
    : b64char (bitAnd value 63) = [sextetChar ((toWord value).toNat % 64)] := by
  have low := bitAnd_low value (by decide : 6 < 31)
  have mask : ((2 ^ 6 - 1 : Nat) : Int) = 63 := by decide
  rw [mask] at low
  rw [low]
  exact b64char_eq (Nat.mod_lt _ (by decide))

/-- Three octets are written as their four sextets. -/
theorem base64urlEncode_three (a b c : UInt8) (rest : Bytes)
    : base64urlEncode (a :: b :: c :: rest)
      = sextetChar (a.toNat / 4)
        :: sextetChar (a.toNat % 4 * 16 + b.toNat / 16)
        :: sextetChar (b.toNat % 16 * 4 + c.toNat / 64)
        :: sextetChar (c.toNat % 64)
        :: base64urlEncode rest := by
  have aSmall := a.toNat_lt
  have bSmall := b.toNat_lt
  have cSmall := c.toNat_lt
  have packed := packed_toNat a b c
  have shifted {count : Nat} (fits : count ≤ 18) :
      (toWord (shiftRight (bitOr (bitOr (shiftLeft a.toNat 16) (shiftLeft b.toNat 8)) c.toNat)
          count)).toNat
        = (a.toNat * 65536 + b.toNat * 256 + c.toNat) / 2 ^ count := by
    have positive : ¬ (toWord
        (bitOr (bitOr (shiftLeft a.toNat 16) (shiftLeft b.toNat 8)) c.toNat)).msb = true := by
      rw [BitVec.msb_eq_decide, packed, decide_eq_true_eq]
      omega
    rw [toWord_shiftRight, BitVec.sshiftRight_eq_of_msb_false (by simpa using positive),
      BitVec.toNat_ushiftRight, packed, Nat.mod_eq_of_lt (by omega : count < 32),
      Nat.shiftRight_eq_div_pow]
  have first : (a.toNat * 65536 + b.toNat * 256 + c.toNat) / 2 ^ 18 % 64 = a.toNat / 4 := by
    omega
  have second : (a.toNat * 65536 + b.toNat * 256 + c.toNat) / 2 ^ 12 % 64
      = a.toNat % 4 * 16 + b.toNat / 16 := by
    omega
  have third : (a.toNat * 65536 + b.toNat * 256 + c.toNat) / 2 ^ 6 % 64
      = b.toNat % 16 * 4 + c.toNat / 64 := by
    omega
  have fourth : (a.toNat * 65536 + b.toNat * 256 + c.toNat) % 64 = c.toNat % 64 := by
    omega
  simp only [base64urlEncode, b64char_bitAnd, packed, shifted (by decide : 18 ≤ 18),
    shifted (by decide : 12 ≤ 18), shifted (by decide : 6 ≤ 18), List.cons_append,
    List.nil_append, first, second, third, fourth]

theorem b64char_shiftRight (octet : UInt8)
    : b64char (shiftRight octet.toNat 2) = [sextetChar (octet.toNat / 4)] := by
  have small := octet.toNat_lt
  rw [shiftRight_natCast (by omega) (by decide)]
  exact b64char_eq (by omega)

theorem base64urlEncode_two (a b : UInt8)
    : base64urlEncode [a, b]
      = [
          sextetChar (a.toNat / 4),
          sextetChar (a.toNat % 4 * 16 + b.toNat / 16),
          sextetChar (b.toNat % 16 * 4)
        ] := by
  have aSmall := a.toNat_lt
  have bSmall := b.toNat_lt
  have middle : (toWord (bitOr (shiftLeft a.toNat 4) (shiftRight b.toNat 4))).toNat % 64
      = a.toNat % 4 * 16 + b.toNat / 16 := by
    have joined := Nat.shiftLeft_add_eq_or_of_lt (a := a.toNat) (i := 4)
      (b := b.toNat / 2 ^ 4) (by omega)
    rw [Nat.shiftLeft_eq] at joined
    rw [toWord_bitOr, BitVec.toNat_or, toWord_shiftLeft_octet a (by decide),
      shiftRight_natCast (by omega) (by decide), toWord_toNat_of_lt (by omega), ← joined]
    omega
  have last : (toWord (shiftLeft b.toNat 2)).toNat % 64 = b.toNat % 16 * 4 := by
    rw [toWord_shiftLeft_octet b (by decide)]
    omega
  simp only [base64urlEncode, b64char_shiftRight, b64char_bitAnd, middle, last,
    List.cons_append, List.nil_append]

theorem base64urlEncode_one (a : UInt8)
    : base64urlEncode [a] = [sextetChar (a.toNat / 4), sextetChar (a.toNat % 4 * 16)] := by
  have small := a.toNat_lt
  have last : (toWord (shiftLeft a.toNat 4)).toNat % 64 = a.toNat % 4 * 16 := by
    rw [toWord_shiftLeft_octet a (by decide)]
    omega
  simp only [base64urlEncode, b64char_shiftRight, b64char_bitAnd, last, List.cons_append,
    List.nil_append]

/-- Decoding what was encoded: the octets come back, whatever the accumulator held before,
and the leftover bits are zero. By induction on the groups of three octets.
-/
theorem decodeUnits_base64urlEncode (bytes : Bytes) (acc : Int)
    : ∃ (left : Int) (bits : Nat),
        decodeUnits acc 0 (base64urlEncode bytes) = .ok (bytes, left, bits)
        ∧ bits < 31
        ∧ (toWord left).toNat % 2 ^ bits = 0 := by
  induction bytes using base64urlEncode.induct generalizing acc with
  | case1 a b c rest ih =>
      have aSmall := a.toNat_lt
      have bSmall := b.toNat_lt
      have cSmall := c.toNat_lt
      obtain ⟨first, firstStep, firstLow⟩ :=
        decodeUnits_short (by omega : a.toNat / 4 < 64) (by decide : 0 + 6 < 8)
          (Nat.mod_one (toWord acc).toNat)
      obtain ⟨second, secondStep, secondLow⟩ :=
        decodeUnits_long (by omega : a.toNat % 4 * 16 + b.toNat / 16 < 64)
          (by decide) (by decide) firstLow
      obtain ⟨third, thirdStep, thirdLow⟩ :=
        decodeUnits_long (by omega : b.toNat % 16 * 4 + c.toNat / 64 < 64)
          (by decide) (by decide) secondLow
      obtain ⟨fourth, fourthStep, fourthLow⟩ :=
        decodeUnits_long (by omega : c.toNat % 64 < 64)
          (by decide) (by decide) thirdLow
      obtain ⟨left, bits, decoded, room, zero⟩ := ih fourth
      refine ⟨left, bits, ?_, room, zero⟩
      rw [base64urlEncode_three, firstStep, secondStep, thirdStep, fourthStep, decoded]
      simp only [Except.map, Except.ok.injEq, Prod.mk.injEq, List.cons.injEq, and_true]
      exact ⟨ofNat_eq_of_toNat (by omega), ofNat_eq_of_toNat (by omega),
        ofNat_eq_of_toNat (by omega)⟩
  | case2 a b =>
      have aSmall := a.toNat_lt
      have bSmall := b.toNat_lt
      obtain ⟨first, firstStep, firstLow⟩ :=
        decodeUnits_short (by omega : a.toNat / 4 < 64) (by decide : 0 + 6 < 8)
          (Nat.mod_one (toWord acc).toNat)
      obtain ⟨second, secondStep, secondLow⟩ :=
        decodeUnits_long (by omega : a.toNat % 4 * 16 + b.toNat / 16 < 64)
          (by decide) (by decide) firstLow
      obtain ⟨third, thirdStep, thirdLow⟩ :=
        decodeUnits_long (by omega : b.toNat % 16 * 4 < 64)
          (by decide) (by decide) secondLow
      refine ⟨third, _, ?_, by decide, thirdLow.trans (by omega)⟩
      rw [base64urlEncode_two, firstStep, secondStep, thirdStep]
      simp only [decodeUnits, Except.map, Except.ok.injEq, Prod.mk.injEq, List.cons.injEq,
        and_true]
      exact ⟨ofNat_eq_of_toNat (by omega), ofNat_eq_of_toNat (by omega)⟩
  | case3 a =>
      have small := a.toNat_lt
      obtain ⟨first, firstStep, firstLow⟩ :=
        decodeUnits_short (by omega : a.toNat / 4 < 64) (by decide : 0 + 6 < 8)
          (Nat.mod_one (toWord acc).toNat)
      obtain ⟨second, secondStep, secondLow⟩ :=
        decodeUnits_long (by omega : a.toNat % 4 * 16 < 64)
          (by decide) (by decide) firstLow
      refine ⟨second, _, ?_, by decide, secondLow.trans (by omega)⟩
      rw [base64urlEncode_one, firstStep, secondStep]
      simp only [decodeUnits, Except.map, Except.ok.injEq, Prod.mk.injEq, List.cons.injEq,
        and_true]
      exact ofNat_eq_of_toNat (by omega)
  | case4 => exact ⟨acc, 0, rfl, by decide, Nat.mod_one _⟩

/-- What holds of every character of the alphabet holds of encoded text, by induction on the
groups of three octets.
-/
theorem forall_mem_base64urlEncode {holds : UInt16 → Prop}
    (sextets : ∀ sextet, sextet < 64 → holds (sextetChar sextet)) (bytes : Bytes)
    : ∀ unit ∈ base64urlEncode bytes, holds unit := by
  induction bytes using base64urlEncode.induct with
  | case1 a b c rest ih =>
      have aSmall := a.toNat_lt
      have bSmall := b.toNat_lt
      have cSmall := c.toNat_lt
      rw [base64urlEncode_three]
      simp only [List.forall_mem_cons]
      exact ⟨sextets _ (by omega), sextets _ (by omega), sextets _ (by omega),
        sextets _ (by omega), ih⟩
  | case2 a b =>
      have aSmall := a.toNat_lt
      have bSmall := b.toNat_lt
      rw [base64urlEncode_two]
      simp only [List.forall_mem_cons]
      exact ⟨sextets _ (by omega), sextets _ (by omega), sextets _ (by omega), nofun⟩
  | case3 a =>
      have small := a.toNat_lt
      rw [base64urlEncode_one]
      simp only [List.forall_mem_cons]
      exact ⟨sextets _ (by omega), sextets _ (by omega), nofun⟩
  | case4 => exact nofun

/-- Encoded text is of the alphabet. -/
theorem base64urlEncode_known (bytes : Bytes)
    : ∀ unit ∈ base64urlEncode bytes, (b64urlReverse unit).isSome := by
  apply forall_mem_base64urlEncode
  intro sextet small
  rw [b64urlReverse_sextetChar small]
  rfl

/-- The length of encoded text, by induction on the groups of three octets. -/
theorem base64urlEncode_length (bytes : Bytes)
    : (base64urlEncode bytes).length
      = bytes.length / 3 * 4 + (if bytes.length % 3 = 0 then 0 else bytes.length % 3 + 1) := by
  induction bytes using base64urlEncode.induct with
  | case1 a b c rest ih =>
      have remainder : (rest.length + 3) % 3 = rest.length % 3 := by omega
      rw [base64urlEncode_three]
      simp only [List.length_cons, ih, remainder]
      omega
  | case2 a b =>
      rw [base64urlEncode_two]
      simp
  | case3 a =>
      rw [base64urlEncode_one]
      simp
  | case4 => rfl

/-- The mask of the leftover bits. -/
theorem bitAnd_trailing (left : Int) {bits : Nat} (room : bits < 31)
    : bitAnd left (shiftLeft 1 bits - 1) = ((toWord left).toNat % 2 ^ bits : Nat) := by
  have mask : shiftLeft 1 bits - 1 = ((2 ^ bits - 1 : Nat) : Int) := by
    have table
        : ∀ bits : Fin 31, shiftLeft 1 bits.val - 1 = ((2 ^ bits.val - 1 : Nat) : Int) := by
      decide +kernel
    exact table ⟨bits, room⟩
  rw [mask, bitAnd_low left room]

/-- Every octet string survives encoding and decoding. -/
theorem base64urlDecode_base64urlEncode (bytes : Bytes)
    : base64urlDecode (base64urlEncode bytes) = .ok bytes := by
  obtain ⟨left, bits, decoded, room, zero⟩ := decodeUnits_base64urlEncode bytes 0
  have length := base64urlEncode_length bytes
  have possible : ¬ (base64urlEncode bytes).length % 4 = 1 := by
    rw [length]
    split <;> omega
  have counted : bytes.length = decodedLength (base64urlEncode bytes).length := by
    rw [length, decodedLength]
    split <;> split <;> omega
  have canonical : ¬ (0 < bits ∧ bitAnd left (shiftLeft 1 bits - 1) ≠ 0) := by
    rintro ⟨-, trailing⟩
    apply trailing
    rw [bitAnd_trailing left room, zero]
    rfl
  refine failIf_bind_eq_ok.mpr ⟨possible, bind_eq_ok.mpr ⟨_, decoded, ?_⟩⟩
  exact failIf_bind_eq_ok.mpr ⟨canonical, failIf_bind_eq_ok.mpr ⟨not_not.mpr counted, rfl⟩⟩

end StellarOnramp.Identity
