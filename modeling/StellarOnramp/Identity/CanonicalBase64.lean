import Mathlib.Data.Nat.Digits.Lemmas
import StellarOnramp.Identity.Base64

/-! Base64url text and the number that it spells. The decoder splits that number into octets and
leftover bits and loses nothing of it, however often its accumulator overflows; so the accepted
texts are exactly the encoded ones.
-/

namespace StellarOnramp.Identity

open Attempts JsNumber JsText Octets

-----------------------------------------------------------------------------------------
-- The number of a text
-----------------------------------------------------------------------------------------

/-- The numbers of the characters; those outside the alphabet count as zero. -/
def sextets (text : JsString) : List Nat := text.map (fun unit => (b64urlReverse unit).getD 0)

/-- The number that a text spells, most significant character first. -/
def sextetsNat (text : JsString) : Nat := Nat.ofDigits 64 (sextets text).reverse

/-- Every character is of the alphabet. -/
def IsKnown (text : JsString) : Prop := ∀ unit ∈ text, (b64urlReverse unit).isSome

/-- The bits behind the last whole octet. -/
def trailingBits (length : Nat) : Nat := 6 * length % 8

/-- A character is the one at its position in the alphabet. -/
theorem b64urlReverse_eq_some {unit : UInt16} {sextet : Nat}
    (found : b64urlReverse unit = some sextet)
    : sextet < 64 ∧ unit = sextetChar sextet := by
  have table
      : ∀ code : Fin 128, ∀ position ∈ b64urlReverse (UInt16.ofNat code.val),
          position < 64 ∧ UInt16.ofNat code.val = sextetChar position := by
    decide +kernel
  have small : unit.toNat < 128 := by
    unfold b64urlReverse at found
    split at found
    case isTrue small => exact small
    case isFalse => cases found
  have same : UInt16.ofNat unit.toNat = unit := UInt16.ofNat_toNat
  have entry := table ⟨unit.toNat, small⟩ sextet
  rw [same] at entry
  exact entry found

theorem IsKnown.cons {unit : UInt16} {rest : JsString} (known : IsKnown (unit :: rest))
    : ∃ sextet, sextet < 64 ∧ unit = sextetChar sextet ∧ IsKnown rest := by
  obtain ⟨first, later⟩ := List.forall_mem_cons.mp known
  obtain ⟨sextet, found⟩ := Option.isSome_iff_exists.mp first
  obtain ⟨small, same⟩ := b64urlReverse_eq_some found
  exact ⟨sextet, small, same, later⟩

/-- The first character is the most significant one. -/
theorem sextetsNat_cons {sextet : Nat} (small : sextet < 64) (rest : JsString)
    : sextetsNat (sextetChar sextet :: rest)
      = sextet * 64 ^ rest.length + sextetsNat rest := by
  simp only [sextetsNat, sextets, List.map_cons, List.reverse_cons, Nat.ofDigits_append,
    b64urlReverse_sextetChar small, Option.getD_some, List.length_reverse, List.length_map,
    Nat.ofDigits_singleton]
  ring

/-- Texts of one length that spell one number are equal: digits are unique. -/
theorem sextetsNat_inj {left right : JsString} (leftKnown : IsKnown left)
    (rightKnown : IsKnown right) (length : left.length = right.length)
    (same : sextetsNat left = sextetsNat right)
    : left = right := by
  have digit {text : JsString} (known : IsKnown text)
      : ∀ value ∈ (sextets text).reverse, value < 64 := by
    intro value member
    obtain ⟨unit, held, rfl⟩ := List.mem_map.mp (List.mem_reverse.mp member)
    obtain ⟨sextet, found⟩ := Option.isSome_iff_exists.mp (known unit held)
    rw [found]
    exact (b64urlReverse_eq_some found).1
  have digits : (sextets left).reverse = (sextets right).reverse := by
    refine Nat.ofDigits_inj_of_len_eq (by decide) ?_ (digit leftKnown) (digit rightKnown) same
    simp only [sextets, List.length_reverse, List.length_map, length]
  have readBack {text : JsString} (known : IsKnown text)
      : (sextets text).map sextetChar = text := by
    rw [sextets, List.map_map]
    refine (List.map_congr_left fun unit member => ?_).trans (List.map_id text)
    obtain ⟨sextet, found⟩ := Option.isSome_iff_exists.mp (known unit member)
    rw [Function.comp_apply, found]
    exact (b64urlReverse_eq_some found).2.symm
  rw [← readBack leftKnown, List.reverse_injective digits, readBack rightKnown]

-----------------------------------------------------------------------------------------
-- What the decoder reads
-----------------------------------------------------------------------------------------

theorem beNat_cons (octet : UInt8) (octets : Bytes)
    : beNat (octet :: octets) = octet.toNat * 256 ^ octets.length + beNat octets := by
  have single : beNat [octet] = octet.toNat := by simp [beNat]
  rw [← List.singleton_append, beNat_append, single]

/-- A number split into octets and the bits behind them. -/
structure Splits (number length : Nat) (octets : Bytes) (left bits : Nat) : Prop where
  count : octets.length = length
  number : number = beNat octets * 2 ^ bits + left

/-- The loop splits the unread bits and the number of the text into octets and leftover bits.
Only the unread bits of the accumulator matter, whatever an overflow did to those above them;
by induction on the text.
-/
theorem decodeUnits_splits {text : JsString} (known : IsKnown text) {acc : Number}
    {bits low : Nat} (room : bits < 8) (held : (toWord acc).toNat % 2 ^ bits = low)
    : ∃ out left,
        decodeUnits acc bits text = .ok (out, left, (bits + 6 * text.length) % 8)
        ∧ Splits (low * 64 ^ text.length + sextetsNat text) ((bits + 6 * text.length) / 8) out
          ((toWord left).toNat % 2 ^ ((bits + 6 * text.length) % 8))
          ((bits + 6 * text.length) % 8) := by
  induction text generalizing acc bits low with
  | nil =>
      refine ⟨[], acc, ?_, ?_, ?_⟩
      · simp [decodeUnits, Nat.mod_eq_of_lt room]
      · simp [Nat.div_eq_of_lt room]
      · simp [sextetsNat, sextets, beNat, Nat.mod_eq_of_lt room, held]
  | cons unit rest ih =>
      obtain ⟨sextet, small, rfl, later⟩ := known.cons
      rw [sextetsNat_cons small, List.length_cons]
      by_cases long : 8 ≤ bits + 6
      · obtain ⟨extra, rfl⟩ := Nat.exists_eq_add_of_le' (by omega : 2 ≤ bits)
        obtain ⟨next, read, kept⟩ := @decodeUnits_long acc _ low sextet rest small long (by omega) held
        rw [Nat.add_sub_cancel] at read kept
        obtain ⟨out, left, decoded, split⟩ := ih later (by omega : extra < 8) kept
        have place : (extra + 6 * rest.length) % 8 = (extra + 2 + 6 * (rest.length + 1)) % 8 := by
          omega
        have count : (extra + 6 * rest.length) / 8 + 1
            = (extra + 2 + 6 * (rest.length + 1)) / 8 := by
          omega
        rw [place] at decoded split
        refine ⟨UInt8.ofNat ((low * 64 + sextet) / 2 ^ extra) :: out, left, ?_, ?_, ?_⟩
        · rw [read, decoded]
          rfl
        · rw [List.length_cons, split.count, count]
        · have fits : (low * 64 + sextet) / 2 ^ extra < 256 := by
            have below : (toWord acc).toNat % 2 ^ (extra + 2) < 2 ^ (extra + 2) :=
              Nat.mod_lt _ (Nat.two_pow_pos _)
            apply Nat.div_lt_of_lt_mul
            rw [held, pow_add] at below
            omega
          have octet : (UInt8.ofNat ((low * 64 + sextet) / 2 ^ extra)).toNat
              = (low * 64 + sextet) / 2 ^ extra := by
            rw [UInt8.toNat_ofNat', Nat.mod_eq_of_lt fits]
          have shift : 2 ^ extra * 64 ^ rest.length
              = 256 ^ out.length * 2 ^ ((extra + 2 + 6 * (rest.length + 1)) % 8) := by
            have sextetWidth : 64 = 2 ^ 6 := by decide
            have octetWidth : 256 = 2 ^ 8 := by decide
            rw [sextetWidth, octetWidth, ← pow_mul, ← pow_mul, ← pow_add, ← pow_add, split.count]
            congr 1
            omega
          calc low * 64 ^ (rest.length + 1) + (sextet * 64 ^ rest.length + sextetsNat rest)
              = (low * 64 + sextet) * 64 ^ rest.length + sextetsNat rest := by ring
            _ = (low * 64 + sextet) / 2 ^ extra * (2 ^ extra * 64 ^ rest.length)
                + ((low * 64 + sextet) % 2 ^ extra * 64 ^ rest.length + sextetsNat rest) := by
              conv_lhs => rw [← Nat.div_add_mod' (low * 64 + sextet) (2 ^ extra)]
              ring
            _ = _ := by
              rw [shift, split.number, beNat_cons, octet]
              ring
      · obtain ⟨next, read, kept⟩ :=
          @decodeUnits_short acc bits low sextet rest small (Nat.not_le.mp long) held
        obtain ⟨out, left, decoded, split⟩ := ih later (by omega : bits + 6 < 8) kept
        have place : bits + 6 + 6 * rest.length = bits + 6 * (rest.length + 1) := by omega
        rw [place] at decoded split
        refine ⟨out, left, read.trans decoded, split.count, ?_⟩
        rw [← split.number, pow_succ]
        ring

/-- The whole loop, from an empty accumulator. -/
theorem decodeUnits_text {text : JsString} (known : IsKnown text)
    : ∃ out left,
        decodeUnits 0 0 text = .ok (out, left, trailingBits text.length)
        ∧ Splits (sextetsNat text) (6 * text.length / 8) out
          ((toWord left).toNat % 2 ^ trailingBits text.length) (trailingBits text.length) := by
  obtain ⟨out, left, decoded, split⟩ :=
    @decodeUnits_splits text known 0 0 0 (by decide) (Nat.mod_one _)
  rw [Nat.zero_add] at decoded split
  rw [Nat.zero_mul, Nat.zero_add] at split
  exact ⟨out, left, decoded, split⟩

/-- A foreign character stops the loop. -/
theorem known_of_decodeUnits {text : JsString} {acc : Number} {bits : Nat}
    {found : Bytes × Number × Nat} (decoded : decodeUnits acc bits text = .ok found)
    : IsKnown text := by
  induction text generalizing acc bits found with
  | nil => exact nofun
  | cons unit rest ih =>
      unfold decodeUnits at decoded
      split at decoded
      case h_1 => cases decoded
      case h_2 sextet known =>
        refine List.forall_mem_cons.mpr ⟨Option.isSome_of_eq_some known, ?_⟩
        dsimp only at decoded
        split at decoded
        case isTrue =>
          obtain ⟨_, later, -⟩ := bind_eq_ok.mp decoded
          exact ih later
        case isFalse => exact ih decoded

theorem decodedLength_eq (length : Nat) : decodedLength length = 6 * length / 8 := by
  unfold decodedLength
  split <;> omega

/-- Octets and leftover bits are those of the number. -/
theorem Splits.unique {number length bits left other : Nat} {octets others : Bytes}
    (split : Splits number length octets left bits) (again : Splits number length others other bits)
    (leftFits : left < 2 ^ bits) (otherFits : other < 2 ^ bits)
    : octets = others ∧ left = other := by
  have positive := Nat.two_pow_pos bits
  have same := split.number.symm.trans again.number
  have leftover : left = other := by
    have mod := congrArg (· % 2 ^ bits) same
    simpa only [Nat.mul_add_mod_self_right, Nat.mod_eq_of_lt leftFits,
      Nat.mod_eq_of_lt otherFits] using mod
  subst leftover
  have spelled := Nat.eq_of_mul_eq_mul_right positive (Nat.add_right_cancel same)
  exact ⟨beNat_inj (split.count.trans again.count.symm) spelled, rfl⟩

/-- What is accepted: a text of the alphabet, of a possible length, whose number is that of the
octets with no bit left over.
-/
theorem base64urlDecode_eq_ok {text : JsString} {bytes : Bytes}
    : base64urlDecode text = .ok bytes
      ↔ IsKnown text
        ∧ text.length % 4 ≠ 1
        ∧ Splits (sextetsNat text) (6 * text.length / 8) bytes 0 (trailingBits text.length) := by
  have room : trailingBits text.length < 31 :=
    Nat.lt_trans (Nat.mod_lt _ (by decide)) (by decide : 8 < 31)
  have positive := Nat.two_pow_pos (trailingBits text.length)
  constructor
  · intro accepted
    obtain ⟨possible, accepted⟩ := failIf_bind_eq_ok.mp accepted
    obtain ⟨_, decoded, accepted⟩ := bind_eq_ok.mp accepted
    have known := known_of_decodeUnits decoded
    obtain ⟨out, left, again, split⟩ := decodeUnits_text known
    cases again.symm.trans decoded
    obtain ⟨canonical, accepted⟩ := failIf_bind_eq_ok.mp accepted
    obtain ⟨-, accepted⟩ := failIf_bind_eq_ok.mp accepted
    cases accepted
    refine ⟨known, possible, ?_⟩
    have zero : (toWord left).toNat % 2 ^ trailingBits text.length = 0 := by
      by_contra nonzero
      apply canonical
      refine ⟨Nat.pos_of_ne_zero fun none => nonzero (by rw [none, pow_zero, Nat.mod_one]), ?_⟩
      rw [bitAnd_trailing left room]
      exact_mod_cast nonzero
    rwa [zero] at split
  · rintro ⟨known, possible, whole⟩
    obtain ⟨out, left, decoded, split⟩ := decodeUnits_text known
    obtain ⟨rfl, zero⟩ := split.unique whole (Nat.mod_lt _ positive) positive
    refine failIf_bind_eq_ok.mpr ⟨possible, bind_eq_ok.mpr ⟨_, decoded, ?_⟩⟩
    refine failIf_bind_eq_ok.mpr ⟨?_, failIf_bind_eq_ok.mpr ⟨?_, rfl⟩⟩
    · rintro ⟨-, trailing⟩
      apply trailing
      rw [bitAnd_trailing left room]
      exact_mod_cast zero
    · rw [not_not, decodedLength_eq]
      exact split.count

-----------------------------------------------------------------------------------------
-- The canonical image
-----------------------------------------------------------------------------------------

/-- A text that an encoder can have written: no padding and no other foreign character, no
impossible length, and no bit set behind the last octet.
-/
structure IsCanonical (text : JsString) : Prop where
  known : IsKnown text
  possible : text.length % 4 ≠ 1
  trailing
    : ∀ last ∈ text.getLast?, ∀ sextet ∈ b64urlReverse last,
        sextet % 2 ^ trailingBits text.length = 0

/-- The leftover bits of a number are those of its last character. -/
theorem sextetsNat_mod {text : JsString} {bits : Nat} (room : bits ≤ 6)
    : sextetsNat text % 2 ^ bits
      = ((text.getLast?.bind b64urlReverse).getD 0) % 2 ^ bits := by
  cases text using List.reverseRecOn with
  | nil => rfl
  | append_singleton front last =>
      have front_whole : 64 * Nat.ofDigits 64 (sextets front).reverse % 2 ^ bits = 0 :=
        Nat.mod_eq_zero_of_dvd ((Nat.pow_dvd_pow 2 room).mul_right _)
      simp only [sextetsNat, sextets, List.map_append, List.map_singleton, List.reverse_append,
        List.reverse_singleton, List.singleton_append, Nat.ofDigits_cons,
        List.getLast?_concat, Option.bind_some]
      rw [Nat.add_mod, ← sextets, front_whole, Nat.add_zero, Nat.mod_mod]

/-- The accepted texts are the canonical ones. -/
theorem isCanonical_iff {text : JsString}
    : (∃ bytes, base64urlDecode text = .ok bytes) ↔ IsCanonical text := by
  have room (possible : text.length % 4 ≠ 1) : trailingBits text.length ≤ 6 := by
    unfold trailingBits
    omega
  constructor
  · rintro ⟨bytes, accepted⟩
    obtain ⟨known, possible, whole⟩ := base64urlDecode_eq_ok.mp accepted
    refine { known, possible, trailing := fun last ends sextet found => ?_ }
    have mod := @sextetsNat_mod text _ (room possible)
    rw [whole.number, Nat.add_zero, Nat.mul_mod_left, Option.mem_def.mp ends, Option.bind_some,
      Option.mem_def.mp found] at mod
    exact mod.symm
  · intro canonical
    obtain ⟨out, left, -, split⟩ := decodeUnits_text canonical.known
    refine ⟨out, base64urlDecode_eq_ok.mpr ⟨canonical.known, canonical.possible, ?_⟩⟩
    have mod := @sextetsNat_mod text _ (room canonical.possible)
    have zero : (toWord left).toNat % 2 ^ trailingBits text.length = 0 := by
      rw [split.number, Nat.mul_add_mod_self_right, Nat.mod_mod] at mod
      rw [mod]
      cases ends : text.getLast? with
      | none => exact Nat.zero_mod _
      | some last =>
          cases found : b64urlReverse last with
          | none => simp [found]
          | some sextet => simpa [found] using canonical.trailing last ends sextet found
    rwa [zero] at split

/-- A text with the octets of another is that text. -/
theorem base64urlDecode_inj {left right : JsString} {bytes : Bytes}
    (leftAccepted : base64urlDecode left = .ok bytes)
    (rightAccepted : base64urlDecode right = .ok bytes)
    : left = right := by
  obtain ⟨leftKnown, leftPossible, leftWhole⟩ := base64urlDecode_eq_ok.mp leftAccepted
  obtain ⟨rightKnown, rightPossible, rightWhole⟩ := base64urlDecode_eq_ok.mp rightAccepted
  have readBack {length : Nat} (possible : length % 4 ≠ 1)
      : length = (4 * (6 * length / 8) + 2) / 3 := by
    have remainders : length % 4 = 0 ∨ length % 4 = 2 ∨ length % 4 = 3 := by omega
    rcases remainders with whole | two | three <;> omega
  have length : left.length = right.length := by
    rw [readBack leftPossible, readBack rightPossible, ← leftWhole.count, ← rightWhole.count]
  apply sextetsNat_inj leftKnown rightKnown length
  rw [leftWhole.number, rightWhole.number, length]

/-- Decoding is the inverse of encoding on exactly the canonical texts. The octets have the
length of the text, and with the leftover bits they spell the number of the text, whatever its
length: the accumulator drops no bit that is still needed.
-/
theorem base64url_bijection
    : (∀ bytes, base64urlDecode (base64urlEncode bytes) = .ok bytes)
      ∧ (∀ text bytes,
          base64urlDecode text = .ok bytes
          → base64urlEncode bytes = text ∧ bytes.length = decodedLength text.length)
      ∧ (∀ text, (∃ bytes, base64urlDecode text = .ok bytes) ↔ IsCanonical text)
      ∧ ∀ text,
          IsKnown text
          → ∃ out left,
              decodeUnits 0 0 text = .ok (out, left, trailingBits text.length)
              ∧ Splits (sextetsNat text) (6 * text.length / 8) out
                ((toWord left).toNat % 2 ^ trailingBits text.length)
                (trailingBits text.length) := by
  refine ⟨base64urlDecode_base64urlEncode, ?_, fun text => isCanonical_iff,
    fun text => decodeUnits_text⟩
  intro text bytes accepted
  constructor
  · exact base64urlDecode_inj (base64urlDecode_base64urlEncode bytes) accepted
  · rw [decodedLength_eq]
    exact (base64urlDecode_eq_ok.mp accepted).2.2.count

end StellarOnramp.Identity
