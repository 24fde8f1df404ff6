import StellarOnramp.Identity.StatusList

/-! What the bit operations of a status list mean: one step for each operation, then the loops
that read an entry and write a set of entries.
-/

namespace StellarOnramp.Identity

open Attempts JsNumber JsText Octets

/-- A bit of a bitstring whose first bit is the most significant one. -/
def bitSet (bits : Bytes) (position : Nat) : Bool :=
  ((bits[position / 8]?).getD 0).toNat.testBit (7 - position % 8)

/-- Positions that the 32-bit operators address without wrapping. -/
def addressable (bits : Bytes) : Prop := bits.length * 8 ≤ 2 ^ 31

theorem octetAt_eq (bits : Bytes) (position : Nat)
    : octetAt bits position = ((bits[position]?).getD 0).toNat := by
  have natural : ¬ (position : Int) < 0 := Int.not_lt.mpr (Int.natCast_nonneg position)
  rw [octetAt, if_neg natural, Int.toNat_natCast]

/-- Where a bit stands: its octet, and its place there. -/
theorem bit_place {position : Nat} (fits : position < 2 ^ 31)
    : shiftRight position 3 = (position / 8 : Nat)
      ∧ bitAnd position 7 = (position % 8 : Nat) := by
  constructor
  · exact shiftRight_natCast fits (by decide)
  · have low := bitAnd_low position (by decide : 3 < 31)
    rw [toWord_toNat_of_lt (by omega)] at low
    exact low

theorem inside_iff {bits : Bytes} {position : Nat}
    : ¬ ((position : Int) < 0 ∨ (position : Int) ≥ bits.length * 8)
      ↔ position < bits.length * 8 := by
  omega

/-- Reading a bit inside the bitstring. -/
theorem bitAt_eq {bits : Bytes} {position : Nat} (inside : position < bits.length * 8)
    (small : addressable bits)
    : bitAt bits position = .ok ((bitSet bits position).toNat : Int) := by
  have fits : position < 2 ^ 31 := Nat.lt_of_lt_of_le inside small
  obtain ⟨octet, place⟩ := bit_place fits
  have byteSmall := ((bits[position / 8]?).getD 0).toNat_lt
  have count : ((7 : Int) - (position % 8 : Nat)).toNat = 7 - position % 8 := by omega
  refine failIf_bind_eq_ok.mpr ⟨inside_iff.mpr inside, ?_⟩
  have bound : ((bits[position / 8]?).getD 0).toNat / 2 ^ (7 - position % 8) < 2 ^ 32 :=
    Nat.lt_of_le_of_lt (Nat.div_le_self _ _) (by omega)
  have low := bitAnd_low
    ((((bits[position / 8]?).getD 0).toNat / 2 ^ (7 - position % 8) : Nat) : Int)
    (by decide : 1 < 31)
  rw [toWord_toNat_of_lt bound] at low
  simp only [octet, place, octetAt_eq, count]
  rw [shiftRight_natCast (by omega) (by omega), bitSet, Nat.toNat_testBit]
  exact congrArg Except.ok low

/-- Setting a bit sets exactly that bit and keeps the length. -/
theorem setBit_eq {bits : Bytes} {position : Nat} (inside : position < bits.length * 8)
    (small : addressable bits)
    : ∃ after,
        setBit bits position = .ok after
        ∧ after.length = bits.length
        ∧ ∀ other, bitSet after other = (decide (other = position) || bitSet bits other) := by
  have fits : position < 2 ^ 31 := Nat.lt_of_lt_of_le inside small
  obtain ⟨octet, place⟩ := bit_place fits
  have held : position / 8 < bits.length := by omega
  have natural : ¬ ((position / 8 : Nat) : Int) < 0 := Int.not_lt.mpr (Int.natCast_nonneg _)
  have byteSmall := ((bits[position / 8]?).getD 0).toNat_lt
  have maskSmall : 128 / 2 ^ (position % 8) < 256 :=
    Nat.lt_of_le_of_lt (Nat.div_le_self _ _) (by decide)
  have mask : shiftRight 0x80 (position % 8) = (128 / 2 ^ (position % 8) : Nat) :=
    shiftRight_natCast (by decide : 128 < 2 ^ 31) (by omega)
  have written := toOctet_bitOr byteSmall maskSmall
  refine ⟨bits.set (position / 8) (toOctet (bitOr (((bits[position / 8]?).getD 0).toNat : Int)
    ((128 / 2 ^ (position % 8) : Nat) : Int))), ?_, List.length_set, fun other => ?_⟩
  · refine failIf_bind_eq_ok.mpr ⟨inside_iff.mpr inside, ?_⟩
    simp only [octet, place, octetAt_eq, Int.toNat_natCast, mask, writeOctet, if_neg natural]
  · have single : ∀ place target : Fin 8,
        (128 / 2 ^ place.val).testBit (7 - target.val) = decide (target = place) := by
      decide
    have bit :=
      single ⟨position % 8, Nat.mod_lt _ (by decide)⟩ ⟨other % 8, Nat.mod_lt _ (by decide)⟩
    simp only [Fin.mk.injEq] at bit
    simp only [bitSet]
    by_cases same : other / 8 = position / 8
    · rw [same, List.getElem?_set_self held, Option.getD_some, written, Nat.testBit_or, bit,
        Bool.or_comm]
      have split : other % 8 = position % 8 ↔ other = position := by omega
      rw [decide_eq_decide.mpr split]
    · rw [List.getElem?_set_ne (Ne.symm same)]
      have apart : ¬ other = position := fun equal => same (by rw [equal])
      simp [apart]

-----------------------------------------------------------------------------------------
-- Reading an entry
-----------------------------------------------------------------------------------------

/-- Reading one bit behind a value doubles the value and adds the bit. -/
theorem readBits_succ {bits : Bytes} (small : addressable bits) {count position value : Nat}
    (inside : position < bits.length * 8) (fits : value < 2 ^ 30)
    : readBits bits (count + 1) position value
      = readBits bits count ((position + 1 : Nat) : Number)
          ((2 * value + (bitSet bits position).toNat : Nat) : Number) := by
  rw [readBits, bitAt_eq inside small, ← bitOr_shiftLeft_one fits (Bool.toNat_lt _)]
  rfl

/-- Reading bits behind a value: the result is zero exactly when the value and all the bits
are; by induction on their number.
-/
theorem readBits_eq {bits : Bytes} (small : addressable bits) {count room position value : Nat}
    (inside : position + count ≤ bits.length * 8) (fits : value < 2 ^ room)
    (narrow : room + count ≤ 30)
    : ∃ status : Nat,
        readBits bits count position value = .ok (status : Int)
        ∧ (status = 0
          ↔ value = 0 ∧ ∀ offset < count, bitSet bits (position + offset) = false) := by
  induction count generalizing room position value with
  | zero => exact ⟨value, rfl, by simp⟩
  | succ count ih =>
      have wide : 2 ^ room ≤ 2 ^ 29 := Nat.pow_le_pow_right (by decide) (by omega)
      have grows : 2 * value + (bitSet bits position).toNat < 2 ^ (room + 1) := by
        have bit := Bool.toNat_lt (bitSet bits position)
        rw [pow_succ]
        omega
      obtain ⟨status, read, zero⟩ :=
        @ih (room + 1) (position + 1) (2 * value + (bitSet bits position).toNat) (by omega)
          grows (by omega)
      refine ⟨status, (readBits_succ small (by omega) (by omega)).trans read, ?_⟩
      · rw [zero]
        constructor
        · rintro ⟨empty, clear⟩
          have first : bitSet bits position = false := by
            cases held : bitSet bits position with
            | false => rfl
            | true =>
                rw [held] at empty
                simp at empty
          refine ⟨by omega, fun offset bound => ?_⟩
          cases offset with
          | zero => exact first
          | succ offset =>
              have later := clear offset (by omega)
              rwa [Nat.add_right_comm, Nat.add_assoc] at later
        · rintro ⟨rfl, clear⟩
          have first := clear 0 (by omega)
          rw [Nat.add_zero] at first
          refine ⟨by simp [first], fun offset bound => ?_⟩
          have later := clear (offset + 1) (by omega)
          rwa [Nat.add_right_comm, Nat.add_assoc]

/-- The status of an entry inside the list is defined, and zero exactly when its bits are. -/
theorem statusAt_eq (list : DecodedStatusList) (small : addressable list.bits)
    (narrow : list.statusSize ≤ 8) {index : Nat}
    (inside : index * list.statusSize + list.statusSize ≤ list.bitLength)
    : ∃ status : Nat,
        statusAt list index = .ok (status : Int)
        ∧ (status = 0
          ↔ ∀ offset < list.statusSize,
              bitSet list.bits (index * list.statusSize + offset) = false) := by
  obtain ⟨status, read, zero⟩ :=
    @readBits_eq list.bits small list.statusSize 0 (index * list.statusSize) 0 inside
      (by decide) (by omega)
  have range : ¬ ((index : Int) * list.statusSize + list.statusSize > list.bitLength) := by
    exact_mod_cast Nat.not_lt.mpr inside
  refine ⟨status, ?_, by simpa using zero⟩
  refine failIf_bind_eq_ok.mpr ⟨Int.not_lt.mpr (Int.natCast_nonneg index), ?_⟩
  refine failIf_bind_eq_ok.mpr ⟨range, ?_⟩
  exact_mod_cast read

/-- Outside the list there is no status. -/
theorem statusAt_outside {list : DecodedStatusList} {index : Nat} {status : Number}
    (outside : list.bitLength < index * list.statusSize + list.statusSize)
    : statusAt list index ≠ .ok status := by
  intro read
  have range : (index : Int) * list.statusSize + list.statusSize > list.bitLength := by
    exact_mod_cast outside
  exact (failIf_bind_eq_ok.mp (failIf_bind_eq_ok.mp read).2).1 range

-----------------------------------------------------------------------------------------
-- Writing entries
-----------------------------------------------------------------------------------------

/-- Setting bits one after another sets exactly their range, by induction on their number. -/
theorem setBits_eq {count position : Nat} {bits : Bytes} (small : addressable bits)
    (inside : position + count ≤ bits.length * 8)
    : ∃ after,
        setBits count position bits = .ok after
        ∧ after.length = bits.length
        ∧ ∀ other,
            bitSet after other = true
            ↔ (position ≤ other ∧ other < position + count) ∨ bitSet bits other = true := by
  induction count generalizing position bits with
  | zero => exact ⟨bits, rfl, rfl, fun other => (or_iff_right (by omega)).symm⟩
  | succ count ih =>
      obtain ⟨middle, first, firstLength, firstBit⟩ :=
        setBit_eq (by omega : position < bits.length * 8) small
      have middleSmall : addressable middle := by
        rw [addressable, firstLength]
        exact small
      obtain ⟨after, rest, restLength, restBit⟩ :=
        @ih (position + 1) middle middleSmall (by omega)
      refine ⟨after, bind_eq_ok.mpr ⟨middle, first, ?_⟩, restLength.trans firstLength,
        fun other => ?_⟩
      · exact_mod_cast rest
      · have range : (position + 1 ≤ other ∧ other < position + 1 + count) ∨ other = position
            ↔ position ≤ other ∧ other < position + (count + 1) := by
          omega
        rw [restBit, firstBit, Bool.or_eq_true, decide_eq_true_eq, ← or_assoc, range]

/-- Setting entries sets exactly their bits, by induction on the entries. -/
theorem setEntries_eq {entries statusSize : Nat} {indexes : List Number} {bits : Bytes}
    (small : addressable bits) (sized : bits.length * 8 = entries * statusSize)
    (inside : ∀ index ∈ indexes, 0 ≤ index ∧ index < entries)
    : ∃ after,
        setEntries entries statusSize indexes bits = .ok after
        ∧ after.length = bits.length
        ∧ ∀ index < entries, ∀ offset < statusSize,
            bitSet after (index * statusSize + offset) = true
            ↔ (index : Number) ∈ indexes
              ∨ bitSet bits (index * statusSize + offset) = true := by
  induction indexes generalizing bits with
  | nil => exact ⟨bits, rfl, rfl, fun index _ offset _ => by simp⟩
  | cons idx rest ih =>
      obtain ⟨⟨natural, bound⟩, later⟩ := List.forall_mem_cons.mp inside
      obtain ⟨idx, rfl⟩ := Int.eq_ofNat_of_zero_le natural
      have below : idx < entries := by exact_mod_cast bound
      have room : idx * statusSize + statusSize ≤ entries * statusSize := by
        rw [← Nat.succ_mul]
        exact Nat.mul_le_mul_right statusSize below
      obtain ⟨middle, written, middleLength, middleBit⟩ :=
        setBits_eq small (sized ▸ room : idx * statusSize + statusSize ≤ bits.length * 8)
      have middleSmall : addressable middle := by
        rw [addressable, middleLength]
        exact small
      obtain ⟨after, more, afterLength, afterBit⟩ :=
        ih middleSmall (middleLength.symm ▸ sized) later
      refine ⟨after, failIf_bind_eq_ok.mpr ⟨?_, bind_eq_ok.mpr ⟨middle, ?_, more⟩⟩,
        afterLength.trans middleLength, fun index indexBound offset offsetBound => ?_⟩
      · exact not_or.mpr ⟨Int.not_lt.mpr natural, Int.not_le.mpr bound⟩
      · exact_mod_cast written
      · have entry : idx * statusSize ≤ index * statusSize + offset
              ∧ index * statusSize + offset < idx * statusSize + statusSize
            ↔ index = idx := by
          constructor
          · rintro ⟨low, high⟩
            have upper : index < idx + 1 := by
              apply Nat.lt_of_mul_lt_mul_right (a := statusSize)
              rw [Nat.succ_mul]
              omega
            have lower : idx < index + 1 := by
              apply Nat.lt_of_mul_lt_mul_right (a := statusSize)
              rw [Nat.succ_mul]
              omega
            omega
          · rintro rfl
            omega
        rw [afterBit index indexBound offset offsetBound, middleBit, entry, List.mem_cons,
          Int.natCast_inj]
        tauto

/-- No bit of an empty bitstring is set. -/
theorem bitSet_replicate_zero (count position : Nat)
    : bitSet (List.replicate count 0) position = false := by
  rw [bitSet, List.getElem?_replicate]
  split <;> simp

end StellarOnramp.Identity
