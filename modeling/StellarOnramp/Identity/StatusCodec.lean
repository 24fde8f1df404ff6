import StellarOnramp.Identity.StatusRoundTrip

/-! An encoded status list, decoded and read entry by entry: the writer and the reader agree on
every bit, for every size of an entry.
-/

namespace StellarOnramp.Identity

open Attempts JsNumber JsText Octets

-----------------------------------------------------------------------------------------
-- Entries of equal bits
-----------------------------------------------------------------------------------------

/-- Bits that are all set are read as the largest status, and bits that are all clear as zero,
behind a value; by induction on their number.
-/
theorem readBits_uniform {bits : Bytes} (small : addressable bits) {held : Bool}
    {count room position value : Nat} (inside : position + count ≤ bits.length * 8)
    (fits : value < 2 ^ room) (narrow : room + count ≤ 30)
    (uniform : ∀ offset < count, bitSet bits (position + offset) = held)
    : readBits bits count position value
      = .ok ((value * 2 ^ count + held.toNat * (2 ^ count - 1) : Nat) : Number) := by
  induction count generalizing room position value with
  | zero => simp [readBits]
  | succ count ih =>
      have first := uniform 0 (Nat.succ_pos count)
      rw [Nat.add_zero] at first
      have wide : 2 ^ room ≤ 2 ^ 29 := Nat.pow_le_pow_right (by decide) (by omega)
      have bit := Bool.toNat_lt held
      have grows : 2 * value + held.toNat < 2 ^ (room + 1) := by
        rw [pow_succ]
        omega
      have later : ∀ offset < count, bitSet bits (position + 1 + offset) = held := by
        intro offset bound
        rw [Nat.add_assoc, Nat.add_comm 1 offset]
        exact uniform (offset + 1) (by omega)
      rw [readBits_succ small (by omega) (by omega), first,
        @ih (room + 1) (position + 1) (2 * value + held.toNat) (by omega) grows (by omega) later]
      congr 2
      have positive : 1 ≤ 2 ^ count := Nat.one_le_two_pow
      cases held
      · simp only [Bool.toNat_false, Nat.zero_mul, Nat.add_zero, pow_succ]
        ring
      · simp only [Bool.toNat_true, Nat.one_mul, pow_succ]
        have split : (2 * value + 1) * 2 ^ count = value * (2 ^ count * 2) + 2 ^ count := by ring
        rw [split]
        omega

/-- An entry of equal bits, inside the list. -/
theorem statusAt_uniform (list : DecodedStatusList) (small : addressable list.bits)
    (narrow : list.statusSize ≤ 8) {held : Bool} {index : Nat}
    (inside : index * list.statusSize + list.statusSize ≤ list.bitLength)
    (uniform : ∀ offset < list.statusSize,
      bitSet list.bits (index * list.statusSize + offset) = held)
    : statusAt list index = .ok ((held.toNat * (2 ^ list.statusSize - 1) : Nat) : Number) := by
  have read :=
    @readBits_uniform list.bits small held list.statusSize 0 (index * list.statusSize) 0 inside
      (by decide) (by omega) uniform
  rw [Nat.zero_mul, Nat.zero_add] at read
  have range : ¬ ((index : Int) * list.statusSize + list.statusSize > list.bitLength) := by
    exact_mod_cast Nat.not_lt.mpr inside
  refine failIf_bind_eq_ok.mpr ⟨Int.not_lt.mpr (Int.natCast_nonneg index), ?_⟩
  refine failIf_bind_eq_ok.mpr ⟨range, ?_⟩
  exact_mod_cast read

/-- A marked entry has the largest status, and another entry has none. -/
theorem Marks.statusAt_eq {entries statusSize : Nat} {set : List Number} {bits : Bytes}
    (marks : Marks entries statusSize set bits) (small : addressable bits)
    (narrow : statusSize ≤ 8) (purpose : JsString) {index : Nat} (inside : index < entries)
    : Identity.statusAt { statusPurpose := purpose, statusSize, bits } index
      = .ok (if (index : Number) ∈ set then 2 ^ statusSize - 1 else 0) := by
  have room : index * statusSize + statusSize ≤ bits.length * 8 := by
    rw [marks.length, ← Nat.succ_mul]
    exact Nat.mul_le_mul_right statusSize inside
  have uniform
      : ∀ offset < statusSize,
          bitSet bits (index * statusSize + offset) = decide ((index : Number) ∈ set) := by
    intro offset bound
    rw [Bool.eq_iff_iff, decide_eq_true_iff]
    exact marks.bit index inside offset bound
  rw [statusAt_uniform { statusPurpose := purpose, statusSize, bits } small narrow room uniform]
  have positive : 1 ≤ 2 ^ statusSize := Nat.one_le_two_pow
  by_cases member : (index : Number) ∈ set
  · simp [member, Nat.cast_sub positive]
  · simp [member]

-----------------------------------------------------------------------------------------
-- Decoding
-----------------------------------------------------------------------------------------

/-- Asking about the purpose of a list changes nothing. -/
theorem decodeStatusList_asked {platform : Platform} {list : BitstringStatusList}
    {expected : Option JsString} (asked : ∀ purpose ∈ expected, purpose = list.statusPurpose)
    : decodeStatusList platform list expected
      = decodeStatusList platform list (some list.statusPurpose) := by
  unfold decodeStatusList
  cases known : assertKnownPurpose list.statusPurpose with
  | error => rfl
  | ok purpose =>
      obtain ⟨-, rfl⟩ := assertKnownPurpose_eq_ok.mp known
      have quiet : ¬ expected.any (fun expected => expected != list.statusPurpose) = true := by
        cases expected with
        | none => simp
        | some purpose => simp [asked purpose rfl]
      have quiet' : ¬ (some list.statusPurpose).any (fun expected => expected != list.statusPurpose)
          = true := by
        simp
      dsimp only [bind, Except.bind]
      rw [failIf, if_neg quiet, failIf, if_neg quiet']

/-- The entries do not decide whether a list is encoded, if they are inside it. -/
theorem encodeStatusList_of_blank {platform : Platform} {options : EncodeStatusListOptions}
    {blank : BitstringStatusList}
    (accepted : encodeStatusList platform { options with set := [] } = .ok blank)
    (inside : ∀ index ∈ options.set,
      0 ≤ index ∧ index < options.entries.getD minimumStatusListEntries)
    (fits : options.entries.getD minimumStatusListEntries * options.statusSize.getD 1
      ≤ maxStatusListBytes * 8)
    : ∃ list, encodeStatusList platform options = .ok list := by
  obtain ⟨purpose, known, accepted⟩ := bind_eq_ok.mp accepted
  obtain ⟨statusSize, sized, accepted⟩ := bind_eq_ok.mp accepted
  obtain ⟨floor, accepted⟩ := failIf_bind_eq_ok.mp accepted
  obtain ⟨whole, accepted⟩ := failIf_bind_eq_ok.mp accepted
  obtain ⟨reach, -⟩ := failIf_bind_eq_ok.mp accepted
  obtain ⟨requested, -⟩ := normalizeStatusSize_eq_ok sized
  rw [requested] at fits
  dsimp only at floor whole reach
  obtain ⟨entries, counted⟩
      : ∃ entries : Nat, options.entries.getD minimumStatusListEntries = entries :=
    Int.eq_ofNat_of_zero_le ((Int.natCast_nonneg _).trans (not_lt.mp floor))
  rw [counted] at floor whole reach inside fits
  have octets : entries * statusSize % 8 = 0 := by exact_mod_cast not_not.mp whole
  have bound : entries * statusSize ≤ maxStatusListBytes * 8 := by exact_mod_cast fits
  have large : minimumStatusListEntries ≤ entries := by exact_mod_cast not_lt.mp floor
  have buffer : entries * statusSize / 8 ≤ platform.maxBufferBytes := by
    exact_mod_cast not_lt.mp reach
  have small : entries * statusSize ≤ 2 ^ 31 := bound.trans (by decide)
  exact encodeStatusList_of_checks known sized counted large octets buffer small inside

/-- For every purpose, size and number of entries that are accepted and fit the ceiling, and
for entries inside the list in any order, the list is encoded, and it is decoded to the same
purpose, size and number of entries. Each given entry then has the largest status, each other
one has none, and there is no status behind the list.
-/
theorem status_list_round_trips {platform : Platform} (roundTrips : platform.RoundTrips)
    {options : EncodeStatusListOptions} {blank : BitstringStatusList}
    (accepted : encodeStatusList platform { options with set := [] } = .ok blank)
    (fits : options.entries.getD minimumStatusListEntries * options.statusSize.getD 1
      ≤ maxStatusListBytes * 8)
    (inside : ∀ index ∈ options.set,
      0 ≤ index ∧ index < options.entries.getD minimumStatusListEntries)
    {expected : Option JsString} (asked : ∀ purpose ∈ expected, purpose = options.statusPurpose)
    : ∃ list decoded,
        encodeStatusList platform options = .ok list
        ∧ decodeStatusList platform list expected = .ok decoded
        ∧ decoded.statusPurpose = options.statusPurpose
        ∧ (decoded.statusSize : Number) = options.statusSize.getD 1
        ∧ (decoded.entryCount : Number) = options.entries.getD minimumStatusListEntries
        ∧ (∀ index : Number,
            0 ≤ index
            → index < decoded.entryCount
            → statusAt decoded index
              = .ok (if index ∈ options.set then 2 ^ decoded.statusSize - 1 else 0))
        ∧ ∀ index : Number,
            decoded.entryCount ≤ index → ∃ failure, statusAt decoded index = .error failure := by
  obtain ⟨list, written⟩ := encodeStatusList_of_blank accepted inside fits
  obtain ⟨entries, statusSize, bits, encoded⟩ := encodeStatusList_eq_ok written
  rw [encoded.counted, encoded.requested] at fits
  have bound : entries * statusSize ≤ maxStatusListBytes * 8 := by exact_mod_cast fits
  have short : bits.length ≤ maxStatusListBytes := by
    rw [← encoded.length] at bound
    exact Nat.le_of_mul_le_mul_right bound (by decide)
  have small := addressable_of_fits short
  have purpose : list.statusPurpose = options.statusPurpose := by
    rw [encoded.list, wireList_statusPurpose]
  have read := (encoded.decodeStatusList_eq_ok roundTrips).mpr ⟨short, rfl⟩
  rw [← purpose, ← decodeStatusList_asked (by rwa [purpose]), purpose] at read
  have count := encoded.entryCount options.statusPurpose
  refine ⟨list, _, written, read, rfl, encoded.requested.symm, ?_, ?_, ?_⟩
  · rw [count, encoded.counted]
  · intro index natural below
    obtain ⟨index, rfl⟩ := Int.eq_ofNat_of_zero_le natural
    rw [count] at below
    exact (encoded.marks small).statusAt_eq small encoded.sized.2 _ (Int.ofNat_lt.mp below)
  · intro index above
    obtain ⟨index, rfl⟩ := Int.eq_ofNat_of_zero_le ((Int.natCast_nonneg _).trans above)
    rw [count] at above
    have outside : bits.length * 8 < index * statusSize + statusSize := by
      have below := Nat.mul_le_mul_right statusSize (Int.ofNat_le.mp above)
      have positive := encoded.sized.1
      rw [encoded.length]
      omega
    cases status
        : statusAt { statusPurpose := options.statusPurpose, statusSize, bits }
            (index : Number) with
    | error failure => exact ⟨failure, rfl⟩
    | ok status' => exact absurd status (statusAt_outside outside)

namespace StatusSample

/-- A platform that stores without compressing. -/
def platform : Platform where
  gzip bits := bits
  gunzip octets := some octets
  maxBufferBytes := 2 ^ 20

/-- Two entries of three bits, one of them twice. -/
def options : EncodeStatusListOptions :=
  {
    statusPurpose := js "suspension"
    set := [5, 131071, 5]
    entries := none
    statusSize := some 3
  }

theorem blank_accepted
    : encodeStatusList platform { options with set := [] }
      = .ok
          (wireList (js "suspension") 3
            (encodedBits platform (List.replicate (131072 * 3 / 8) 0))) := by
  rfl

end StatusSample

theorem status_list_round_trips_three_bits
    : ∃ list decoded,
        encodeStatusList StatusSample.platform StatusSample.options = .ok list
        ∧ decodeStatusList StatusSample.platform list none = .ok decoded
        ∧ decoded.statusPurpose = js "suspension"
        ∧ (decoded.statusSize : Number) = 3
        ∧ (decoded.entryCount : Number) = 131072
        ∧ (∀ index : Number,
            0 ≤ index
            → index < decoded.entryCount
            → statusAt decoded index
              = .ok (if index ∈ [5, 131071, 5] then 2 ^ decoded.statusSize - 1 else 0))
        ∧ ∀ index : Number,
            decoded.entryCount ≤ index → ∃ failure, statusAt decoded index = .error failure :=
  status_list_round_trips (fun _ => rfl) StatusSample.blank_accepted (by decide) (by decide)
    (by simp)

end StellarOnramp.Identity
