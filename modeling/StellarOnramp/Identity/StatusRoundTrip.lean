import StellarOnramp.Identity.StatusBits

/-! What an encoded status list says when it is decoded. -/

namespace StellarOnramp.Identity

open Attempts JsNumber JsText Octets

-----------------------------------------------------------------------------------------
-- What encoding writes
-----------------------------------------------------------------------------------------

theorem setBit_length {bits after : Bytes} {position : Number}
    (written : setBit bits position = .ok after)
    : after.length = bits.length := by
  rcases failIf_bind_eq_ok.mp written with ⟨-, written⟩
  cases written
  unfold writeOctet
  split
  · rfl
  · exact List.length_set

theorem setBits_length {count : Nat} {position : Number} {bits after : Bytes}
    (written : setBits count position bits = .ok after)
    : after.length = bits.length := by
  induction count generalizing position bits with
  | zero =>
      cases written
      rfl
  | succ count ih =>
      rcases bind_eq_ok.mp written with ⟨middle, first, written⟩
      exact (ih written).trans (setBit_length first)

/-- Written entries are inside the list and keep its length, by induction on the entries. -/
theorem setEntries_inside {entries : Number} {statusSize : Nat} {indexes : List Number}
    {bits after : Bytes} (written : setEntries entries statusSize indexes bits = .ok after)
    : after.length = bits.length ∧ ∀ index ∈ indexes, 0 ≤ index ∧ index < entries := by
  induction indexes generalizing bits with
  | nil =>
      cases written
      exact ⟨rfl, by simp⟩
  | cons index rest ih =>
      rcases failIf_bind_eq_ok.mp written with ⟨inside, written⟩
      rcases bind_eq_ok.mp written with ⟨middle, first, written⟩
      obtain ⟨length, later⟩ := ih written
      obtain ⟨natural, bound⟩ := not_or.mp inside
      refine ⟨length.trans (setBits_length first), ?_⟩
      exact List.forall_mem_cons.mpr ⟨⟨not_lt.mp natural, not_le.mp bound⟩, later⟩

/-- The bits of exactly the given entries are set. -/
structure Marks (entries statusSize : Nat) (set : List Number) (bits : Bytes) : Prop where
  length : bits.length * 8 = entries * statusSize
  bit
    : ∀ index < entries, ∀ offset < statusSize,
        bitSet bits (index * statusSize + offset) = true ↔ (index : Number) ∈ set

/-- How a list was encoded. -/
structure Encoded (platform : Platform) (options : EncodeStatusListOptions)
    (list : BitstringStatusList) (entries statusSize : Nat) (bits : Bytes)
    : Prop where
  known : options.statusPurpose ∈ statusPurposes
  counted : options.entries.getD minimumStatusListEntries = entries
  requested : options.statusSize.getD 1 = statusSize
  sized : 1 ≤ statusSize ∧ statusSize ≤ 8
  floor : minimumStatusListEntries ≤ entries
  inside : ∀ index ∈ options.set, 0 ≤ index ∧ index < entries
  length : bits.length * 8 = entries * statusSize
  marks : addressable bits → Marks entries statusSize options.set bits
  list : list = wireList options.statusPurpose statusSize (encodedBits platform bits)

theorem normalizeStatusSize_eq_ok {requested : Option Number} {statusSize : Nat}
    (sized : normalizeStatusSize (requested.map Json.Value.number) = .ok statusSize)
    : requested.getD 1 = statusSize ∧ 1 ≤ statusSize ∧ statusSize ≤ 8 := by
  cases requested with
  | none =>
      cases sized
      exact ⟨rfl, by decide, by decide⟩
  | some size =>
      rcases failIf_bind_eq_ok.mp sized with ⟨positive, sized⟩
      rcases failIf_bind_eq_ok.mp sized with ⟨small, sized⟩
      cases sized
      have range (size : Int) (positive : ¬ size < 1) (small : ¬ size > 8)
          : size = size.toNat ∧ 1 ≤ size.toNat ∧ size.toNat ≤ 8 := by
        omega
      exact range size positive small

theorem assertKnownPurpose_eq_ok {purpose known : JsString}
    : assertKnownPurpose purpose = .ok known ↔ purpose ∈ statusPurposes ∧ known = purpose := by
  rw [assertKnownPurpose, failIf_bind_eq_ok, not_not, Except.ok.injEq, eq_comm]

/-- The length of the array, in natural numbers. -/
theorem octetCount_natCast (entries statusSize : Nat)
    : ((entries : Int) * statusSize / 8).toNat = entries * statusSize / 8 := by
  rw [← Nat.cast_mul]
  rfl

/-- Writing in a blank list of whole octets marks exactly the given entries. -/
theorem setEntries_blank {entries statusSize : Nat} {set : List Number}
    (octets : entries * statusSize % 8 = 0) (small : entries * statusSize ≤ 2 ^ 31)
    (inside : ∀ index ∈ set, 0 ≤ index ∧ index < entries)
    : ∃ bits,
        setEntries entries statusSize set (List.replicate (entries * statusSize / 8) 0) = .ok bits
        ∧ Marks entries statusSize set bits := by
  have blank
      : (List.replicate (entries * statusSize / 8) (0 : UInt8)).length * 8
        = entries * statusSize := by
    rw [List.length_replicate]
    exact Nat.div_mul_cancel (Nat.dvd_of_mod_eq_zero octets)
  have room : addressable (List.replicate (entries * statusSize / 8) 0) := by
    rw [addressable, blank]
    exact small
  obtain ⟨bits, written, length, marked⟩ := setEntries_eq room blank inside
  refine ⟨bits, written, by rw [length, blank], fun index bound offset within => ?_⟩
  rw [marked index bound offset within, bitSet_replicate_zero]
  simp

/-- Witness: invert the checks in source order. -/
theorem encodeStatusList_eq_ok {platform : Platform} {options : EncodeStatusListOptions}
    {list : BitstringStatusList} (encoded : encodeStatusList platform options = .ok list)
    : ∃ entries statusSize bits, Encoded platform options list entries statusSize bits := by
  rcases bind_eq_ok.mp encoded with ⟨statusPurpose, purpose, encoded⟩
  rcases bind_eq_ok.mp encoded with ⟨statusSize, sized, encoded⟩
  rcases failIf_bind_eq_ok.mp encoded with ⟨floor, encoded⟩
  rcases failIf_bind_eq_ok.mp encoded with ⟨whole, encoded⟩
  rcases failIf_bind_eq_ok.mp encoded with ⟨-, encoded⟩
  rcases bind_eq_ok.mp encoded with ⟨bits, written, encoded⟩
  cases encoded
  obtain ⟨known, rfl⟩ := assertKnownPurpose_eq_ok.mp purpose
  obtain ⟨requested, sized⟩ := normalizeStatusSize_eq_ok sized
  obtain ⟨written_length, inside⟩ := setEntries_inside written
  have natural : ∃ entries : Nat, options.entries.getD minimumStatusListEntries = entries := by
    have large := not_lt.mp floor
    exact Int.eq_ofNat_of_zero_le ((Int.natCast_nonneg _).trans large)
  obtain ⟨entries, count⟩ := natural
  rw [count] at floor whole written inside written_length
  have large : minimumStatusListEntries ≤ entries := by exact_mod_cast not_lt.mp floor
  have octets : entries * statusSize % 8 = 0 := by exact_mod_cast not_not.mp whole
  rw [octetCount_natCast] at written written_length
  have length : bits.length * 8 = entries * statusSize := by
    rw [written_length, List.length_replicate]
    exact Nat.div_mul_cancel (Nat.dvd_of_mod_eq_zero octets)
  refine ⟨entries, statusSize, bits, ?_⟩
  exact {
    known
    counted := count
    requested
    sized
    floor := large
    inside
    length
    list := rfl
    marks := by
      intro small
      rw [addressable, length] at small
      obtain ⟨after, again, marks⟩ := setEntries_blank octets small inside
      obtain rfl := Except.ok.inj (again.symm.trans written)
      exact marks
  }

/-- A list is encoded when its purpose and its size are accepted and its entries are enough,
whole octets and in reach of the platform and of the operators.
-/
theorem encodeStatusList_of_checks {platform : Platform} {options : EncodeStatusListOptions}
    {purpose : JsString} {entries statusSize : Nat}
    (known : assertKnownPurpose options.statusPurpose = .ok purpose)
    (sized : normalizeStatusSize (options.statusSize.map Json.Value.number) = .ok statusSize)
    (counted : options.entries.getD minimumStatusListEntries = entries)
    (floor : minimumStatusListEntries ≤ entries) (octets : entries * statusSize % 8 = 0)
    (buffer : entries * statusSize / 8 ≤ platform.maxBufferBytes)
    (small : entries * statusSize ≤ 2 ^ 31)
    (inside : ∀ index ∈ options.set, 0 ≤ index ∧ index < entries)
    : ∃ list, encodeStatusList platform options = .ok list := by
  obtain ⟨bits, written, -⟩ := setEntries_blank octets small inside
  have large : (minimumStatusListEntries : Int) ≤ entries := by exact_mod_cast floor
  have whole : (entries : Int) * statusSize % 8 = 0 := by exact_mod_cast octets
  have reach : (entries : Int) * statusSize / 8 ≤ platform.maxBufferBytes := by
    exact_mod_cast buffer
  refine ⟨wireList purpose statusSize (encodedBits platform bits), ?_⟩
  refine bind_eq_ok.mpr ⟨purpose, known, bind_eq_ok.mpr ⟨statusSize, sized, ?_⟩⟩
  dsimp only
  rw [counted, octetCount_natCast]
  refine failIf_bind_eq_ok.mpr ⟨not_lt.mpr large, failIf_bind_eq_ok.mpr ⟨not_not.mpr whole, ?_⟩⟩
  exact failIf_bind_eq_ok.mpr ⟨not_lt.mpr reach, bind_eq_ok.mpr ⟨bits, written, rfl⟩⟩

/-- A list of single bits is encoded when its entries are enough, whole octets and in reach of
the platform.
-/
theorem encodeStatusList_succeeds (platform : Platform) (options : EncodeStatusListOptions)
    {entries : Nat} (known : options.statusPurpose ∈ statusPurposes)
    (single : options.statusSize = none)
    (counted : options.entries.getD minimumStatusListEntries = entries)
    (floor : minimumStatusListEntries ≤ entries) (whole : entries % 8 = 0)
    (buffer : entries / 8 ≤ platform.maxBufferBytes) (small : entries ≤ 2 ^ 31)
    (inside : ∀ index ∈ options.set, 0 ≤ index ∧ index < entries)
    : ∃ list, encodeStatusList platform options = .ok list := by
  have purpose := assertKnownPurpose_eq_ok.mpr ⟨known, rfl⟩
  have sized : normalizeStatusSize (options.statusSize.map Json.Value.number) = .ok 1 := by
    rw [single]
    rfl
  rw [← Nat.mul_one entries] at whole buffer small
  exact encodeStatusList_of_checks purpose sized counted floor whole buffer small inside

-----------------------------------------------------------------------------------------
-- What decoding reads
-----------------------------------------------------------------------------------------

theorem isStatusCode_hexNumberText {status : Nat} (small : status < 256)
    : isStatusCode (js "0x" ++ hexNumberText status) = true := by
  have table : ∀ status : Fin 256, isStatusCode (js "0x" ++ hexNumberText status.val) = true := by
    decide +kernel
  exact table ⟨status, small⟩

theorem assertStatusEntry_default (position : Nat) (purpose : JsString) {status : Nat}
    (small : status < 256)
    : assertStatusEntry position (defaultStatusMessage purpose status) = .ok () := by
  have code := isStatusCode_hexNumberText small
  refine failIf_bind_eq_ok.mpr ⟨by simp [defaultStatusMessage, Json.Value.isObject], ?_⟩
  refine failIf_bind_eq_ok.mpr ⟨?_, failIf_eq_ok.mpr ?_⟩
  · have found : Json.text (defaultStatusMessage purpose status) (js "status")
        = some (js "0x" ++ hexNumberText status) := rfl
    rw [found, Option.any_some, code]
    decide
  · have found : Json.text (defaultStatusMessage purpose status) (js "message") ≠ none :=
      Option.some_ne_none _
    exact found

theorem assertStatusEntries_default (position : Nat) (purpose : JsString) {statuses : List Nat}
    (small : ∀ status ∈ statuses, status < 256)
    : assertStatusEntries position (statuses.map (defaultStatusMessage purpose)) = .ok () := by
  induction statuses generalizing position with
  | nil => rfl
  | cons status rest ih =>
      obtain ⟨here, later⟩ := List.forall_mem_cons.mp small
      exact bind_eq_ok.mpr ⟨(), assertStatusEntry_default position purpose here, ih _ later⟩

/-- The size and the messages of a wire list pass their checks. -/
theorem wireList_checks (purpose encodedList : JsString) {statusSize : Nat}
    (sized : 1 ≤ statusSize ∧ statusSize ≤ 8)
    : normalizeStatusSize (wireList purpose statusSize encodedList).statusSize = .ok statusSize
      ∧ assertStatusMessage (wireList purpose statusSize encodedList).statusMessage statusSize
        = .ok () := by
  unfold wireList
  split
  case isTrue single =>
    rw [single]
    exact ⟨rfl, rfl⟩
  case isFalse several =>
    constructor
    · refine failIf_bind_eq_ok.mpr ⟨?_, failIf_bind_eq_ok.mpr ⟨?_, rfl⟩⟩
      · exact not_lt.mpr (by exact_mod_cast sized.1)
      · exact not_lt.mpr (by exact_mod_cast sized.2)
    · refine failIf_bind_eq_ok.mpr ⟨by simp, assertStatusEntries_default 0 purpose ?_⟩
      intro status member
      have bound : 2 ^ statusSize ≤ 2 ^ 8 := Nat.pow_le_pow_right (by decide) sized.2
      exact Nat.lt_of_lt_of_le (List.mem_range.mp member) bound

@[simp]
theorem wireList_statusPurpose (purpose : JsString) (statusSize : Nat) (encodedList : JsString)
    : (wireList purpose statusSize encodedList).statusPurpose = purpose := by
  unfold wireList
  split <;> rfl

@[simp]
theorem wireList_encodedList (purpose : JsString) (statusSize : Nat) (encodedList : JsString)
    : (wireList purpose statusSize encodedList).encodedList = encodedList := by
  unfold wireList
  split <;> rfl

/-- The platform decompresses what it compressed. -/
def Platform.RoundTrips (platform : Platform) : Prop :=
  ∀ bits, platform.gunzip (platform.gzip bits) = some bits

theorem multibaseDecode_encodedBits (platform : Platform) (bits : Bytes)
    : multibaseDecode (encodedBits platform bits) = .ok (platform.gzip bits) :=
  failIf_bind_eq_ok.mpr ⟨by simp, base64urlDecode_base64urlEncode (platform.gzip bits)⟩

/-- Compressed bits expand again unless they are past the ceiling. -/
theorem gunzip_gzip {platform : Platform} (roundTrips : platform.RoundTrips)
    {bits expanded : Bytes}
    : gunzip platform (platform.gzip bits) = .ok expanded
      ↔ bits.length ≤ maxStatusListBytes ∧ expanded = bits := by
  simp only [gunzip, roundTrips bits]
  rw [failIf_bind_eq_ok, not_lt, Except.ok.injEq, eq_comm]

theorem Encoded.entryCount {platform : Platform} {options : EncodeStatusListOptions}
    {list : BitstringStatusList} {entries statusSize : Nat} {bits : Bytes}
    (encoded : Encoded platform options list entries statusSize bits) (purpose : JsString)
    : (DecodedStatusList.entryCount { statusPurpose := purpose, statusSize, bits }) = entries := by
  rw [DecodedStatusList.entryCount, DecodedStatusList.bitLength, encoded.length]
  exact Nat.mul_div_cancel entries encoded.sized.1

/-- An encoded list decodes to its bits exactly when they fit the ceiling. -/
theorem Encoded.decodeStatusList_eq_ok {platform : Platform}
    {options : EncodeStatusListOptions} {list : BitstringStatusList} {entries statusSize : Nat}
    {bits : Bytes} {decoded : DecodedStatusList}
    (encoded : Encoded platform options list entries statusSize bits)
    (roundTrips : platform.RoundTrips)
    : decodeStatusList platform list (some options.statusPurpose) = .ok decoded
      ↔ bits.length ≤ maxStatusListBytes
        ∧ decoded = { statusPurpose := options.statusPurpose, statusSize, bits } := by
  obtain ⟨size, message⟩ :=
    wireList_checks options.statusPurpose (encodedBits platform bits) encoded.sized
  have purpose : assertKnownPurpose (wireList options.statusPurpose statusSize
      (encodedBits platform bits)).statusPurpose = .ok options.statusPurpose := by
    rw [wireList_statusPurpose]
    exact assertKnownPurpose_eq_ok.mpr ⟨encoded.known, rfl⟩
  have opening : multibaseDecode (wireList options.statusPurpose statusSize
      (encodedBits platform bits)).encodedList = .ok (platform.gzip bits) := by
    rw [wireList_encodedList]
    exact multibaseDecode_encodedBits platform bits
  have long : ¬ entries < minimumStatusListEntries := not_lt.mpr encoded.floor
  rw [encoded.list]
  constructor
  · intro read
    rcases bind_eq_ok.mp read with ⟨_, known, read⟩
    obtain rfl := Except.ok.inj (purpose.symm.trans known)
    rcases failIf_bind_eq_ok.mp read with ⟨-, read⟩
    rcases bind_eq_ok.mp read with ⟨_, sized, read⟩
    obtain rfl := Except.ok.inj (size.symm.trans sized)
    rcases bind_eq_ok.mp read with ⟨_, -, read⟩
    rcases bind_eq_ok.mp read with ⟨_, opened, read⟩
    obtain rfl := Except.ok.inj (opening.symm.trans opened)
    rcases bind_eq_ok.mp read with ⟨_, expanded, read⟩
    rcases failIf_bind_eq_ok.mp read with ⟨-, finished⟩
    obtain ⟨fits, rfl⟩ := (gunzip_gzip roundTrips).mp expanded
    exact ⟨fits, (Except.ok.inj finished).symm⟩
  · rintro ⟨fits, rfl⟩
    refine bind_eq_ok.mpr ⟨_, purpose, failIf_bind_eq_ok.mpr ⟨by simp, ?_⟩⟩
    refine bind_eq_ok.mpr ⟨_, size, bind_eq_ok.mpr ⟨_, message, ?_⟩⟩
    refine bind_eq_ok.mpr ⟨_, opening, bind_eq_ok.mpr ⟨bits, ?_, ?_⟩⟩
    · exact (gunzip_gzip roundTrips).mpr ⟨fits, rfl⟩
    · refine failIf_bind_eq_ok.mpr ⟨?_, rfl⟩
      rw [encoded.entryCount]
      exact long

/-- A list that fits is addressable. -/
theorem addressable_of_fits {bits : Bytes} (fits : bits.length ≤ maxStatusListBytes)
    : addressable bits := by
  simp only [maxStatusListBytes] at fits
  rw [addressable]
  omega

/-- Every entry of a decoded list has a status, which is zero exactly when the entry is not
marked.
-/
theorem Marks.statusAt {entries statusSize : Nat} {set : List Number} {bits : Bytes}
    (marks : Marks entries statusSize set bits) (small : addressable bits)
    (sized : 1 ≤ statusSize ∧ statusSize ≤ 8) (purpose : JsString) {index : Nat}
    (inside : index < entries)
    : ∃ status,
        Identity.statusAt { statusPurpose := purpose, statusSize, bits } index = .ok status
        ∧ (status ≠ 0 ↔ (index : Number) ∈ set) := by
  have room : index * statusSize + statusSize ≤ bits.length * 8 := by
    rw [marks.length, ← Nat.succ_mul]
    exact Nat.mul_le_mul_right statusSize inside
  obtain ⟨status, read, zero⟩ :=
    statusAt_eq { statusPurpose := purpose, statusSize, bits } small sized.2 room
  refine ⟨status, read, ?_⟩
  rw [Ne, Int.natCast_eq_zero, zero]
  constructor
  · intro marked
    obtain ⟨offset, marked⟩ := not_forall.mp marked
    obtain ⟨within, set⟩ := Classical.not_imp.mp marked
    exact (marks.bit index inside offset within).mp (eq_true_of_ne_false set)
  · intro member clear
    have set := (marks.bit index inside 0 sized.1).mpr member
    exact Bool.false_ne_true ((clear 0 sized.1).symm.trans set)

/-- The marked entries determine the bits. Witness: every octet bit by bit. -/
theorem Marks.unique {entries statusSize : Nat} {set : List Number} {left right : Bytes}
    (leftMarks : Marks entries statusSize set left)
    (rightMarks : Marks entries statusSize set right) (sized : 1 ≤ statusSize)
    : left = right := by
  have lengths : left.length = right.length :=
    Nat.eq_of_mul_eq_mul_right (by decide) (leftMarks.length.trans rightMarks.length.symm)
  have bits : ∀ position < left.length * 8, bitSet left position = bitSet right position := by
    intro position inside
    rw [leftMarks.length] at inside
    have index : position / statusSize < entries := Nat.div_lt_of_lt_mul (by rwa [Nat.mul_comm])
    have offset : position % statusSize < statusSize := Nat.mod_lt _ sized
    have here := leftMarks.bit _ index _ offset
    have there := rightMarks.bit _ index _ offset
    rw [Nat.div_add_mod'] at here there
    exact Bool.eq_iff_iff.mpr (here.trans there.symm)
  refine List.ext_getElem lengths fun octet leftBound rightBound => ?_
  refine UInt8.toNat_inj.mp (Nat.eq_of_testBit_eq fun bit => ?_)
  by_cases low : bit < 8
  · have same := bits (octet * 8 + (7 - bit)) (by omega)
    have place : (octet * 8 + (7 - bit)) / 8 = octet := by omega
    have within : 7 - (octet * 8 + (7 - bit)) % 8 = bit := by omega
    rw [bitSet, bitSet, place, within, List.getElem?_eq_getElem leftBound,
      List.getElem?_eq_getElem rightBound] at same
    exact same
  · have high : 2 ^ 8 ≤ 2 ^ bit := Nat.pow_le_pow_right (by decide) (not_lt.mp low)
    rw [Nat.testBit_lt_two_pow (Nat.lt_of_lt_of_le left[octet].toNat_lt high),
      Nat.testBit_lt_two_pow (Nat.lt_of_lt_of_le right[octet].toNat_lt high)]

/-- Two requests that encode as one list mark the same entries. -/
theorem Encoded.set_iff {platform : Platform} {options other : EncodeStatusListOptions}
    {list : BitstringStatusList} {entries statusSize otherEntries otherSize : Nat}
    {bits otherBits : Bytes} (encoded : Encoded platform options list entries statusSize bits)
    (again : Encoded platform other list otherEntries otherSize otherBits)
    (roundTrips : platform.RoundTrips) (fits : bits.length ≤ maxStatusListBytes)
    (purpose : options.statusPurpose = other.statusPurpose) {index : Nat} (inside : index < entries)
    : (index : Number) ∈ options.set ↔ (index : Number) ∈ other.set := by
  have decoded := (encoded.decodeStatusList_eq_ok roundTrips).mpr ⟨fits, rfl⟩
  rw [purpose] at decoded
  obtain ⟨-, same⟩ := (again.decodeStatusList_eq_ok roundTrips).mp decoded
  obtain ⟨-, rfl, rfl⟩ := DecodedStatusList.mk.inj same
  have small := addressable_of_fits fits
  have counted : entries * statusSize = otherEntries * statusSize :=
    encoded.length.symm.trans again.length
  obtain rfl : entries = otherEntries := Nat.eq_of_mul_eq_mul_right encoded.sized.1 counted
  rw [← (encoded.marks small).bit index inside 0 encoded.sized.1,
    ← (again.marks small).bit index inside 0 encoded.sized.1]

end StellarOnramp.Identity
