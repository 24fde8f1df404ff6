import StellarOnramp.Gateway.JwsSigning

/-! Translating a signature between DER and raw octets, over all octet strings.

Writing DER is undone by reading it. Reading also takes INTEGERs that are negative, or that have
zeros in front, so a raw signature has more than one accepted DER form.
-/

namespace StellarOnramp.Gateway

open Attempts Octets

-----------------------------------------------------------------------------------------
-- The contents of an INTEGER
-----------------------------------------------------------------------------------------

/-- The contents of the first INTEGER, at the length that the signature states for it. -/
def firstContents (der : Bytes) : Bytes := (der.drop 4).take (der.getD 3 0).toNat

/-- The contents of the second INTEGER: all that is behind its tag and its length. -/
def secondContents (der : Bytes) : Bytes := der.drop (6 + (der.getD 3 0).toNat)

/-- The contents are positive, and a zero in front of them is needed to keep them so. -/
def IsMinimal : Bytes → Prop
  | 0 :: next :: _ => 0x80 ≤ next
  | first :: _ => 0 < first ∧ first < 0x80
  | [] => False

instance (contents : Bytes) : Decidable (IsMinimal contents) := by
  unfold IsMinimal
  split <;> infer_instance

/-- Both INTEGERs of a signature are positive and as short as they can be. -/
def HasMinimalIntegers (der : Bytes) : Prop :=
  IsMinimal (firstContents der) ∧ IsMinimal (secondContents der)

instance (der : Bytes) : Decidable (HasMinimalIntegers der) := instDecidableAnd

/-- An INTEGER with the given contents. -/
def tlv (contents : Bytes) : Bytes := [0x02, UInt8.ofNat contents.length] ++ contents

/-- The contents that are written for a magnitude. -/
def signPadded (magnitude : Bytes) : Bytes :=
  if 0x80 ≤ magnitude.headD 0 then 0 :: magnitude else magnitude

/-- A magnitude, on the right in 32 octets. -/
def padded (magnitude : Bytes) : Bytes :=
  List.replicate (32 - magnitude.length) 0 ++ magnitude

/-- A signature with the given contents of its INTEGERs. -/
def sigValue (r s : Bytes) : Bytes :=
  [0x30, UInt8.ofNat (tlv r ++ tlv s).length] ++ (tlv r ++ tlv s)

theorem octet_toNat {length : Nat} (small : length ≤ 72) : (UInt8.ofNat length).toNat = length := by
  rw [UInt8.toNat_ofNat']
  omega

theorem firstContents_sigValue {r : Bytes} (short : r.length ≤ 72) (s : Bytes)
    : firstContents (sigValue r s) = r := by
  have stated : ((sigValue r s).getD 3 0).toNat = r.length := octet_toNat short
  rw [firstContents, stated]
  exact List.take_left

theorem secondContents_sigValue {r : Bytes} (short : r.length ≤ 72) (s : Bytes)
    : secondContents (sigValue r s) = s := by
  have stated : ((sigValue r s).getD 3 0).toNat = r.length := octet_toNat short
  have split
      : sigValue r s
        = ([0x30, UInt8.ofNat (tlv r ++ tlv s).length, 0x02, UInt8.ofNat r.length] ++ r
            ++ [0x02, UInt8.ofNat s.length]) ++ s := by
    simp [sigValue, tlv]
  rw [secondContents, stated, split]
  apply List.drop_left'
  simp only [List.length_append, List.length_cons, List.length_nil]
  omega

/-- Signatures with short contents are equal only when the contents are. -/
theorem sigValue_inj {r s r' s' : Bytes} (short : r.length ≤ 72) (short' : r'.length ≤ 72)
    (same : sigValue r s = sigValue r' s')
    : r = r' ∧ s = s' := by
  have first := congrArg firstContents same
  have second := congrArg secondContents same
  rw [firstContents_sigValue short, firstContents_sigValue short'] at first
  rw [secondContents_sigValue short, secondContents_sigValue short'] at second
  exact ⟨first, second⟩

-----------------------------------------------------------------------------------------
-- Dropping zeros and putting them back
-----------------------------------------------------------------------------------------

theorem stripZeros_ne_nil {contents : Bytes} (filled : contents ≠ [])
    : stripZeros contents ≠ [] := by
  fun_induction stripZeros contents with
  | case1 next rest ih => exact ih (List.cons_ne_nil next rest)
  | case2 => exact filled

theorem stripZeros_length_le (contents : Bytes)
    : (stripZeros contents).length ≤ contents.length := by
  fun_induction stripZeros contents with
  | case1 next rest ih => exact ih.trans (Nat.le_succ _)
  | case2 => exact le_rfl

theorem stripZeros_zero_cons {octets : Bytes} (filled : octets ≠ [])
    : stripZeros (0 :: octets) = stripZeros octets := by
  cases octets with
  | nil => exact absurd rfl filled
  | cons next rest => rw [stripZeros]

theorem stripZeros_idem (contents : Bytes)
    : stripZeros (stripZeros contents) = stripZeros contents := by
  fun_induction stripZeros contents with
  | case1 next rest ih => exact ih
  | case2 octets unstripped =>
      cases octets with
      | nil => rfl
      | cons first rest =>
          cases rest with
          | nil => cases decEq first 0 <;> simp_all [stripZeros]
          | cons next rest =>
              apply stripZeros_of_ne
              intro zero
              subst zero
              exact unstripped next rest rfl

/-- Zeros in front of contents that are not empty are dropped, by induction on their number. -/
theorem stripZeros_replicate {octets : Bytes} (filled : octets ≠ []) (zeros : Nat)
    : stripZeros (List.replicate zeros 0 ++ octets) = stripZeros octets := by
  induction zeros with
  | zero => rfl
  | succ zeros ih =>
      have behind : List.replicate zeros 0 ++ octets ≠ [] :=
        List.append_ne_nil_of_right_ne_nil _ filled
      rw [List.replicate_succ, List.cons_append, stripZeros_zero_cons behind, ih]

theorem stripZeros_padded {contents : Bytes} (filled : contents ≠ [])
    : stripZeros (padded (stripZeros contents)) = stripZeros contents := by
  rw [padded, stripZeros_replicate (stripZeros_ne_nil filled), stripZeros_idem]

/-- What is left of contents that do not spell zero starts with another octet. -/
theorem stripZeros_head {contents : Bytes} (filled : contents ≠ [])
    (nonzero : stripZeros contents ≠ [0])
    : ∃ first rest, stripZeros contents = first :: rest ∧ first ≠ 0 := by
  have stripped := stripZeros_ne_nil filled
  have idem := stripZeros_idem contents
  cases shape : stripZeros contents with
  | nil => exact absurd shape stripped
  | cons first rest =>
      refine ⟨first, rest, rfl, ?_⟩
      intro zero
      subst zero
      rw [shape] at nonzero idem
      cases rest with
      | nil => exact nonzero rfl
      | cons next rest =>
          have shorter := stripZeros_length_le (next :: rest)
          rw [stripZeros_zero_cons (List.cons_ne_nil next rest)] at idem
          rw [idem] at shorter
          simp at shorter

theorem isMinimal_cons_of_ne {first : UInt8} {rest : Bytes} (nonzero : first ≠ 0)
    : IsMinimal (first :: rest) ↔ first < 0x80 := by
  have positive : 0 < first := UInt8.pos_iff_ne_zero.mpr nonzero
  unfold IsMinimal
  split
  case h_1 same =>
    cases same
    exact absurd rfl nonzero
  case h_2 same =>
    cases same
    exact and_iff_right positive
  case h_3 same => cases same

/-- Contents are written back as they are exactly when they are minimal. -/
theorem signPadded_stripZeros_iff {contents : Bytes} (filled : contents ≠ [])
    : stripZeros contents ≠ [0] ∧ signPadded (stripZeros contents) = contents
      ↔ IsMinimal contents := by
  constructor
  · intro written
    obtain ⟨nonzero, written⟩ := written
    obtain ⟨first, rest, shape, positive⟩ := stripZeros_head filled nonzero
    rw [shape, signPadded, List.headD_cons] at written
    split at written
    case isTrue high =>
      rw [← written]
      exact high
    case isFalse low =>
      rw [← written, isMinimal_cons_of_ne positive]
      exact UInt8.not_le.mp low
  · intro minimal
    cases contents with
    | nil => exact absurd rfl filled
    | cons first rest =>
        by_cases zero : first = 0
        · subst zero
          cases rest with
          | nil => exact absurd minimal.1 (by decide)
          | cons next rest =>
              have high : 0x80 ≤ next := minimal
              have positive : next ≠ 0 := by
                intro zero
                subst zero
                exact absurd high (by decide)
              rw [stripZeros_zero_cons (List.cons_ne_nil next rest), stripZeros_of_ne positive]
              refine ⟨?_, if_pos high⟩
              intro same
              exact positive (List.cons.inj same).1
        · have low := (isMinimal_cons_of_ne zero).mp minimal
          rw [stripZeros_of_ne zero]
          refine ⟨?_, if_neg (UInt8.not_le.mpr low)⟩
          intro same
          exact zero (List.cons.inj same).1

-----------------------------------------------------------------------------------------
-- What is accepted, and what it is written back as
-----------------------------------------------------------------------------------------

/-- Contents that are accepted: up to 33 octets, and up to 32 behind their zeros. -/
structure Fits (contents : Bytes) : Prop where
  filled : contents ≠ []
  short : contents.length ≤ 33
  magnitude : (stripZeros contents).length ≤ 32

/-- An INTEGER is accepted exactly when its contents fit, and all that counts is what is
behind the zeros. -/
theorem takeInteger_eq_ok {members half behind : Bytes}
    : takeInteger members = .ok (half, behind)
      ↔ ∃ contents,
          Fits contents
          ∧ members = tlv contents ++ behind
          ∧ half = padded (stripZeros contents) := by
  constructor
  · intro taken
    unfold takeInteger at taken
    split at taken
    case h_2 => cases taken
    case h_1 length rest =>
      obtain ⟨stated, taken⟩ := failIf_bind_eq_ok.mp taken
      obtain ⟨there, taken⟩ := failIf_bind_eq_ok.mp taken
      obtain ⟨magnitude, taken⟩ := failIf_bind_eq_ok.mp taken
      obtain ⟨rfl, rfl⟩ := Prod.mk.inj (Except.ok.inj taken)
      have contents_length : (rest.take length.toNat).length = length.toNat := by
        rw [List.length_take]
        omega
      refine ⟨rest.take length.toNat, ⟨?_, by omega, not_lt.mp magnitude⟩, ?_, rfl⟩
      · apply List.ne_nil_of_length_pos
        omega
      · rw [tlv, contents_length, UInt8.ofNat_toNat]
        simp only [List.cons_append, List.nil_append, List.take_append_drop]
  · intro read
    obtain ⟨contents, fits, rfl, rfl⟩ := read
    have filled := List.length_pos_of_ne_nil fits.filled
    have short := fits.short
    have stated := octet_toNat (show contents.length ≤ 72 by omega)
    have written
        : tlv contents ++ behind
          = 0x02 :: UInt8.ofNat contents.length :: (contents ++ behind) := rfl
    rw [written, takeInteger, stated]
    refine failIf_bind_eq_ok.mpr ⟨by omega, failIf_bind_eq_ok.mpr ⟨?_, ?_⟩⟩
    · rw [List.length_append]
      omega
    · rw [List.take_left, List.drop_left]
      exact failIf_bind_eq_ok.mpr ⟨not_lt.mpr fits.magnitude, rfl⟩

theorem derInteger_padded {contents integer : Bytes} (fits : Fits contents)
    : derInteger (padded (stripZeros contents)) = .ok integer
      ↔ stripZeros contents ≠ [0] ∧ integer = tlv (signPadded (stripZeros contents)) := by
  rw [derInteger, stripZeros_padded fits.filled]
  rw [failIf_bind_eq_ok]
  exact and_congr_right fun _ => ⟨fun same => (Except.ok.inj same).symm, fun same => same ▸ rfl⟩

/-- A signature is accepted exactly when it is two INTEGERs that fit. -/
theorem derToRaw_eq_ok {der raw : Bytes}
    : derToRaw der = .ok raw
      ↔ ∃ r s,
          Fits r
          ∧ Fits s
          ∧ 8 ≤ der.length
          ∧ der.length ≤ 72
          ∧ der = sigValue r s
          ∧ raw = padded (stripZeros r) ++ padded (stripZeros s) := by
  constructor
  · intro translated
    obtain ⟨length, translated⟩ := failIf_bind_eq_ok.mp translated
    split at translated
    case h_2 => cases translated
    case h_1 tag seqLen members _ =>
      obtain ⟨tagged, translated⟩ := failIf_bind_eq_ok.mp translated
      obtain ⟨_, translated⟩ := failIf_bind_eq_ok.mp translated
      obtain ⟨stated, translated⟩ := failIf_bind_eq_ok.mp translated
      obtain ⟨⟨first, behind⟩, taken, translated⟩ := bind_eq_ok.mp translated
      obtain ⟨r, fits_r, rfl, rfl⟩ := takeInteger_eq_ok.mp taken
      obtain ⟨⟨second, nothing⟩, taken, translated⟩ := bind_eq_ok.mp translated
      obtain ⟨s, fits_s, rfl, rfl⟩ := takeInteger_eq_ok.mp taken
      obtain ⟨empty, joined⟩ := failIf_bind_eq_ok.mp translated
      obtain rfl := not_not.mp empty
      obtain rfl := not_not.mp tagged
      obtain rfl := Except.ok.inj joined
      have whole : seqLen.toNat = (tlv r ++ tlv s).length := by
        rw [List.append_nil] at stated
        exact Nat.add_right_cancel (not_not.mp stated)
      refine ⟨r, s, fits_r, fits_s, by omega, by omega, ?_, rfl⟩
      rw [sigValue, ← whole, UInt8.ofNat_toNat, List.append_nil]
      rfl
  · intro accepted
    obtain ⟨r, s, fits_r, fits_s, least, most, rfl, rfl⟩ := accepted
    have whole : (sigValue r s).length = (tlv r ++ tlv s).length + 2 := by
      simp only [sigValue, List.length_append, List.length_cons, List.length_nil]
      omega
    have stated := octet_toNat (show (tlv r ++ tlv s).length ≤ 72 by omega)
    have second : takeInteger (tlv s) = .ok (padded (stripZeros s), []) :=
      takeInteger_eq_ok.mpr ⟨s, fits_s, (List.append_nil _).symm, rfl⟩
    unfold derToRaw
    refine failIf_bind_eq_ok.mpr ⟨by omega, ?_⟩
    dsimp only [sigValue, List.cons_append, List.nil_append]
    rw [stated]
    refine failIf_bind_eq_ok.mpr ⟨not_not.mpr rfl, failIf_bind_eq_ok.mpr ⟨by omega, ?_⟩⟩
    refine failIf_bind_eq_ok.mpr ⟨not_not.mpr rfl, ?_⟩
    refine bind_eq_ok.mpr ⟨_, takeInteger_eq_ok.mpr ⟨r, fits_r, rfl, rfl⟩, ?_⟩
    refine bind_eq_ok.mpr ⟨_, second, ?_⟩
    exact failIf_bind_eq_ok.mpr ⟨not_not.mpr rfl, rfl⟩

theorem padded_length {contents : Bytes} (fits : Fits contents)
    : (padded (stripZeros contents)).length = 32 := by
  have short := fits.magnitude
  rw [padded, List.length_append, List.length_replicate]
  omega

/-- An accepted signature is written back as it was exactly when its INTEGERs are minimal. -/
theorem rawToDer_of_derToRaw {der raw : Bytes} (accepted : derToRaw der = .ok raw)
    : rawToDer raw = .ok der ↔ HasMinimalIntegers der := by
  obtain ⟨r, s, fits_r, fits_s, -, -, rfl, rfl⟩ := derToRaw_eq_ok.mp accepted
  have short := fits_r.short
  have short' : (signPadded (stripZeros r)).length ≤ 72 := by
    have magnitude := fits_r.magnitude
    unfold signPadded
    split
    case isTrue =>
      rw [List.length_cons]
      omega
    case isFalse => omega
  have left : (padded (stripZeros r) ++ padded (stripZeros s)).take 32 = padded (stripZeros r) :=
    List.take_left' (padded_length fits_r)
  have right : (padded (stripZeros r) ++ padded (stripZeros s)).drop 32 = padded (stripZeros s) :=
    List.drop_left' (padded_length fits_r)
  rw [HasMinimalIntegers, firstContents_sigValue (by omega), secondContents_sigValue (by omega),
    ← signPadded_stripZeros_iff fits_r.filled, ← signPadded_stripZeros_iff fits_s.filled,
    rawToDer, left, right]
  constructor
  · intro written
    obtain ⟨first, written_r, written⟩ := bind_eq_ok.mp written
    obtain ⟨second, written_s, written⟩ := bind_eq_ok.mp written
    obtain ⟨nonzero_r, rfl⟩ := (derInteger_padded fits_r).mp written_r
    obtain ⟨nonzero_s, rfl⟩ := (derInteger_padded fits_s).mp written_s
    obtain ⟨same_r, same_s⟩ := sigValue_inj short' (by omega) (Except.ok.inj written)
    exact ⟨⟨nonzero_r, same_r⟩, ⟨nonzero_s, same_s⟩⟩
  · intro minimal
    obtain ⟨⟨nonzero_r, same_r⟩, ⟨nonzero_s, same_s⟩⟩ := minimal
    refine bind_eq_ok.mpr ⟨_, (derInteger_padded fits_r).mpr ⟨nonzero_r, rfl⟩, ?_⟩
    refine bind_eq_ok.mpr ⟨_, (derInteger_padded fits_s).mpr ⟨nonzero_s, rfl⟩, ?_⟩
    rw [same_r, same_s]
    rfl

/-- A raw signature is read back from the DER form it is written in. -/
theorem derToRaw_of_rawToDer {raw : Bytes} (length : raw.length = 64)
    (nonzero_r : beNat (raw.take 32) ≠ 0) (nonzero_s : beNat (raw.drop 32) ≠ 0)
    : rawToDer raw >>= derToRaw = .ok raw := by
  have length_r : (raw.take 32).length = 32 := by
    rw [List.length_take]
    omega
  have length_s : (raw.drop 32).length = 32 := by
    rw [List.length_drop]
    omega
  have octets_r := beBytes_beNat (raw.take 32)
  have octets_s := beBytes_beNat (raw.drop 32)
  have small_r := beNat_lt (raw.take 32)
  have small_s := beNat_lt (raw.drop 32)
  rw [length_r] at octets_r small_r
  rw [length_s] at octets_s small_s
  have scalar_r : IsScalar (beNat (raw.take 32)) := ⟨Nat.pos_of_ne_zero nonzero_r, small_r⟩
  have scalar_s : IsScalar (beNat (raw.drop 32)) := ⟨Nat.pos_of_ne_zero nonzero_s, small_s⟩
  have written := rawToDer_scalars scalar_r scalar_s
  have read := derToRaw_ecdsaSigValue scalar_r scalar_s
  rw [octets_r, octets_s, List.take_append_drop] at written read
  exact bind_eq_ok.mpr ⟨_, written, read⟩

-----------------------------------------------------------------------------------------
-- When the two translations are inverse
-----------------------------------------------------------------------------------------

/-- Every raw signature without a zero half survives DER, and an accepted DER signature
survives the raw form exactly when both of its INTEGERs are positive and minimal.
-/
theorem der_raw_round_trips (raw der : Bytes)
    : (raw.length = 64
        → beNat (raw.take 32) ≠ 0
        → beNat (raw.drop 32) ≠ 0
        → rawToDer raw >>= derToRaw = .ok raw)
      ∧ ∀ read : Bytes,
          derToRaw der = .ok read → (rawToDer read = .ok der ↔ HasMinimalIntegers der) := by
  constructor
  · intro length nonzero_r nonzero_s
    exact derToRaw_of_rawToDer length nonzero_r nonzero_s
  · intro read accepted
    exact rawToDer_of_derToRaw accepted

/-- A signature of two ones, and a short negative number, are each taken to one raw form. -/
theorem der_raw_round_trips_ones
    : (rawToDer (beBytes 32 1 ++ beBytes 32 1) >>= derToRaw
        = .ok (beBytes 32 1 ++ beBytes 32 1))
      ∧ (rawToDer (beBytes 32 1 ++ beBytes 32 1) = .ok [0x30, 6, 2, 1, 1, 2, 1, 1]
          ↔ HasMinimalIntegers [0x30, 6, 2, 1, 1, 2, 1, 1]) := by
  obtain ⟨encoded, decoded⟩ :=
    der_raw_round_trips (beBytes 32 1 ++ beBytes 32 1) [0x30, 6, 2, 1, 1, 2, 1, 1]
  exact ⟨encoded (by decide) (by decide) (by decide), decoded _ (by decide)⟩

/-- A first INTEGER of the one octet `0x80` is negative, and yet it is accepted: the raw form
is written back with the zero that was missing. Both forms are accepted for one raw signature.
-/
theorem negative_integer_accepted
    : ¬ (∀ der raw : Bytes, derToRaw der = .ok raw → rawToDer raw = .ok der)
      ∧ derToRaw [0x30, 6, 2, 1, 0x80, 2, 1, 1] = derToRaw [0x30, 7, 2, 2, 0, 0x80, 2, 1, 1]
      ∧ derToRaw [0x30, 6, 2, 1, 0x80, 2, 1, 1] = .ok (beBytes 32 0x80 ++ beBytes 32 1) := by
  have accepted
      : derToRaw [0x30, 6, 2, 1, 0x80, 2, 1, 1] = .ok (beBytes 32 0x80 ++ beBytes 32 1) := by
    decide
  refine ⟨?_, by decide, accepted⟩
  intro inverse
  have written := inverse _ _ accepted
  revert written
  decide

end StellarOnramp.Gateway
