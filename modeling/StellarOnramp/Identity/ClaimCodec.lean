import StellarOnramp.Identity.DisclosedClaims

/-! Encoding claims and decoding disclosed messages, as inverses of each other.

What an issuer encodes is decoded to the same claims. A decoded message is encoded again to
itself unless its value has an equals sign, which the encoder refuses and the decoder does not.
-/

namespace StellarOnramp.Identity

open Attempts JsText Octets

-----------------------------------------------------------------------------------------
-- Values
-----------------------------------------------------------------------------------------

theorem isCanonicalUint_numberText (value : Nat)
    : isCanonicalUint (numberText (value : Int)) = true := by
  obtain ⟨digits, -, filled, head⟩ := numberText_spec value
  cases value with
  | zero => decide
  | succ value =>
      have first := head (Nat.succ_pos value)
      simp only [isCanonicalUint, Bool.or_eq_true, Bool.and_eq_true, bne_iff_ne, ne_eq, beq_iff_eq]
      exact Or.inr ⟨⟨filled, first⟩, digits⟩

/-- Canonical digits are the text of the number they spell. -/
theorem numberText_of_isCanonicalUint {text : JsString} (canonical : isCanonicalUint text = true)
    : numberText (digitsValue text : Int) = text := by
  simp only [isCanonicalUint, Bool.or_eq_true, Bool.and_eq_true, bne_iff_ne, ne_eq, beq_iff_eq]
    at canonical
  rcases canonical with rfl | ⟨⟨filled, head⟩, digits⟩
  · decide
  · exact (numberText_digitsValue filled digits head).2

/-- A value is decoded from what it was encoded to. -/
theorem decodeValue_of_encodeValue {spec : ClaimSpec} {value : ClaimValue} {text : JsString}
    (encoded : encodeValue spec value = .ok text)
    : decodeValue spec text = .ok value := by
  unfold encodeValue at encoded
  split at encoded
  case h_1 flag kind =>
    obtain rfl := Except.ok.inj encoded
    rw [decodeValue, kind]
    cases flag <;> rfl
  case h_3 number kind =>
    split at encoded
    case isTrue => cases encoded
    case isFalse accepted =>
      obtain rfl := Except.ok.inj encoded
      obtain ⟨safe, natural⟩ := not_or.mp accepted
      obtain ⟨count, rfl⟩ := Int.eq_ofNat_of_zero_le (Int.not_lt.mp natural)
      rw [decodeValue, kind]
      refine failIf_bind_eq_ok.mpr ⟨by simp [isCanonicalUint_numberText], ?_⟩
      rw [(numberText_spec count).2.1]
      exact failIf_bind_eq_ok.mpr ⟨safe, rfl⟩
  case h_5 hex kind =>
    split at encoded
    case isFalse => cases encoded
    case isTrue valid =>
      obtain rfl := Except.ok.inj encoded
      rw [decodeValue, kind]
      exact failIf_bind_eq_ok.mpr ⟨by simp [valid], rfl⟩
  case h_7 string kind =>
    split at encoded
    case isTrue => cases encoded
    case isFalse filled =>
      split at encoded
      case isTrue => cases encoded
      case isFalse =>
        obtain rfl := Except.ok.inj encoded
        rw [decodeValue, kind]
        exact failIf_bind_eq_ok.mpr ⟨filled, rfl⟩
  all_goals cases encoded

theorem equals_notMem_of_digits {text : JsString} (digits : text.all isDigit = true)
    : 61 ∉ text := by
  intro member
  exact absurd (List.all_eq_true.mp digits 61 member) (by decide)

/-- A decoded value is encoded to the text it was decoded from, unless the text has an equals
sign, which only a string can have.
-/
theorem encodeValue_of_decodeValue {spec : ClaimSpec} {value : ClaimValue} {text : JsString}
    (decoded : decodeValue spec text = .ok value)
    : encodeValue spec value = .ok text ↔ 61 ∉ text := by
  unfold decodeValue at decoded
  split at decoded
  case h_1 kind =>
    obtain ⟨canonical, decoded⟩ := failIf_bind_eq_ok.mp decoded
    obtain rfl := Except.ok.inj decoded
    have spelled : text = js "true" ∨ text = js "false" := by
      by_contra neither
      exact canonical (not_or.mp neither)
    rw [encodeValue.eq_def, kind]
    rcases spelled with rfl | rfl
    · exact iff_of_true rfl (by decide)
    · exact iff_of_true rfl (by decide)
  case h_2 kind =>
    obtain ⟨canonical, decoded⟩ := failIf_bind_eq_ok.mp decoded
    obtain ⟨safe, decoded⟩ := failIf_bind_eq_ok.mp decoded
    obtain rfl := Except.ok.inj decoded
    have written := numberText_of_isCanonicalUint (Bool.eq_true_of_not_eq_false canonical)
    have plain : 61 ∉ text := by
      rw [← written]
      exact equals_notMem_of_digits (numberText_spec _).1
    rw [encodeValue.eq_def, kind]
    refine iff_of_true ?_ plain
    refine (if_neg ?_).trans (congrArg Except.ok written)
    rw [not_or, not_not]
    exact ⟨not_not.mp safe, Int.not_lt.mpr (Int.natCast_nonneg _)⟩
  case h_3 kind =>
    obtain ⟨valid, decoded⟩ := failIf_bind_eq_ok.mp decoded
    obtain rfl := Except.ok.inj decoded
    have hex := Bool.eq_true_of_not_eq_false valid
    have plain : 61 ∉ text := by
      intro member
      have digits := (Bool.and_eq_true_iff.mp hex).2
      exact absurd (List.all_eq_true.mp digits 61 member) (by decide)
    rw [encodeValue.eq_def, kind]
    exact iff_of_true (if_pos hex) plain
  case h_4 kind =>
    obtain ⟨filled, decoded⟩ := failIf_bind_eq_ok.mp decoded
    obtain rfl := Except.ok.inj decoded
    rw [encodeValue.eq_def, kind]
    dsimp only
    rw [if_neg filled]
    by_cases equals : 61 ∈ text
    · rw [if_pos (List.contains_iff_mem.mpr equals)]
      simp [equals]
    · rw [if_neg (mt List.contains_iff_mem.mp equals)]
      simp [equals]

-----------------------------------------------------------------------------------------
-- Messages
-----------------------------------------------------------------------------------------

/-- No claim name has an equals sign, so a message is split behind its name. -/
theorem equals_notMem_name (name : ClaimName) : 61 ∉ ofOctets name.text := by
  cases name <;> decide

theorem idxOf?_equals {front : JsString} (plain : 61 ∉ front) (text : JsString)
    : (front ++ js "=" ++ text).idxOf? 61 = some front.length := by
  rw [List.idxOf?_eq_some_iff]
  have bound : front.length < (front ++ js "=" ++ text).length := by
    rw [List.length_append, List.length_append]
    have single : (js "=").length = 1 := rfl
    omega
  refine ⟨bound, ?_, ?_⟩
  · have here : (front ++ js "=" ++ text)[front.length]? = some 61 := by
      rw [List.append_assoc, List.getElem?_append_right le_rfl, Nat.sub_self]
      rfl
    exact (List.getElem?_eq_some_iff.mp here).2
  · intro place before same
    apply plain
    rw [← same]
    have inside : (front ++ js "=" ++ text)[place]? = front[place]? := by
      rw [List.append_assoc, List.getElem?_append_left before]
    rw [List.getElem?_eq_getElem (before.trans bound), List.getElem?_eq_getElem before,
      Option.some.injEq] at inside
    rw [inside]
    exact List.getElem_mem before

theorem claimSpecByIndex_claimIndex (name : ClaimName)
    : claimSpecByIndex (claimIndex name) = some (claimSpec name) := by
  rw [claimSpecByIndex, if_neg (Int.not_lt.mpr (Int.natCast_nonneg _)), Int.toNat_natCast,
    claimSpecs_getElem?]

/-- A message with the name of its index is decoded as its value is. -/
theorem decodeMessage_named (position : Nat) (name : ClaimName) (text : JsString)
    : decodeMessage position (claimIndex name) (ofOctets name.text ++ js "=" ++ text)
      = (decodeValue (claimSpec name) text).map fun value => (name, value) := by
  have front
      : (ofOctets name.text ++ js "=" ++ text).take (ofOctets name.text).length
        = ofOctets name.text := by
    rw [List.append_assoc, List.take_left]
  have back
      : (ofOctets name.text ++ js "=" ++ text).drop ((ofOctets name.text).length + 1) = text := by
    apply List.drop_left'
    rw [List.length_append]
    rfl
  have same : (claimSpec name).name = name := rfl
  rw [decodeMessage, claimSpecByIndex_claimIndex, idxOf?_equals (equals_notMem_name name)]
  dsimp only
  rw [front, back, same, failIf, if_neg (not_not.mpr rfl)]
  cases decodeValue (claimSpec name) text <;> rfl

/-- A message is decoded exactly when it is the name of its index and a value. -/
theorem decodeMessage_eq_ok_iff {position : Nat} {idx : Number} {raw : JsString}
    {name : ClaimName} {value : ClaimValue}
    : decodeMessage position idx raw = .ok (name, value)
      ↔ idx = claimIndex name ∧ Spelled name raw value := by
  constructor
  · exact decodeMessage_eq_ok
  · intro spelled
    obtain ⟨rfl, ⟨text, rfl, read⟩⟩ := spelled
    rw [decodeMessage_named, read]
    rfl

/-- A decoded message is encoded again to itself exactly when it has one equals sign. -/
theorem Spelled.encodeClaim_iff {name : ClaimName} {message : JsString} {value : ClaimValue}
    (spelled : Spelled name message value)
    : encodeClaim name value = .ok message ↔ message.count 61 = 1 := by
  obtain ⟨text, rfl, read⟩ := spelled
  have signs : (ofOctets name.text ++ js "=" ++ text).count 61 = 1 + text.count 61 := by
    rw [List.count_append, List.count_append,
      List.count_eq_zero_of_not_mem (equals_notMem_name name)]
    rfl
  rw [signs, encodeClaim_eq_ok, Nat.add_eq_left, List.count_eq_zero,
    ← encodeValue_of_decodeValue read]
  constructor
  · intro encoded
    obtain ⟨written, encoded, same⟩ := encoded
    rwa [List.append_cancel_left same]
  · intro encoded
    exact ⟨text, encoded, rfl⟩

-----------------------------------------------------------------------------------------
-- Disclosures
-----------------------------------------------------------------------------------------

/-- An index in range is the index of a claim. -/
theorem exists_claimIndex {index : Number} (range : 0 ≤ index ∧ index < schemaAttributeCount)
    : ∃ name, index = claimIndex name := by
  obtain ⟨place, rfl⟩ := Int.eq_ofNat_of_zero_le range.1
  have bound : place < claimSpecs.length := Int.ofNat_lt.mp range.2
  obtain ⟨same, -⟩ := getElem?_claimSpecs (List.getElem?_eq_getElem bound)
  exact ⟨_, congrArg Nat.cast same⟩

/-- Decoding messages of a claim set overwrites the claims shown with those of the set, by
induction on the disclosure.
-/
theorem decodeMessages_of_encodeClaims {claims : KycClaims} {messages : List JsString}
    (encoded : encodeClaims claims = .ok messages) {indexes : List Number}
    (range : ∀ index ∈ indexes, 0 ≤ index ∧ index < schemaAttributeCount)
    (position : Nat) (out : Decoded)
    : decodeMessages position out indexes
        (indexes.map fun index => messages.getD index.toNat [])
      = .ok fun name =>
          if (claimIndex name : Number) ∈ indexes then some (claims.value name) else out name := by
  induction indexes generalizing position out with
  | nil => rfl
  | cons index rest ih =>
      obtain ⟨name, rfl⟩ := exists_claimIndex (range index List.mem_cons_self)
      obtain ⟨text, written, found⟩ := (encodeClaims_eq_ok encoded).2 name
      have message
          : messages.getD ((claimIndex name : Number)).toNat []
            = ofOctets name.text ++ js "=" ++ text := by
        rw [Int.toNat_natCast, List.getD_eq_getElem?_getD, found]
        rfl
      have later := ih (fun other member => range other (List.mem_cons_of_mem _ member))
      rw [List.map_cons, message, decodeMessages, decodeMessage_named,
        decodeValue_of_encodeValue written]
      refine (later (position + 1) _).trans (congrArg Except.ok (funext fun other => ?_))
      by_cases same : other = name
      · subst same
        rw [Function.update_self, ite_self, if_pos List.mem_cons_self]
      · have apart : (claimIndex other : Number) ≠ claimIndex name := by
          intro indexes
          exact same (claimIndex_injective (Int.ofNat_inj.mp indexes))
        rw [Function.update_of_ne same]
        simp only [List.mem_cons, apart, false_or]

/-- Each message of an accepted disclosure is accepted on its own, by induction on it. -/
theorem decodeMessages_each {indexes : List Number} {messages : List JsString} {position : Nat}
    {out decoded : Decoded} (read : decodeMessages position out indexes messages = .ok decoded)
    : ∀ pair ∈ indexes.zip messages,
        ∃ name value, pair.1 = claimIndex name ∧ Spelled name pair.2 value := by
  induction indexes generalizing messages position out with
  | nil => simp
  | cons index rest ih =>
      cases messages with
      | nil => simp
      | cons raw more =>
          obtain ⟨⟨name, value⟩, here, read⟩ := bind_eq_ok.mp read
          intro pair member
          rcases List.mem_cons.mp member with rfl | later
          · exact ⟨name, value, decodeMessage_eq_ok here⟩
          · exact ih read pair later

/-- One message is accepted exactly when it is the name of its index and a value, and then
only that claim is decoded.
-/
theorem decodeDisclosed_singleton {index : Number} {message : JsString} {decoded : Decoded}
    : decodeDisclosed [index] [message] = .ok decoded
      ↔ ∃ name value,
          index = claimIndex name
          ∧ Spelled name message value
          ∧ decoded = Function.update (fun _ => none) name (some value) := by
  rw [decodeDisclosed, failIf_bind_eq_ok]
  constructor
  · intro read
    obtain ⟨⟨name, value⟩, here, read⟩ := bind_eq_ok.mp read.2
    obtain ⟨same, spelled⟩ := decodeMessage_eq_ok here
    exact ⟨name, value, same, spelled, (Except.ok.inj read).symm⟩
  · intro spelled
    obtain ⟨name, value, same, spelled, rfl⟩ := spelled
    refine ⟨not_not.mpr rfl, ?_⟩
    exact bind_eq_ok.mpr ⟨(name, value), decodeMessage_eq_ok_iff.mpr ⟨same, spelled⟩, rfl⟩

/-- What an issuer encodes is decoded to the same claims, at any indexes in any order. Each
message that is accepted carries one claim, and is encoded again to itself exactly when it has
one equals sign.
-/
theorem claim_codec_round_trips (claims : KycClaims) (indexes : List Number)
    (messages : List JsString)
    : (∀ encoded : List JsString,
        encodeClaims claims = .ok encoded
        → (∀ index ∈ indexes, 0 ≤ index ∧ index < schemaAttributeCount)
        → decodeDisclosed indexes (indexes.map fun index => encoded.getD index.toNat [])
          = .ok fun name =>
              if (claimIndex name : Number) ∈ indexes then some (claims.value name) else none)
      ∧ (∀ (index : Number) (message : JsString) (decoded : Decoded),
          decodeDisclosed [index] [message] = .ok decoded
          → ∃ name value,
              index = claimIndex name
              ∧ decoded = Function.update (fun _ => none) name (some value)
              ∧ (encodeClaim name value = .ok message ↔ message.count 61 = 1))
      ∧ ∀ decoded : Decoded,
          decodeDisclosed indexes messages = .ok decoded
          → ∀ pair ∈ indexes.zip messages,
              ∃ alone, decodeDisclosed [pair.1] [pair.2] = .ok alone := by
  refine ⟨?_, ?_, ?_⟩
  · intro encoded written range
    refine failIf_bind_eq_ok.mpr ⟨?_, decodeMessages_of_encodeClaims written range 0 _⟩
    rw [List.length_map]
    exact not_not.mpr rfl
  · intro index message decoded read
    obtain ⟨name, value, same, spelled, rfl⟩ := decodeDisclosed_singleton.mp read
    exact ⟨name, value, same, rfl, spelled.encodeClaim_iff⟩
  · intro decoded read pair member
    obtain ⟨-, read⟩ := failIf_bind_eq_ok.mp read
    obtain ⟨name, value, same, spelled⟩ := decodeMessages_each read pair member
    exact ⟨_, decodeDisclosed_singleton.mpr ⟨name, value, same, spelled, rfl⟩⟩

namespace CodecSample

/-- A claim set of the first schema. -/
def claims : KycClaims :=
  {
    schemaVersion := js "1"
    issuerId := List.replicate 64 97
    revocationIndex := 7
    issuedAt := 0
    expiresAt := 600
    subjectBinding := List.replicate 64 98
    over18 := true
    over21 := false
    notSanctioned := true
    notPep := true
    jurisdictionOk := true
    livenessOk := true
  }

def messages : List JsString :=
  [
    js "schemaVersion=1", js "issuerId=" ++ List.replicate 64 97, js "revocationIndex=7",
    js "issuedAt=0", js "expiresAt=600", js "subjectBinding=" ++ List.replicate 64 98,
    js "over18=true", js "over21=false", js "notSanctioned=true", js "notPep=true",
    js "jurisdictionOk=true", js "livenessOk=true"
  ]

theorem over18_spelled : Spelled .over18 (js "over18=true") (.boolean true) :=
  ⟨js "true", by decide, rfl⟩

end CodecSample

/-- Showing an age and an index of one claim set, the age twice. -/
theorem claim_codec_round_trips_sample
    : decodeDisclosed [6, 2, 6]
          ([6, 2, 6].map fun index : Number => CodecSample.messages.getD index.toNat [])
        = .ok (fun name =>
            if (claimIndex name : Number) ∈ [6, 2, 6] then
              some (CodecSample.claims.value name)
            else
              none)
      ∧ (∃ name value,
          (6 : Number) = claimIndex name
          ∧ Function.update (fun _ => none) ClaimName.over18 (some (.boolean true))
            = Function.update (fun _ => none) name (some value)
          ∧ (encodeClaim name value = .ok (js "over18=true") ↔ (js "over18=true").count 61 = 1))
      ∧ ∀ pair ∈ [(6 : Number)].zip [js "over18=true"],
          ∃ alone, decodeDisclosed [pair.1] [pair.2] = .ok alone := by
  have read := decodeDisclosed_singleton.mpr ⟨.over18, _, rfl, CodecSample.over18_spelled, rfl⟩
  have encoded : encodeClaims CodecSample.claims = .ok CodecSample.messages := by decide +kernel
  obtain ⟨decoded, -, -⟩ := claim_codec_round_trips CodecSample.claims [6, 2, 6] []
  obtain ⟨-, recoded, each⟩ :=
    claim_codec_round_trips CodecSample.claims [6] [js "over18=true"]
  exact ⟨decoded _ encoded (by decide), recoded 6 (js "over18=true") _ read, each _ read⟩

/-- A schema version with an equals sign is decoded, and is not encoded again. -/
theorem equals_sign_decoded
    : ¬ (∀ (index : Number) (message : JsString) (decoded : Decoded),
          decodeDisclosed [index] [message] = .ok decoded
          → ∃ name value,
              index = claimIndex name
              ∧ decoded name = some value
              ∧ encodeClaim name value = .ok message) := by
  intro inverse
  have spelled : Spelled .schemaVersion (js "schemaVersion=1=2") (.string (js "1=2")) :=
    ⟨js "1=2", by decide, by decide⟩
  have read := decodeDisclosed_singleton.mpr ⟨.schemaVersion, _, rfl, spelled, rfl⟩
  obtain ⟨name, value, same, shown, encoded⟩ := inverse 0 (js "schemaVersion=1=2") _ read
  obtain rfl : ClaimName.schemaVersion = name := claimIndex_injective (Int.ofNat_inj.mp same)
  rw [Function.update_self] at shown
  obtain rfl := Option.some.inj shown
  exact absurd (spelled.encodeClaim_iff.mp encoded) (by decide)

end StellarOnramp.Identity
