import StellarOnramp.Gateway.PublishedDocuments

/-! How many octets a published document travels as. -/

namespace StellarOnramp.Gateway

open Attempts JsText Octets
open StellarOnramp.Identity

/-- Units that a JSON text holds as they are. -/
def isPlain (unit : UInt16) : Bool := 32 ≤ unit && unit < 128 && unit != 34 && unit != 92

theorem quoteUnits_plain {text : JsString} (plain : text.all isPlain = true)
    : Json.quoteUnits text = text := by
  have kept : ∀ unit, isPlain unit = true → Json.quoteUnit unit = [unit] := by
    intro unit plain
    have table : ∀ value : Fin 128,
        isPlain (UInt16.ofNat value) = true
        → Json.quoteUnit (UInt16.ofNat value) = [UInt16.ofNat value] := by
      decide +kernel
    have small : unit.toNat < 128 := by
      simp only [isPlain, Bool.and_eq_true, decide_eq_true_eq] at plain
      exact UInt16.lt_iff_toNat_lt.mp plain.1.1.2
    have found := table ⟨unit.toNat, small⟩
    rw [UInt16.ofNat_toNat] at found
    exact found plain
  induction text using Json.quoteUnits.induct with
  | case1 => rfl
  | case2 unit =>
      rw [List.all_cons, Bool.and_eq_true] at plain
      exact kept unit plain.1
  | case3 unit next rest pair ih =>
      rw [List.all_cons, List.all_cons, Bool.and_eq_true, Bool.and_eq_true] at plain
      rw [Json.quoteUnits, if_pos pair, ih plain.2.2]
  | case4 unit next rest single ih =>
      rw [List.all_cons, Bool.and_eq_true] at plain
      rw [Json.quoteUnits, if_neg single, ih plain.2, kept unit plain.1]
      rfl

/-- A plain string takes two octets more than its units. -/
theorem octetLength_quote_plain {text : JsString} (plain : text.all isPlain = true)
    : octetLength (Json.quote text) = text.length + 2 := by
  have ascii : text.all (fun unit => unit < 128) = true := by
    rw [List.all_eq_true] at plain ⊢
    intro unit member
    have here := plain unit member
    simp only [isPlain, Bool.and_eq_true] at here
    exact here.1.1.2
  have between :=
    Json.octetLength_between 34 34 (by decide) (by decide) text
  rw [octetLength_of_ascii ascii] at between
  rw [Json.quote, quoteUnits_plain plain]
  exact between.trans (Nat.add_comm 2 text.length)

theorem sextetChar_plain {sextet : Nat} (small : sextet < 64)
    : isPlain (sextetChar sextet) = true := by
  have table : ∀ sextet : Fin 64, isPlain (sextetChar sextet.val) = true := by decide +kernel
  exact table ⟨sextet, small⟩

/-- Encoded text is plain. -/
theorem base64urlEncode_plain (bytes : Bytes)
    : (base64urlEncode bytes).all isPlain = true := by
  rw [List.all_eq_true]
  apply forall_mem_base64urlEncode
  intro sextet small
  exact sextetChar_plain small

theorem isPlain_of_isDigit {text : JsString} (digits : text.all isDigit = true)
    : text.all isPlain = true := by
  rw [List.all_eq_true] at digits ⊢
  intro unit member
  have digit := digits unit member
  simp only [isDigit, isPlain, Bool.and_eq_true, decide_eq_true_eq, bne_iff_ne, ne_eq,
    UInt16.le_iff_toNat_le, UInt16.lt_iff_toNat_lt, ← UInt16.toNat_inj] at digit ⊢
  have low : 48 ≤ unit.toNat := digit.1
  have high : unit.toNat ≤ 57 := digit.2
  refine ⟨⟨⟨?_, ?_⟩, ?_⟩, ?_⟩
  · change 32 ≤ _
    omega
  · change _ < 128
    omega
  · change ¬ unit.toNat = 34
    omega
  · change ¬ unit.toNat = 92
    omega

/-- A date text of four year digits is twenty plain units. -/
theorem dateText_plain {unixSeconds : Number}
    (dated : (Calendar.fieldsAt unixSeconds.toNat).year ≤ 9999)
    : (dateText unixSeconds).all isPlain = true ∧ (dateText unixSeconds).length = 20 := by
  have digits (width value : Nat) : (paddedText width value).all isPlain = true :=
    isPlain_of_isDigit (paddedText_all width value)
  have marks : isPlain 45 = true ∧ isPlain 84 = true ∧ isPlain 58 = true ∧ isPlain 90 = true := by
    decide
  obtain ⟨dash, letter, colon, last⟩ := marks
  rw [dateText]
  generalize Calendar.fieldsAt unixSeconds.toNat = fields at dated
  rw [Calendar.isoText_take dated]
  constructor
  · simp only [List.all_append, List.all_cons, List.all_nil, digits, dash, letter, colon, last,
      Bool.and_true]
  · simp only [List.length_append, List.length_cons, List.length_nil, paddedText_length]

/-- The octets of base64url text. -/
def base64Octets (count : Nat) : Nat :=
  count / 3 * 4 + (if count % 3 = 0 then 0 else count % 3 + 1)

/-- The fixed part of a document: what is not yet there are its three dates, its signature and
the compressed list.
-/
def documentFrame (request : PublishStatusListRequest) (statusSize : Nat) : Json.Value :=
  (unsignedDocument request (wireList request.statusPurpose statusSize []) [] []).extend
    (js "proof")
    ((proofConfigOf request []).extend (js "proofValue") (.string []))

/-- The octets of a document: its fixed part, three dates of twenty digits and signs, the
signature in 87 units, and the list in multibase text.
-/
def documentOctets (request : PublishStatusListRequest) (statusSize compressed : Nat) : Nat :=
  Json.octets (documentFrame request statusSize) + 3 * 20 + 87 + (1 + base64Octets compressed)

theorem Published.octets_eq {libraries : StatusLibraries} {request : PublishStatusListRequest}
    {list : BitstringStatusList} {input signature : Bytes} {document : Json.Value}
    {entries statusSize : Nat} {bits : Bytes}
    (published : Published libraries request list input signature document)
    (encoded : Encoded libraries.platform request.encoding list entries statusSize bits)
    (signed : signature.length = 64)
    (fromDated : (Calendar.fieldsAt request.validFromSeconds.toNat).year ≤ 9999)
    (untilDated : (Calendar.fieldsAt request.validUntil.toNat).year ≤ 9999)
    : octetLength (Json.stringify document)
      = documentOctets request statusSize (libraries.platform.gzip bits).length := by
  have empty : octetLength (Json.quote []) = 2 := rfl
  have plainSize {text : JsString} (plain : text.all isPlain = true)
      : octetLength (Json.quote text) = octetLength (Json.quote []) + text.length :=
    (octetLength_quote_plain plain).trans (Nat.add_comm _ _)
  obtain ⟨fromPlain, fromLength⟩ := dateText_plain fromDated
  obtain ⟨untilPlain, untilLength⟩ := dateText_plain untilDated
  have fromSize := plainSize fromPlain
  have untilSize := plainSize untilPlain
  have listSize
      : octetLength (Json.quote (encodedBits libraries.platform bits))
        = octetLength (Json.quote [])
          + (1 + base64Octets (libraries.platform.gzip bits).length) := by
    have plain : (encodedBits libraries.platform bits).all isPlain = true := by
      rw [encodedBits, List.all_cons, base64urlEncode_plain]
      rfl
    rw [plainSize plain, encodedBits, List.length_cons, base64urlEncode_length, base64Octets,
      Nat.add_comm 1]
  have proofSize
      : octetLength (Json.quote (encodeProofValue signature))
        = octetLength (Json.quote []) + 87 := by
    have plain : (encodeProofValue signature).all isPlain = true := by
      rw [encodeProofValue, List.all_cons, base64urlEncode_plain]
      rfl
    have units : 64 / 3 * 4 + (if 64 % 3 = 0 then 0 else 64 % 3 + 1) + 1 = 87 := rfl
    rw [plainSize plain, encodeProofValue, List.length_cons, base64urlEncode_length, signed, units]
  rw [Json.octetLength_stringify, published.document, encoded.list, documentOctets]
  rw [fromLength] at fromSize
  rw [untilLength] at untilSize
  simp only [signedDocument, documentFrame, unsignedDocument, proofConfigOf, Json.Value.extend,
    credentialSubject, wireList_statusPurpose, wireList_encodedList, List.cons_append,
    List.nil_append, Json.octets, Json.memberOctets, Json.joinedOctets, fromSize, untilSize,
    listSize, proofSize, PublishStatusListRequest.encoding]
  unfold wireList
  split
  · simp only [optionalMember, List.append_nil, Json.memberOctets, Json.joinedOctets]
    ring
  · simp only [optionalMember, Json.memberOctets, Json.octets, Json.joinedOctets,
      List.cons_append, List.nil_append]
    ring

end StellarOnramp.Gateway
