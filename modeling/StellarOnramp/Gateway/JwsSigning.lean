import Mathlib.Algebra.Order.Ring.Cast
import Mathlib.Data.Nat.Log
import StellarOnramp.Gateway.Jws

/-! Signing a compact JWS, and which claims its own verifier reads back.
-/

namespace StellarOnramp.Gateway

open Attempts JsText Octets
open StellarOnramp.Identity

-----------------------------------------------------------------------------------------
-- Signatures in DER
-----------------------------------------------------------------------------------------

/-- One INTEGER of a DER signature, as 32 octets, and what is behind it. -/
def takeInteger : Bytes → Verdict (Bytes × Bytes)
  | 0x02 :: length :: rest => do
      let intLen := length.toNat
      failIf (0x80 ≤ intLen ∨ intLen = 0 ∨ 33 < intLen) .signatureLength
      failIf (rest.length < intLen) .signatureLength
      let mag := stripZeros (rest.take intLen)
      failIf (32 < mag.length) .signatureLength
      .ok (List.replicate (32 - mag.length) 0 ++ mag, rest.drop intLen)
  | _ => .error .signatureLength

/-- The two numbers of a DER signature, in 32 octets each. -/
def derToRaw (der : Bytes) : Verdict Bytes := do
  failIf (der.length < 8 ∨ 72 < der.length) .signatureLength
  match der with
  | tag :: seqLen :: members => do
      failIf (tag ≠ 0x30) .signatureLength
      failIf (0x80 ≤ seqLen.toNat) .signatureLength
      failIf (seqLen.toNat + 2 ≠ der.length) .signatureLength
      let (r, members) ← takeInteger members
      let (s, members) ← takeInteger members
      failIf (members ≠ []) .signatureLength
      .ok (r ++ s)
  | _ => .error .signatureLength

/-- The shortest octets of a number, but at least one. -/
def magnitude (number : Nat) : Bytes := beBytes (Nat.log 256 number + 1) number

/-- The contents of a DER INTEGER: a zero in front keeps a number positive. -/
def integerContents (number : Nat) : Bytes :=
  if 0x80 ≤ (magnitude number).headD 0 then 0 :: magnitude number else magnitude number

/-- A DER INTEGER. -/
def integerTlv (number : Nat) : Bytes :=
  [0x02, UInt8.ofNat (integerContents number).length] ++ integerContents number

/-- The DER `ECDSA-Sig-Value` of a signature. -/
def ecdsaSigValue (r s : Nat) : Bytes :=
  [0x30, UInt8.ofNat (integerTlv r ++ integerTlv s).length] ++ (integerTlv r ++ integerTlv s)

/-- A positive number of at most 32 octets. -/
def IsScalar (number : Nat) : Prop := 0 < number ∧ number < 256 ^ 32

theorem magnitude_length (number : Nat) : (magnitude number).length = Nat.log 256 number + 1 :=
  beBytes_length _ _

/-- The first octet of a positive number is not zero. -/
theorem magnitude_head {number : Nat} (positive : 0 < number)
    : ∃ first rest, magnitude number = first :: rest ∧ first ≠ 0 := by
  refine ⟨_, _, beBytes_succ _ _, ?_⟩
  have low : 256 ^ Nat.log 256 number ≤ number := Nat.pow_log_le_self 256 positive.ne'
  have high : number < 256 ^ (Nat.log 256 number + 1) := Nat.lt_pow_succ_log_self (by decide) number
  have least : 0 < number / 256 ^ Nat.log 256 number := Nat.div_pos low (Nat.pow_pos (by decide))
  have most : number / 256 ^ Nat.log 256 number < 256 := by
    apply Nat.div_lt_of_lt_mul
    rwa [← pow_succ]
  intro zero
  have octet := congrArg UInt8.toNat zero
  rw [UInt8.toNat_ofNat', Nat.mod_eq_of_lt most] at octet
  exact absurd octet least.ne'

theorem stripZeros_of_ne {first : UInt8} {rest : Bytes} (nonzero : first ≠ 0)
    : stripZeros (first :: rest) = first :: rest := by
  unfold stripZeros
  split
  case h_1 same =>
    cases same
    exact absurd rfl nonzero
  case h_2 => rfl

/-- Zeros in front of a magnitude are dropped again, by induction on their number. -/
theorem stripZeros_magnitude {number : Nat} (positive : 0 < number) (zeros : Nat)
    : stripZeros (List.replicate zeros 0 ++ magnitude number) = magnitude number := by
  obtain ⟨first, rest, shape, nonzero⟩ := magnitude_head positive
  rw [shape]
  induction zeros with
  | zero => exact stripZeros_of_ne nonzero
  | succ zeros ih =>
      cases zeros with
      | zero =>
          rw [List.replicate_succ, List.cons_append, List.replicate_zero, List.nil_append,
            stripZeros]
          exact stripZeros_of_ne nonzero
      | succ zeros =>
          rw [List.replicate_succ, List.cons_append] at ih ⊢
          rw [List.replicate_succ, List.cons_append, stripZeros]
          exact ih

theorem magnitude_length_le {number : Nat} (scalar : IsScalar number)
    : (magnitude number).length ≤ 32 := by
  rw [magnitude_length]
  exact Nat.log_lt_of_lt_pow scalar.1.ne' scalar.2

/-- 32 octets of a scalar are its magnitude behind zeros. -/
theorem beBytes_scalar {number : Nat} (scalar : IsScalar number)
    : List.replicate (32 - (magnitude number).length) 0 ++ magnitude number
      = beBytes 32 number := by
  have short := magnitude_length_le scalar
  have padded (zeros : Nat)
      : List.replicate zeros 0 ++ magnitude number
        = beBytes (zeros + (Nat.log 256 number + 1)) number := by
    induction zeros with
    | zero => rw [Nat.zero_add]; rfl
    | succ zeros ih =>
        have high : number < 256 ^ (zeros + (Nat.log 256 number + 1)) := by
          apply (Nat.lt_pow_succ_log_self (by decide : 1 < 256) number).trans_le
          exact Nat.pow_le_pow_right (by decide) (Nat.le_add_left _ _)
        rw [List.replicate_succ, List.cons_append, ih, Nat.succ_add, beBytes_succ,
          Nat.div_eq_of_lt high]
        rfl
  rw [padded, magnitude_length]
  rw [magnitude_length] at short
  congr 1
  omega

/-- The contents of an INTEGER are a magnitude behind at most one zero. -/
theorem integerContents_eq (number : Nat)
    : ∃ zeros ≤ 1, integerContents number = List.replicate zeros 0 ++ magnitude number := by
  unfold integerContents
  split
  case isTrue => exact ⟨1, le_rfl, rfl⟩
  case isFalse => exact ⟨0, Nat.zero_le 1, rfl⟩

theorem integerContents_length {number : Nat} (scalar : IsScalar number)
    : 1 ≤ (integerContents number).length ∧ (integerContents number).length ≤ 33 := by
  obtain ⟨zeros, few, shape⟩ := integerContents_eq number
  have short := magnitude_length_le scalar
  have filled := magnitude_length number
  rw [shape, List.length_append, List.length_replicate]
  omega

/-- An INTEGER is read as 32 octets. -/
theorem takeInteger_integerTlv {number : Nat} (scalar : IsScalar number) (rest : Bytes)
    : takeInteger (integerTlv number ++ rest) = .ok (beBytes 32 number, rest) := by
  obtain ⟨least, most⟩ := integerContents_length scalar
  obtain ⟨zeros, few, shape⟩ := integerContents_eq number
  have octet
      : (UInt8.ofNat (integerContents number).length).toNat = (integerContents number).length := by
    rw [UInt8.toNat_ofNat']
    omega
  have stripped : stripZeros (integerContents number) = magnitude number := by
    rw [shape, stripZeros_magnitude scalar.1]
  have written
      : integerTlv number ++ rest
        = 0x02 :: UInt8.ofNat (integerContents number).length
          :: (integerContents number ++ rest) := by
    simp [integerTlv]
  rw [written, takeInteger, octet]
  refine failIf_bind_eq_ok.mpr ⟨by omega, failIf_bind_eq_ok.mpr ⟨?_, ?_⟩⟩
  · rw [List.length_append]
    omega
  · rw [List.take_left, List.drop_left, stripped]
    refine failIf_bind_eq_ok.mpr ⟨not_lt.mpr (magnitude_length_le scalar), ?_⟩
    rw [beBytes_scalar scalar]

/-- The halves of a signature are read from its DER form. -/
theorem derToRaw_ecdsaSigValue {r s : Nat} (scalar_r : IsScalar r) (scalar_s : IsScalar s)
    : derToRaw (ecdsaSigValue r s) = .ok (beBytes 32 r ++ beBytes 32 s) := by
  have length_r := integerContents_length scalar_r
  have length_s := integerContents_length scalar_s
  have length
      : (integerTlv r ++ integerTlv s).length
        = (integerContents r).length + (integerContents s).length + 4 := by
    simp only [integerTlv, List.length_append, List.length_cons, List.length_nil]
    omega
  have octet
      : (UInt8.ofNat (integerTlv r ++ integerTlv s).length).toNat
        = (integerTlv r ++ integerTlv s).length := by
    rw [UInt8.toNat_ofNat']
    omega
  have second : takeInteger (integerTlv s) = .ok (beBytes 32 s, []) := by
    have read := takeInteger_integerTlv scalar_s []
    rwa [List.append_nil] at read
  have whole : (ecdsaSigValue r s).length = (integerTlv r ++ integerTlv s).length + 2 := by
    simp only [ecdsaSigValue, List.length_append, List.length_cons, List.length_nil]
    omega
  unfold derToRaw
  refine failIf_bind_eq_ok.mpr ⟨by omega, ?_⟩
  dsimp only [ecdsaSigValue, List.cons_append, List.nil_append]
  refine failIf_bind_eq_ok.mpr ⟨not_not.mpr rfl, failIf_bind_eq_ok.mpr ⟨?_, ?_⟩⟩
  · rw [octet]
    omega
  · refine failIf_bind_eq_ok.mpr ⟨?_, ?_⟩
    · rw [octet]
      exact not_not.mpr rfl
    · refine bind_eq_ok.mpr ⟨_, takeInteger_integerTlv scalar_r _, ?_⟩
      refine bind_eq_ok.mpr ⟨_, second, ?_⟩
      exact failIf_bind_eq_ok.mpr ⟨not_not.mpr rfl, rfl⟩

theorem derInteger_scalar {number : Nat} (scalar : IsScalar number)
    : derInteger (beBytes 32 number) = .ok (integerTlv number) := by
  have stripped : stripZeros (beBytes 32 number) = magnitude number := by
    rw [← beBytes_scalar scalar, stripZeros_magnitude scalar.1]
  have nonzero : ¬ magnitude number = [0] := by
    obtain ⟨first, rest, shape, nonzero⟩ := magnitude_head scalar.1
    rw [shape]
    intro same
    exact nonzero (List.cons.inj same).1
  rw [derInteger, stripped]
  exact failIf_bind_eq_ok.mpr ⟨nonzero, rfl⟩

/-- The verifier translates the halves back to the DER form that the runtime signed. -/
theorem rawToDer_scalars {r s : Nat} (scalar_r : IsScalar r) (scalar_s : IsScalar s)
    : rawToDer (beBytes 32 r ++ beBytes 32 s) = .ok (ecdsaSigValue r s) := by
  have first : (beBytes 32 r ++ beBytes 32 s).take 32 = beBytes 32 r :=
    List.take_left' (beBytes_length 32 r)
  have second : (beBytes 32 r ++ beBytes 32 s).drop 32 = beBytes 32 s :=
    List.drop_left' (beBytes_length 32 r)
  rw [rawToDer, first, second]
  refine bind_eq_ok.mpr ⟨_, derInteger_scalar scalar_r, ?_⟩
  exact bind_eq_ok.mpr ⟨_, derInteger_scalar scalar_s, rfl⟩

-----------------------------------------------------------------------------------------
-- Signing
-----------------------------------------------------------------------------------------

/-- The own properties of a claims object in their order; `none` is `undefined`. -/
abbrev JwsClaimsInput := List (JsString × Option Json.Value)

/-- Reading a property. -/
def JwsClaimsInput.read (claims : JwsClaimsInput) (key : JsString) : Option Json.Value :=
  (claims.lookup key).join

/-- The names that every object inherits. -/
def objectPrototypeNames : List JsString :=
  [
    js "constructor",
    js "__defineGetter__",
    js "__defineSetter__",
    js "hasOwnProperty",
    js "__lookupGetter__",
    js "__lookupSetter__",
    js "isPrototypeOf",
    js "propertyIsEnumerable",
    js "toString",
    js "valueOf",
    js "__proto__",
    js "toLocaleString"
  ]

/-- The claims that are signed, in their order. -/
def registeredClaims : List JsString :=
  [js "iss", js "sub", js "aud", js "iat", js "nbf", js "exp", js "jti"]

/-- The object whose text is signed: the registered claims in their order. -/
def JwsClaimsInput.ordered (claims : JwsClaimsInput) : List (JsString × Json.Value) :=
  registeredClaims.filterMap (fun key => (claims.read key).map (fun value => (key, value)))

/-- Presence and types of the claims that every token has. -/
def checkRequiredClaims (claims : JwsClaimsInput) : Verdict (Number × Number) := do
  let _ ← stringClaim (claims.read (js "iss"))
  let _ ← stringClaim (claims.read (js "sub"))
  let _ ← stringClaim (claims.read (js "aud"))
  let _ ← timeClaim (claims.read (js "iat"))
  let nbf ← timeClaim (claims.read (js "nbf"))
  let exp ← timeClaim (claims.read (js "exp"))
  .ok (nbf, exp)

/-- `key in ordered`: an own property or an inherited one. -/
def isInOrdered (claims : JwsClaimsInput) (key : JsString) : Bool :=
  (claims.ordered.lookup key).isSome || objectPrototypeNames.contains key

/-- The text of the claims; a name that the signed object does not know is refused. -/
def serializeClaims (claims : JwsClaimsInput) : Verdict JsString := do
  let (nbf, exp) ← checkRequiredClaims claims
  failIf (exp ≤ nbf) .invalidWindow
  failIf (claims.any (fun property => !isInOrdered claims property.1 && property.1 != js "jti"))
    .unknownClaim
  .ok (Json.stringify (.object claims.ordered))

/-- The signing of the runtime; `none` where it throws. -/
structure SigningLibrary where
  /-- ECDSA over SHA-256, in DER. -/
  signEs256 : (material message : Bytes) → Option Bytes
  signEddsa : (material message : Bytes) → Option Bytes

/-- A runtime call that throws. -/
def signed (signature : Option Bytes) : Verdict Bytes :=
  match signature with
  | none => .error .library
  | some octets => .ok octets

/-- Mint a token. -/
def signJws (signer : SigningLibrary) (privateKey : KeyObject) (claims : JwsClaimsInput)
    : Verdict JsString := do
  let alg ← keyAlgorithm privateKey
  let claimsJson ← serializeClaims claims
  let signingInput := frozenHeaderB64 alg ++ js "." ++ base64urlEncode (utf8ToBytes claimsJson)
  match alg with
  | .eddsa => do
      let sig ← signed (signer.signEddsa privateKey.material (bufferFromAscii signingInput))
      failIf (sig.length ≠ 64) .signatureLength
      .ok (signingInput ++ js "." ++ base64urlEncode sig)
  | .es256 => do
      let der ← signed (signer.signEs256 privateKey.material (bufferFromAscii signingInput))
      let raw ← derToRaw der
      .ok (signingInput ++ js "." ++ base64urlEncode raw)

/-- A private key, its public key, and primitives that do for them what they document. -/
structure KeyPair (signer : SigningLibrary) (signatures : TokenSignatures)
    (privateKey publicKey : KeyObject)
    : Prop where
  same : keyAlgorithm publicKey = keyAlgorithm privateKey
  es256
    : keyAlgorithm privateKey = .ok .es256 →
      ∀ message, ∃ r s,
        IsScalar r
        ∧ IsScalar s
        ∧ signer.signEs256 privateKey.material message = some (ecdsaSigValue r s)
        ∧ signatures.verifyEs256 publicKey.material message (ecdsaSigValue r s) = some true
  eddsa
    : keyAlgorithm privateKey = .ok .eddsa →
      ∀ message, ∃ signature,
        signature.length = 64
        ∧ signer.signEddsa privateKey.material message = some signature
        ∧ signatures.verifyEddsa publicKey.material message signature = some true

-----------------------------------------------------------------------------------------
-- Base64url
-----------------------------------------------------------------------------------------

theorem sextetOf_sextetChar {sextet : Nat} (small : sextet < 64)
    : sextetOf (sextetChar sextet) = sextet := by
  rw [sextetOf, b64urlReverse_sextetChar small]
  rfl

/-- An octet from the low end of a number. -/
theorem ofNat_eq_of_mod {octet : UInt8} {value : Nat} (same : value % 256 = octet.toNat)
    : UInt8.ofNat value = octet := by
  apply UInt8.toNat_inj.mp
  rw [UInt8.toNat_ofNat', ← same]

/-- The lenient decoder reads what the encoder wrote, by induction on the groups of three. -/
theorem bufferFromBase64url_encode (bytes : Bytes)
    : bufferFromBase64url (base64urlEncode bytes) = bytes := by
  induction bytes using base64urlEncode.induct with
  | case1 a b c rest ih =>
      have aSmall := a.toNat_lt
      have bSmall := b.toNat_lt
      have cSmall := c.toNat_lt
      rw [base64urlEncode_three, bufferFromBase64url, ih, sextetOf_sextetChar (by omega),
        sextetOf_sextetChar (by omega), sextetOf_sextetChar (by omega),
        sextetOf_sextetChar (by omega)]
      simp only [beBytes, List.nil_append, List.cons_append, List.cons.injEq, and_true]
      exact ⟨ofNat_eq_of_mod (by omega), ofNat_eq_of_mod (by omega),
        ofNat_eq_of_mod (by omega)⟩
  | case2 a b =>
      have aSmall := a.toNat_lt
      have bSmall := b.toNat_lt
      rw [base64urlEncode_two, bufferFromBase64url, sextetOf_sextetChar (by omega),
        sextetOf_sextetChar (by omega), sextetOf_sextetChar (by omega)]
      simp only [beBytes, List.nil_append, List.cons_append, List.cons.injEq, and_true]
      exact ⟨ofNat_eq_of_mod (by omega), ofNat_eq_of_mod (by omega)⟩
  | case3 a =>
      have small := a.toNat_lt
      rw [base64urlEncode_one, bufferFromBase64url, sextetOf_sextetChar (by omega),
        sextetOf_sextetChar (by omega)]
      simp only [beBytes, List.nil_append, List.cons.injEq, and_true]
      exact ofNat_eq_of_mod (by omega)
  | case4 => rfl

/-- What the signer encodes, the strict decoder reads. -/
theorem b64urlDecodeStrict_encode {bytes : Bytes} (filled : bytes ≠ [])
    : b64urlDecodeStrict (base64urlEncode bytes) = .ok bytes := by
  refine b64urlDecodeStrict_eq_ok.mpr
    ⟨?_, base64urlEncode_known bytes, bufferFromBase64url_encode bytes⟩
  intro empty
  apply filled
  rw [← bufferFromBase64url_encode bytes, empty]
  rfl

-----------------------------------------------------------------------------------------
-- The signed text
-----------------------------------------------------------------------------------------

/-- Picking properties by name keeps their values, by induction on the names. -/
theorem lookup_filterMap_read (read : JsString → Option Json.Value) (names : List JsString)
    (key : JsString)
    : (names.filterMap (fun key => (read key).map (fun value => (key, value)))).lookup key
      = if key ∈ names then read key else none := by
  induction names with
  | nil => rfl
  | cons name rest ih =>
      rw [List.filterMap_cons]
      cases found : read name with
      | none =>
          rw [Option.map_none]
          dsimp only
          rw [ih]
          by_cases same : key = name
          · subst same
            simp [found]
          · simp [same]
      | some value =>
          rw [Option.map_some]
          dsimp only
          rw [List.lookup_cons]
          by_cases same : key = name
          · subst same
            simp [found]
          · simp [same, beq_false_of_ne same, ih]

/-- The signed object has the registered claims and no others. -/
theorem lookup_ordered (claims : JwsClaimsInput) (key : JsString)
    : claims.ordered.lookup key = if key ∈ registeredClaims then claims.read key else none :=
  lookup_filterMap_read _ _ _

/-- A registered claim of the signed object. -/
theorem get_ordered {claims : JwsClaimsInput} {key : JsString} (registered : key ∈ registeredClaims)
    : (Json.Value.object claims.ordered).get key = claims.read key :=
  (lookup_ordered claims key).trans (if_pos registered)

/-- Claims that the signer lets through: all that the strict policy requires, and a window. -/
structure Serialized (claims : JwsClaimsInput) (text : JsString) (registered : VerifiedJws)
    : Prop where
  carries : Carries (.object claims.ordered) .strict registered
  unread : registered.jti = none
  window : ∀ nbf, registered.nbf = some nbf → nbf < registered.exp
  text : text = Json.stringify (.object claims.ordered)

/-- Witness: invert the checks in source order. -/
theorem serializeClaims_eq_ok {claims : JwsClaimsInput} {text : JsString}
    (serialized : serializeClaims claims = .ok text)
    : ∃ registered, Serialized claims text registered := by
  obtain ⟨⟨nbf, exp⟩, required, serialized⟩ := bind_eq_ok.mp serialized
  obtain ⟨window, serialized⟩ := failIf_bind_eq_ok.mp serialized
  obtain ⟨-, same⟩ := failIf_bind_eq_ok.mp serialized
  obtain ⟨iss, read_iss, required⟩ := bind_eq_ok.mp required
  obtain ⟨sub, read_sub, required⟩ := bind_eq_ok.mp required
  obtain ⟨aud, read_aud, required⟩ := bind_eq_ok.mp required
  obtain ⟨iat, read_iat, required⟩ := bind_eq_ok.mp required
  obtain ⟨_, read_nbf, required⟩ := bind_eq_ok.mp required
  obtain ⟨_, read_exp, required⟩ := bind_eq_ok.mp required
  cases required
  have known {key : JsString} (registered : key ∈ registeredClaims)
      : claims.read key = (Json.Value.object claims.ordered).get key :=
    (get_ordered registered).symm
  rw [known (by decide)] at read_iss read_sub read_aud read_iat read_nbf read_exp
  obtain ⟨found_aud, filled_aud⟩ := stringClaim_eq_ok.mp read_aud
  obtain ⟨found_nbf, safe_nbf⟩ := timeClaim_eq_ok.mp read_nbf
  refine ⟨{ iss, sub, aud := some aud, iat, nbf := some nbf, exp, jti := none }, ?_⟩
  exact {
    carries := {
      iss := stringClaim_eq_ok.mp read_iss
      sub := stringClaim_eq_ok.mp read_sub
      aud := ⟨found_aud, fun empty => filled_aud (Option.some.inj empty)⟩
      iat := timeClaim_eq_ok.mp read_iat
      nbf := ⟨found_nbf, fun _ same => Option.some.inj same ▸ safe_nbf⟩
      exp := timeClaim_eq_ok.mp read_exp
      required := fun _ => ⟨rfl, rfl⟩
    }
    unread := rfl
    window := fun _ same => Option.some.inj same ▸ not_le.mp window
    text := (Except.ok.inj same).symm
  }

theorem signed_eq_ok {signature : Option Bytes} {octets : Bytes}
    : signed signature = .ok octets ↔ signature = some octets := by
  cases signature <;> simp [signed]

/-- A minted token opens under the public key, where the parser reads its payload back. -/
theorem openToken_signJws {signer : SigningLibrary} {signatures : TokenSignatures}
    {privateKey publicKey : KeyObject} {claims : JwsClaimsInput} {token : JsString}
    {parseJson : Bytes → Option Json.Value} (keys : KeyPair signer signatures privateKey publicKey)
    (minted : signJws signer privateKey claims = .ok token)
    (parses
      : parseJson (utf8ToBytes (Json.stringify (.object claims.ordered)))
        = some (.object claims.ordered))
    : SignedPayload signatures parseJson token publicKey (.object claims.ordered) := by
  obtain ⟨alg, keyed, minted⟩ := bind_eq_ok.mp minted
  obtain ⟨text, serialized, minted⟩ := bind_eq_ok.mp minted
  obtain ⟨_, printed⟩ := serializeClaims_eq_ok serialized
  have text_eq := printed.text
  have filled : utf8ToBytes text ≠ [] := by
    intro empty
    rw [text_eq, Json.stringify, List.append_assoc] at empty
    have brace : js "\x7b" = [123] := by decide
    rw [brace, List.singleton_append, utf8ToBytes_ascii_cons (by decide)] at empty
    cases empty
  have payload := b64urlDecodeStrict_encode filled
  have ascii := signedText_ascii alg (base64urlEncode_known (utf8ToBytes text))
  refine { signed := ?_, object := ⟨_, rfl⟩ }
  cases alg with
  | eddsa =>
      obtain ⟨signature, signed_by, minted⟩ := bind_eq_ok.mp minted
      obtain ⟨length, same⟩ := failIf_bind_eq_ok.mp minted
      cases same
      obtain ⟨expected, expected_length, signs, verifies⟩ := keys.eddsa keyed _
      obtain rfl := Option.some.inj (signs.symm.trans (signed_eq_ok.mp signed_by))
      have nonempty : expected ≠ [] := by
        intro empty
        rw [empty] at expected_length
        cases expected_length
      refine ⟨.eddsa, _, _, expected, _, keys.same.trans keyed, rfl, ascii,
        b64urlDecodeStrict_encode nonempty, expected_length, verifies, payload, ?_⟩
      rw [text_eq]
      exact parses
  | es256 =>
      obtain ⟨der, signed_by, minted⟩ := bind_eq_ok.mp minted
      obtain ⟨raw, translated, same⟩ := bind_eq_ok.mp minted
      cases same
      obtain ⟨r, s, scalar_r, scalar_s, signs, verifies⟩ := keys.es256 keyed _
      obtain rfl := Option.some.inj (signs.symm.trans (signed_eq_ok.mp signed_by))
      obtain rfl := Except.ok.inj ((derToRaw_ecdsaSigValue scalar_r scalar_s).symm.trans translated)
      have length : (beBytes 32 r ++ beBytes 32 s).length = 64 := by
        rw [List.length_append, beBytes_length, beBytes_length]
      have nonempty : beBytes 32 r ++ beBytes 32 s ≠ [] := by
        intro empty
        rw [empty] at length
        cases length
      refine ⟨.es256, _, _, _, _, keys.same.trans keyed, rfl, ascii,
        b64urlDecodeStrict_encode nonempty, length,
        ⟨_, rawToDer_scalars scalar_r scalar_s, verifies⟩, payload, ?_⟩
      rw [text_eq]
      exact parses

-----------------------------------------------------------------------------------------
-- Reading back
-----------------------------------------------------------------------------------------

/-- The object that a verification returns, by its properties. -/
def VerifiedJws.read (claims : VerifiedJws) (key : JsString) : Option Json.Value :=
  if key = js "iss" then some (.string claims.iss)
  else if key = js "sub" then some (.string claims.sub)
  else if key = js "aud" then claims.aud.map Json.Value.string
  else if key = js "iat" then some (.number claims.iat)
  else if key = js "nbf" then claims.nbf.map Json.Value.number
  else if key = js "exp" then some (.number claims.exp)
  else if key = js "jti" then claims.jti.map Json.Value.string
  else none

/-- A verification for the issuer and the audience of the claims, inside their window, without a
replay store or with a fresh one and a `jti`.
-/
structure MatchingCall (publicKey : KeyObject) (claims : JwsClaimsInput)
    (options : VerifyJwsOptions) (store : FirstSight → Option Bool)
    : Prop where
  keyed : options.publicKey = publicKey
  issuer : claims.read (js "iss") = some (.string options.issuer)
  audience : claims.read (js "aud") = some (.string options.audience)
  begun : ∀ nbf, claims.read (js "nbf") = some (.number nbf) → nbf ≤ options.nowSeconds
  unexpired : ∀ exp, claims.read (js "exp") = some (.number exp) → options.nowSeconds < exp
  fresh
    : ∀ provider,
        options.replay = some provider →
        (claims.read (js "jti")).isSome ∧ ∀ call, store call = some true

/-- Every matching verification resolves and returns exactly the claims. -/
def RoundTrips (signatures : TokenSignatures) (parseJson : Bytes → Option Json.Value)
    (publicKey : KeyObject) (claims : JwsClaimsInput) (token : JsString)
    : Prop :=
  ∀ options store,
    MatchingCall publicKey claims options store →
    ∃ verified,
      (verifyJws signatures parseJson store token options).result = .ok verified
      ∧ ∀ key, verified.read key = claims.read key

/-- A `jti` is a non-empty string where it is given, and no other claim is given. -/
structure Verifiable (claims : JwsClaimsInput) : Prop where
  jti : ∀ value, claims.read (js "jti") = some value → ∃ text, value = .string text ∧ text ≠ []
  registered : ∀ key, (claims.read key).isSome → key ∈ registeredClaims

/-- What the strict policy accepts, every policy accepts. -/
theorem Carries.weaken {bag : Json.Value} {registered : VerifiedJws}
    (carries : Carries bag .strict registered) (claimPolicy : ClaimPolicy)
    : Carries bag claimPolicy registered :=
  { carries with required := fun _ => carries.required rfl }

section

variable {claims : JwsClaimsInput} {registered : VerifiedJws}

/-- A matching call is made for the registered claims. -/
theorem MatchingCall.addressed {publicKey : KeyObject} {options : VerifyJwsOptions}
    {store : FirstSight → Option Bool} (matching : MatchingCall publicKey claims options store)
    (carries : Carries (.object claims.ordered) .strict registered)
    : Addressed options registered := by
  have known {key : JsString} (registered : key ∈ registeredClaims)
      : (Json.Value.object claims.ordered).get key = claims.read key :=
    get_ordered registered
  obtain ⟨iss, sub, aud, iat, nbf, exp⟩ := carries
  rw [known (by decide)] at iss aud nbf exp
  exact {
    issuer := Json.Value.string.inj (Option.some.inj (iss.1.symm.trans matching.issuer))
    audience := by
      intro text present
      rw [present] at aud
      exact Json.Value.string.inj (Option.some.inj (aud.1.symm.trans matching.audience))
    begun := by
      intro seconds present
      rw [present] at nbf
      exact matching.begun seconds nbf.1
    unexpired := matching.unexpired _ exp.1
  }

/-- The returned object has the properties of the claims, one registered name at a time. -/
theorem Verifiable.read_eq (verifiable : Verifiable claims)
    (carries : Carries (.object claims.ordered) .strict registered) {found : Option JsString}
    (jti : claims.read (js "jti") = found.map Json.Value.string) (key : JsString)
    : VerifiedJws.read { registered with jti := found } key = claims.read key := by
  have known {key : JsString} (registered : key ∈ registeredClaims)
      : (Json.Value.object claims.ordered).get key = claims.read key :=
    get_ordered registered
  obtain ⟨iss, sub, aud, iat, nbf, exp⟩ := carries
  rw [known (by decide)] at iss sub aud iat nbf exp
  by_cases member : key ∈ registeredClaims
  · simp only [registeredClaims, List.mem_cons, List.not_mem_nil, or_false] at member
    rcases member with rfl | rfl | rfl | rfl | rfl | rfl | rfl
    · exact iss.1.symm
    · exact sub.1.symm
    · exact aud.1.symm
    · exact iat.1.symm
    · exact nbf.1.symm
    · exact exp.1.symm
    · exact jti.symm
  · have unknown : claims.read key = none := by
      by_contra given
      exact member (verifiable.registered key (Option.isSome_iff_ne_none.mpr given))
    simp only [registeredClaims, List.mem_cons, List.not_mem_nil, or_false, not_or] at member
    obtain ⟨iss, sub, aud, iat, nbf, exp, jti⟩ := member
    rw [unknown]
    simp only [VerifiedJws.read, iss, sub, aud, iat, nbf, exp, jti, if_false]

end

section

variable {signer : SigningLibrary} {signatures : TokenSignatures}
  {parseJson : Bytes → Option Json.Value} {privateKey publicKey : KeyObject}
  {claims : JwsClaimsInput} {token : JsString}

/-- Verifiable claims make the round trip. -/
theorem Verifiable.roundTrips (verifiable : Verifiable claims)
    (keys : KeyPair signer signatures privateKey publicKey)
    (parses
      : parseJson (utf8ToBytes (Json.stringify (.object claims.ordered)))
        = some (.object claims.ordered))
    (minted : signJws signer privateKey claims = .ok token)
    : RoundTrips signatures parseJson publicKey claims token := by
  intro options store matching
  have opened := openToken_signJws keys minted parses
  obtain ⟨alg, -, rest⟩ := bind_eq_ok.mp minted
  obtain ⟨text, serialized, -⟩ := bind_eq_ok.mp rest
  obtain ⟨registered, printed⟩ := serializeClaims_eq_ok serialized
  obtain ⟨found, jti, usable⟩
      : ∃ found : Option JsString,
          claims.read (js "jti") = found.map Json.Value.string ∧ found ≠ some [] := by
    cases given : claims.read (js "jti") with
    | none => exact ⟨none, rfl, nofun⟩
    | some value =>
        obtain ⟨text, rfl, filled⟩ := verifiable.jti value given
        exact ⟨some text, rfl, fun empty => filled (Option.some.inj empty)⟩
  have fresh
      : ∀ provider,
          options.replay = some provider
          → found.isSome ∧ ∀ call, store call = some true := by
    intro provider configured
    obtain ⟨present, first⟩ := matching.fresh provider configured
    rw [jti, Option.isSome_map] at present
    exact ⟨present, first⟩
  rw [← matching.keyed] at opened
  refine ⟨{ registered with jti := found }, ?_, verifiable.read_eq printed.carries jti⟩
  rw [verifyJws_of_payload opened (printed.carries.weaken _) (matching.addressed printed.carries)
    printed.unread, get_ordered (by decide), jti]
  exact checkReplay_passes usable fresh

/-- A verification returns registered claims only, and a `jti` only where it is a non-empty
string. Witness: one matching call without a store, at the start of the window.
-/
theorem RoundTrips.verifiable (minted : signJws signer privateKey claims = .ok token)
    (trips : RoundTrips signatures parseJson publicKey claims token)
    : Verifiable claims := by
  obtain ⟨alg, -, rest⟩ := bind_eq_ok.mp minted
  obtain ⟨text, serialized, -⟩ := bind_eq_ok.mp rest
  obtain ⟨registered, printed⟩ := serializeClaims_eq_ok serialized
  have known {key : JsString} (registered : key ∈ registeredClaims)
      : (Json.Value.object claims.ordered).get key = claims.read key :=
    get_ordered registered
  obtain ⟨has_aud, has_nbf⟩ := printed.carries.required rfl
  obtain ⟨aud, aud_eq⟩ := Option.isSome_iff_exists.mp has_aud
  obtain ⟨start, nbf_eq⟩ := Option.isSome_iff_exists.mp has_nbf
  have window := printed.window start nbf_eq
  obtain ⟨iss, -, audience, -, nbf, exp⟩ := printed.carries
  rw [known (by decide)] at iss audience nbf exp
  rw [aud_eq] at audience
  rw [nbf_eq] at nbf
  let options : VerifyJwsOptions :=
    { publicKey, nowSeconds := start, issuer := registered.iss, audience := aud }
  have matching : MatchingCall publicKey claims options (fun _ => none) := {
    keyed := rfl
    issuer := iss.1
    audience := audience.1
    begun := by
      intro seconds given
      have same := Json.Value.number.inj (Option.some.inj (nbf.1.symm.trans given))
      exact (Int.cast_inj.mpr same.symm).le
    unexpired := by
      intro seconds given
      have same := Json.Value.number.inj (Option.some.inj (exp.1.symm.trans given))
      rw [← same]
      exact Int.cast_lt.mpr window
    fresh := nofun
  }
  obtain ⟨verified, resolved, returned⟩ := trips options _ matching
  obtain ⟨bag, -, -, -, usable⟩ := (verifyJws_eq_ok resolved).payload
  constructor
  · intro value given
    have same : verified.jti.map Json.Value.string = some value := (returned (js "jti")).trans given
    obtain ⟨text, found, rfl⟩ := Option.map_eq_some_iff.mp same
    exact ⟨text, rfl, fun empty => usable (found.trans (congrArg some empty))⟩
  · intro key given
    by_contra unknown
    simp only [registeredClaims, List.mem_cons, List.not_mem_nil, or_false, not_or] at unknown
    obtain ⟨iss, sub, aud, iat, nbf, exp, jti⟩ := unknown
    rw [← returned key, VerifiedJws.read, if_neg iss, if_neg sub, if_neg aud, if_neg iat,
      if_neg nbf, if_neg exp, if_neg jti] at given
    cases given

/-- A minted token makes the round trip exactly if its claims are verifiable. -/
theorem signJws_roundTrips_iff (keys : KeyPair signer signatures privateKey publicKey)
    (parses
      : parseJson (utf8ToBytes (Json.stringify (.object claims.ordered)))
        = some (.object claims.ordered))
    (minted : signJws signer privateKey claims = .ok token)
    : RoundTrips signatures parseJson publicKey claims token ↔ Verifiable claims :=
  ⟨fun trips => trips.verifiable minted,
    fun verifiable => verifiable.roundTrips keys parses minted⟩

end

-----------------------------------------------------------------------------------------
-- Claims that are minted and not verified
-----------------------------------------------------------------------------------------

/-- A signature that repeats the end of what it signs. -/
def sampleSigner : SigningLibrary where
  signEs256 _ _ := none
  signEddsa _ message := some (beBytes 64 (beNat message))

def sampleTokenSignatures : TokenSignatures where
  verifyEs256 _ _ _ := some false
  verifyEddsa _ message signature := some (signature == beBytes 64 (beNat message))

def sampleKeyObject (type : KeyType) : KeyObject :=
  { type, asymmetricKeyType := .ed25519, crv := js "Ed25519", material := [] }

theorem sampleKeyPair
    : KeyPair sampleSigner sampleTokenSignatures (sampleKeyObject .privateKey)
        (sampleKeyObject .publicKey) where
  same := rfl
  es256 := by
    intro keyed
    cases keyed
  eddsa _ message :=
    ⟨_, beBytes_length 64 _, rfl, congrArg some (beq_self_eq_true (beBytes 64 (beNat message)))⟩

/-- The claims of a session, and more of them. -/
def sampleSessionClaims (more : JwsClaimsInput) : JwsClaimsInput :=
  [
    (js "iss", some (.string (js "gateway"))),
    (js "sub", some (.string (js "C1"))),
    (js "aud", some (.string (js "session"))),
    (js "iat", some (.number 1750000000)),
    (js "nbf", some (.number 1750000000)),
    (js "exp", some (.number 1750000900))
  ]
    ++ more

/-- A parser of the text of some claims. -/
def parsesClaims (claims : JwsClaimsInput) (bytes : Bytes) : Option Json.Value :=
  if bytes = utf8ToBytes (Json.stringify (.object claims.ordered)) then
    some (.object claims.ordered)
  else
    none

theorem parsesClaims_ordered (claims : JwsClaimsInput)
    : parsesClaims claims (utf8ToBytes (Json.stringify (.object claims.ordered)))
      = some (.object claims.ordered) :=
  if_pos rfl

/-- Running the sample signer finds the token. -/
theorem exists_token_of_isSome (claims : JwsClaimsInput)
    (mints : (signJws sampleSigner (sampleKeyObject .privateKey) claims).toOption.isSome = true)
    : ∃ token, signJws sampleSigner (sampleKeyObject .privateKey) claims = .ok token := by
  cases minted : signJws sampleSigner (sampleKeyObject .privateKey) claims with
  | error reason =>
      rw [minted] at mints
      cases mints
  | ok token => exact ⟨token, rfl⟩

def emptyJtiClaims : JwsClaimsInput :=
  sampleSessionClaims [(js "jti", some (.string []))]

/-- A claim that has the name of a method of every object. -/
def inheritedNameClaims : JwsClaimsInput :=
  sampleSessionClaims [(js "toString", some (.string (js "admin")))]

/-- The signer lets an empty `jti` and a claim of an inherited name through, and its own
verifier refuses the first and drops the second.
-/
theorem unverifiable_claims_are_minted
    : (∃ token,
          signJws sampleSigner (sampleKeyObject .privateKey) emptyJtiClaims = .ok token
          ∧ ¬ RoundTrips sampleTokenSignatures (parsesClaims emptyJtiClaims)
              (sampleKeyObject .publicKey) emptyJtiClaims token)
      ∧ ∃ token,
          signJws sampleSigner (sampleKeyObject .privateKey) inheritedNameClaims = .ok token
          ∧ ¬ RoundTrips sampleTokenSignatures (parsesClaims inheritedNameClaims)
              (sampleKeyObject .publicKey) inheritedNameClaims token := by
  constructor
  · obtain ⟨token, minted⟩ :=
      exists_token_of_isSome emptyJtiClaims (by decide +kernel)
    refine ⟨token, minted, fun trips => ?_⟩
    obtain ⟨jti, -⟩ := trips.verifiable minted
    obtain ⟨text, same, filled⟩ := jti (.string []) rfl
    exact filled (Json.Value.string.inj same).symm
  · obtain ⟨token, minted⟩ :=
      exists_token_of_isSome inheritedNameClaims (by decide +kernel)
    refine ⟨token, minted, fun trips => ?_⟩
    obtain ⟨-, registered⟩ := trips.verifiable minted
    exact absurd (registered (js "toString") rfl) (by decide)

theorem sampleSession_verifiable
    : Verifiable (sampleSessionClaims [(js "jti", some (.string (js "id-1")))]) := by
  constructor
  · intro value given
    cases given
    exact ⟨_, rfl, by decide⟩
  · intro key given
    by_contra unknown
    simp only [registeredClaims, List.mem_cons, List.not_mem_nil, or_false, not_or] at unknown
    obtain ⟨iss, sub, aud, iat, nbf, exp, jti⟩ := unknown
    simp [sampleSessionClaims, JwsClaimsInput.read, List.lookup_cons, beq_false_of_ne, iss, sub,
      aud, iat, nbf, exp, jti] at given

/-- A session's claims with an id make the round trip. -/
theorem signJws_roundTrips_session
    : ∃ token,
        signJws sampleSigner (sampleKeyObject .privateKey)
            (sampleSessionClaims [(js "jti", some (.string (js "id-1")))])
          = .ok token
        ∧ RoundTrips sampleTokenSignatures
            (parsesClaims (sampleSessionClaims [(js "jti", some (.string (js "id-1")))]))
            (sampleKeyObject .publicKey)
            (sampleSessionClaims [(js "jti", some (.string (js "id-1")))]) token := by
  obtain ⟨token, minted⟩ :=
    exists_token_of_isSome (sampleSessionClaims [(js "jti", some (.string (js "id-1")))])
      (by decide +kernel)
  exact
    ⟨token, minted,
      (signJws_roundTrips_iff sampleKeyPair (parsesClaims_ordered _) minted).mpr
        sampleSession_verifiable⟩

/-- The first presentation of a session's token, with a store that has not seen it. -/
def sampleVerification : VerifyJwsOptions where
  publicKey := sampleKeyObject .publicKey
  nowSeconds := 1750000100
  issuer := js "gateway"
  audience := js "session"
  replay := some (js "sessions")

/-- The session's token is verified, and the store is asked once. -/
theorem verifyJws_sound_session
    : ∃ token claims,
        (verifyJws sampleTokenSignatures
            (parsesClaims (sampleSessionClaims [(js "jti", some (.string (js "id-1")))]))
            (fun _ => some true) token sampleVerification).result
          = .ok claims
        ∧ VerifiedToken sampleTokenSignatures
            (parsesClaims (sampleSessionClaims [(js "jti", some (.string (js "id-1")))])) token
            sampleVerification claims
        ∧ ∃ jti,
            (verifyJws sampleTokenSignatures
                (parsesClaims (sampleSessionClaims [(js "jti", some (.string (js "id-1")))]))
                (fun _ => some true) token sampleVerification).asked
              = [{ provider := js "sessions", eventId := jti, nowSeconds := 1750000100 }] := by
  obtain ⟨token, minted⟩ :=
    exists_token_of_isSome (sampleSessionClaims [(js "jti", some (.string (js "id-1")))])
      (by decide +kernel)
  have matching
      : MatchingCall (sampleKeyObject .publicKey)
          (sampleSessionClaims [(js "jti", some (.string (js "id-1")))]) sampleVerification
          (fun _ => some true) := by
    refine {
      keyed := rfl
      issuer := rfl
      audience := rfl
      begun := ?_
      unexpired := ?_
      fresh := ?_
    }
    · rintro nbf ⟨⟩
      exact (by decide : ((1750000000 : Int) : ℚ) ≤ 1750000100)
    · rintro exp ⟨⟩
      exact (by decide : (1750000100 : ℚ) < ((1750000900 : Int) : ℚ))
    · rintro provider ⟨⟩
      exact ⟨rfl, fun _ => rfl⟩
  obtain ⟨claims, verified, -⟩ :=
    sampleSession_verifiable.roundTrips sampleKeyPair (parsesClaims_ordered _) minted _ _ matching
  obtain ⟨sound, -⟩ :=
    verifyJws_sound sampleTokenSignatures
      (parsesClaims (sampleSessionClaims [(js "jti", some (.string (js "id-1")))]))
      (fun _ => some true) token sampleVerification
  obtain ⟨vouched, replay⟩ := sound claims verified
  obtain ⟨jti, -, asked, -⟩ := replay (js "sessions") rfl
  exact ⟨token, claims, verified, vouched, jti, asked⟩

end StellarOnramp.Gateway
