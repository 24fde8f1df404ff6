import StellarOnramp.Identity.Schema
import Mathlib.Logic.Function.Basic
import Mathlib.Tactic.IntervalCases

/-! Reading disclosed messages back: each must name the claim of its index, and its value must
be in canonical form.
-/

namespace StellarOnramp.Identity

open Attempts JsText Octets

/-- The claims that a presentation discloses. -/
abbrev Decoded := ClaimName → Option ClaimValue

/-- `/^(0|[1-9][0-9]*)$/` -/
def isCanonicalUint (text : JsString) : Bool :=
  text == js "0" || (text != [] && text.head? != some 48 && text.all isDigit)

/-- A number above the safe range is refused either way, so its rounding to a double does not
matter.
-/
def decodeValue (spec : ClaimSpec) (value : JsString) : Attempt ClaimValue :=
  match spec.kind with
  | .bool => do
      failIf (value ≠ js "true" ∧ value ≠ js "false")
        (claimFailure spec.name (js "has non-canonical boolean \"" ++ value ++ js "\""))
      .ok (.boolean (value == js "true"))
  | .uint => do
      failIf (isCanonicalUint value = false)
        (claimFailure spec.name (js "has non-canonical uint \"" ++ value ++ js "\""))
      let n : Number := digitsValue value
      failIf (¬ isSafeInteger n) (claimFailure spec.name (js "out of safe range"))
      .ok (.number n)
  | .hex32 => do
      failIf (isHex32 value = false) (claimFailure spec.name (js "is not 32-byte hex"))
      .ok (.string value)
  | .string => do
      failIf (value = []) (claimFailure spec.name (js "is empty"))
      .ok (.string value)

def schemaFailure (message : JsString) : Failure :=
  { kind := .schema, message }

/-- Decode one message; the part before the first `=` is its name. -/
def decodeMessage (position : Nat) (idx : Number) (raw : JsString)
    : Attempt (ClaimName × ClaimValue) :=
  match claimSpecByIndex idx with
  | none =>
      .error
        (schemaFailure (js "index " ++ numberText idx ++ js " is not in schema v" ++ schemaVersion))
  | some spec =>
      match raw.idxOf? 61 with
      | none =>
          .error
            (schemaFailure
              (js "malformed disclosed message at position " ++ numberText position))
      | some sep => do
          let name := raw.take sep
          let value := raw.drop (sep + 1)
          -- A name that disagrees with the index is an index substitution.
          failIf (name ≠ ofOctets spec.name.text)
            (schemaFailure
              (js "disclosed message at index " ++ numberText idx ++ js " names \"" ++ name
                ++ js "\" but schema says \"" ++ ofOctets spec.name.text ++ js "\""))
          let value ← decodeValue spec value
          .ok (spec.name, value)

/-- Decode messages one after another. -/
def decodeMessages (position : Nat) (out : Decoded)
    : List Number → List JsString → Attempt Decoded
  | idx :: indexes, raw :: messages => do
      let (name, value) ← decodeMessage position idx raw
      decodeMessages (position + 1) (Function.update out name (some value)) indexes messages
  | _, _ => .ok out

/-- The inverse of `encodeClaims` on a disclosed part. -/
def decodeDisclosed (indexes : List Number) (messages : List JsString) : Attempt Decoded := do
  failIf (indexes.length ≠ messages.length)
    (schemaFailure (js "disclosed index/message length mismatch"))
  decodeMessages 0 (fun _ => none) indexes messages

-----------------------------------------------------------------------------------------
-- What a decoded claim says about its message
-----------------------------------------------------------------------------------------

/-- Each spec stands at the index of its claim, by exhausting the places. -/
theorem getElem?_claimSpecs {place : Nat} {spec : ClaimSpec}
    (found : claimSpecs[place]? = some spec)
    : place = claimIndex spec.name ∧ spec = claimSpec spec.name := by
  have bound : place < 12 := (List.getElem?_eq_some_iff.mp found).1
  interval_cases place <;> cases found <;> exact ⟨rfl, rfl⟩

/-- An index with a spec is the index of its claim. -/
theorem claimSpecByIndex_eq_some {index : Number} {spec : ClaimSpec}
    (found : claimSpecByIndex index = some spec)
    : index = claimIndex spec.name ∧ spec = claimSpec spec.name := by
  unfold claimSpecByIndex at found
  split at found
  case isTrue => cases found
  case isFalse natural =>
    have position : index = (index.toNat : Int) :=
      (Int.toNat_of_nonneg (Int.not_lt.mp natural)).symm
    obtain ⟨place, same⟩ := getElem?_claimSpecs found
    exact ⟨position.trans (congrArg Nat.cast place), same⟩

/-- The parts of a message around its first equals sign. -/
theorem split_at_equals {raw : JsString} {sep : Nat} (found : raw.idxOf? 61 = some sep)
    : raw = raw.take sep ++ js "=" ++ raw.drop (sep + 1) := by
  have here : raw[sep]? = some 61 := by
    rw [List.idxOf?_eq_some_iff] at found
    obtain ⟨bound, same, -⟩ := found
    rw [List.getElem?_eq_getElem bound, same]
  obtain ⟨bound, same⟩ := List.getElem?_eq_some_iff.mp here
  have rest : raw.drop sep = 61 :: raw.drop (sep + 1) := by
    rw [List.drop_eq_getElem_cons bound, same]
  calc raw = raw.take sep ++ raw.drop sep := (List.take_append_drop sep raw).symm
    _ = raw.take sep ++ js "=" ++ raw.drop (sep + 1) := by
        rw [rest, List.append_assoc]
        rfl

/-- A message that decodes names its claim and carries the value. -/
structure Spelled (name : ClaimName) (message : JsString) (value : ClaimValue) : Prop where
  text
    : ∃ text,
        message = ofOctets name.text ++ js "=" ++ text
        ∧ decodeValue (claimSpec name) text = .ok value

theorem decodeMessage_eq_ok {position : Nat} {idx : Number} {raw : JsString} {name : ClaimName}
    {value : ClaimValue} (decoded : decodeMessage position idx raw = .ok (name, value))
    : idx = claimIndex name ∧ Spelled name raw value := by
  unfold decodeMessage at decoded
  split at decoded
  case h_1 => cases decoded
  case h_2 spec found =>
    obtain ⟨index, same⟩ := claimSpecByIndex_eq_some found
    split at decoded
    case h_1 => cases decoded
    case h_2 sep equals =>
      rcases failIf_bind_eq_ok.mp decoded with ⟨named, decoded⟩
      rcases bind_eq_ok.mp decoded with ⟨found, read, decoded⟩
      cases decoded
      refine ⟨index, ⟨raw.drop (sep + 1), ?_, ?_⟩⟩
      · rw [← not_not.mp named]
        exact split_at_equals equals
      · rw [← same]
        exact read

/-- Decoding distinct indexes: a shown claim has the value of its message, another keeps what
it had; by induction on the disclosure.
-/
theorem decodeMessages_eq_ok {position : Nat} {out decoded : Decoded} {indexes : List Number}
    {messages : List JsString} (distinct : indexes.Nodup)
    (lengths : indexes.length = messages.length)
    (read : decodeMessages position out indexes messages = .ok decoded)
    : (∀ pair ∈ indexes.zip messages,
        ∃ name value,
          pair.1 = claimIndex name
          ∧ Spelled name pair.2 value
          ∧ decoded name = some value)
      ∧ ∀ name, (claimIndex name : Number) ∉ indexes → decoded name = out name := by
  induction indexes generalizing messages position out with
  | nil =>
      cases messages with
      | nil =>
          cases read
          exact ⟨by simp, fun _ _ => rfl⟩
      | cons => cases lengths
  | cons idx rest ih =>
      cases messages with
      | nil => cases lengths
      | cons raw more =>
          rcases bind_eq_ok.mp read with ⟨⟨name, value⟩, here, read⟩
          obtain ⟨index, spelled⟩ := decodeMessage_eq_ok here
          obtain ⟨fresh, distinct⟩ := List.nodup_cons.mp distinct
          obtain ⟨shown, hidden⟩ := ih distinct (Nat.succ.inj lengths) read
          have kept : decoded name = some value := by
            rw [hidden name (index ▸ fresh), Function.update_self]
          refine ⟨fun pair member => ?_, fun other absent => ?_⟩
          · rcases List.mem_cons.mp member with rfl | later
            · exact ⟨name, value, index, spelled, kept⟩
            · exact shown pair later
          · obtain ⟨apart, absent⟩ := not_or.mp (fun found => absent (List.mem_cons.mpr found))
            have different : other ≠ name := by
              rintro rfl
              exact apart index.symm
            rw [hidden other absent, Function.update_of_ne different]

end StellarOnramp.Identity
