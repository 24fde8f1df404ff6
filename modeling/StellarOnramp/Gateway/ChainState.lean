import StellarOnramp.Gateway.ContractErrors
import StellarOnramp.Identity.Schema

/-! Reading a subject's record and revocation epoch before a signature. No record means epoch 0,
and only the contract's own refusal may say so.
-/

namespace StellarOnramp.Gateway.Chain

open Attempts JsText ObjectWalk Octets
open StellarOnramp.Identity

variable {Ref : Type}

-----------------------------------------------------------------------------------------
-- Records
-----------------------------------------------------------------------------------------

/-- A field of what the simulation returned. A number is `none` where it holds no integer, and
any other value has its `String()` text.
-/
inductive Native where
  | number (value : Option Number)
  | bigint (value : Int)
  | octets (octets : Bytes)
  | other (text : Option JsString)

structure RawRecord where
  claims : Native
  expires_at : Native
  issuer_id : Native
  issued_at : Native
  revocation_epoch : Native
  revocation_index : Native

inductive Returned where
  | notAnObject
  | object (fields : RawRecord)

structure ClaimRecord where
  claims : Number
  expiresAt : Number
  issuerId : Bytes
  issuedAt : Number
  revocationEpoch : Number
  revocationIndex : Number
  deriving DecidableEq

/-- Why a record is refused; `conversion` is a field whose text throws in the message. -/
inductive RecordFailure where
  | notARecord
  | issuerId
  | notU32 (key : JsString)
  | conversion
  deriving DecidableEq

/-- A bigint outside the range stays outside it as a number. -/
def u32 (key : JsString) : Native → Except RecordFailure Number
  | .number (some value) => do
      failIf (value < 0 ∨ 0xffff_ffff < value) (.notU32 key)
      .ok value
  | .bigint value => do
      failIf (value < 0 ∨ 0xffff_ffff < value) (.notU32 key)
      .ok value
  | .other none => .error .conversion
  | _ => .error (.notU32 key)

def issuerId : Native → Except RecordFailure Bytes
  | .octets octets => do
      failIf (octets.length ≠ 32) .issuerId
      .ok octets
  | _ => .error .issuerId

/-- How the simulation of `claim_record` ends. -/
inductive Simulation (Ref : Type) where
  | returned (raw : Returned)
  | threw (err : Thrown Ref)

def Thrown.message (objects : Ref → ThrownObject Ref) : Thrown Ref → Thrown Ref
  | .object ref => (objects ref).message
  | _ => .undefined

/-- `String(value)` -/
def Thrown.string (objects : Ref → ThrownObject Ref) : Thrown Ref → Option JsString
  | .null => some (js "null")
  | .undefined => some (js "undefined")
  | .str text => some text
  | .other text => text
  | .object ref => (objects ref).text

def noClaimRecord : Nat := 3

/-- The field is a number or a bigint with a value of 32 bits. -/
def Native.Holds (field : Native) (value : Number) : Prop :=
  (field = .number (some value) ∨ field = .bigint value) ∧ 0 ≤ value ∧ value ≤ 0xffff_ffff

structure Decodes (fields : RawRecord) (record : ClaimRecord) : Prop where
  issuerId : fields.issuer_id = .octets record.issuerId
  width : record.issuerId.length = 32
  claims : fields.claims.Holds record.claims
  expiresAt : fields.expires_at.Holds record.expiresAt
  issuedAt : fields.issued_at.Holds record.issuedAt
  revocationEpoch : fields.revocation_epoch.Holds record.revocationEpoch
  revocationIndex : fields.revocation_index.Holds record.revocationIndex

/-- What the thrown value names comes out. If it names no code but 3, everything in it has its
text and no object on the route to the code lies on another route so long that the search would
stop before it; if it names 3 and others, the same holds of one of those that is a safe number,
or of a value whose text throws.
-/
structure Surfaces (objects : Ref → ThrownObject Ref) (err : Thrown Ref) : Prop where
  alone
    : NamesOnly objects err noClaimRecord
      → Legible objects ((errorWalk objects).places (8 + 1) err)
        ∧ SurelyNamed objects err noClaimRecord
  others
    : NamedAt objects ((errorWalk objects).places (8 + 1) err) noClaimRecord
      → ∀ other,
          other ≠ noClaimRecord
          → NamedAt objects ((errorWalk objects).places (8 + 1) err) other
          → (∃ code < safeNumberBound, code ≠ noClaimRecord ∧ SurelyNamed objects err code)
            ∨ ∃ place, (errorWalk objects).Sure (8 + 1) err 0 place ∧ ¬ Legible objects [place]

def Simulation.Surfaces (objects : Ref → ThrownObject Ref) : Simulation Ref → Prop
  | .threw err => Chain.Surfaces objects err
  | .returned _ => True

section

variable {objects : Ref → ThrownObject Ref} {err : Thrown Ref} {code : Nat}

theorem NamedAt.mono {front places : List (Thrown Ref)} (named : NamedAt objects front code)
    (subset : front ⊆ places)
    : NamedAt objects places code :=
  let ⟨place, found, naming⟩ := named
  ⟨place, subset found, naming⟩

theorem Legible.mono {front places : List (Thrown Ref)} (legible : Legible objects places)
    (subset : front ⊆ places)
    : Legible objects front :=
  fun place found => legible place (subset found)

/-- The search comes to the end of such a route. -/
theorem singleton_entered [DecidableEq Ref] {place : Thrown Ref}
    (sure : (errorWalk objects).Sure (8 + 1) err 0 place)
    : [place] ⊆ (errorWalk objects).entered searchLevels err :=
  List.cons_subset.mpr ⟨sure.entered (Nat.succ_pos 8), List.nil_subset _⟩

theorem SurelyNamed.entered [DecidableEq Ref] (named : SurelyNamed objects err code)
    : NamedAt objects ((errorWalk objects).entered searchLevels err) code :=
  let ⟨_, sure, here⟩ := named
  here.mono (singleton_entered sure)

/-- The decoder and the thrown value agree on code 3. -/
theorem Surfaces.decodes [DecidableEq Ref] (surfaces : Surfaces objects err)
    : decodeContractErrorCode objects err = some (some noClaimRecord)
      ↔ NamesOnly objects err noClaimRecord := by
  have within
      : (errorWalk objects).entered searchLevels err
        ⊆ (errorWalk objects).places (8 + 1) err :=
    (errorWalk objects).entered_subset searchLevels err
  rw [decodeContractErrorCode_eq_some]
  constructor
  · rintro ⟨legible, -, named, alone⟩
    refine ⟨named.mono within, fun other here => ?_⟩
    by_contra apart
    rcases surfaces.others (named.mono within) other apart here with
      ⟨code, small, differs, surely⟩ | ⟨place, sure, illegible⟩
    · exact differs (alone code small surely.entered)
    · exact illegible (legible.mono (singleton_entered sure))
  · intro only
    obtain ⟨legible, surely⟩ := surfaces.alone only
    exact ⟨legible.mono within, by decide, surely.entered,
      fun other _ here => only.2 other (here.mono within)⟩

end

-----------------------------------------------------------------------------------------
-- The record decoder
-----------------------------------------------------------------------------------------

theorem u32_eq_ok {key : JsString} {field : Native} {value : Number}
    : u32 key field = .ok value ↔ field.Holds value := by
  have range (whole : Int)
      : ¬ (whole < 0 ∨ 0xffff_ffff < whole) ↔ 0 ≤ whole ∧ whole ≤ 0xffff_ffff := by
    omega
  rcases field with (_ | whole) | whole | octets | (_ | text)
  · simp [u32, Native.Holds]
  · simp only [u32, failIf_bind_eq_ok, range, Native.Holds, Except.ok.injEq, reduceCtorEq,
      Native.number.injEq, Option.some.injEq, or_false]
    exact ⟨fun read => ⟨read.2, read.2 ▸ read.1⟩, fun held => ⟨held.1 ▸ held.2, held.1⟩⟩
  · simp only [u32, failIf_bind_eq_ok, range, Native.Holds, Except.ok.injEq, reduceCtorEq,
      Native.bigint.injEq, false_or]
    exact ⟨fun read => ⟨read.2, read.2 ▸ read.1⟩, fun held => ⟨held.1 ▸ held.2, held.1⟩⟩
  all_goals simp [u32, Native.Holds]

section

variable [DecidableEq Ref] {isAddress : JsString → Bool} {objects : Ref → ThrownObject Ref}
  {err : Thrown Ref} {raw : Returned} {subject : JsString} {state : SubjectChainState}

end

end StellarOnramp.Gateway.Chain
