import Mathlib.Data.List.Sort
import StellarOnramp.Library.Attempts
import StellarOnramp.Library.JsText

/-! The credential schema: twelve claims at fixed indexes, their canonical `name=value`
messages, and which sets of indexes may be disclosed.
-/

namespace StellarOnramp.Identity

open Attempts JsText Octets

-----------------------------------------------------------------------------------------
-- Failures
-----------------------------------------------------------------------------------------

/-- Which error class is thrown; `library` is anything a dependency throws. -/
inductive FailureKind where
  | attest
  | binding
  | credential
  | expiry
  | library
  | point
  | predicate
  | schema
  | statusCredential
  | statusList
  deriving DecidableEq

structure Failure where
  kind : FailureKind
  message : JsString
  deriving DecidableEq

abbrev Attempt := Except Failure

/-- An error of a dependency; its text is the dependency's own. -/
def libraryFailure : Failure := { kind := .library, message := [] }

/-- The outcome of a library call. -/
def throwing {α : Type} : Option α → Attempt α
  | some outcome => .ok outcome
  | none => .error libraryFailure

theorem throwing_eq_ok {α : Type} {outcome : Option α} {value : α}
    : throwing outcome = .ok value ↔ outcome = some value := by
  cases outcome <;> simp [throwing]

/-- A number that holds an integer. Every check here refuses a fraction or a `NaN`. -/
abbrev Number := Int

def isSafeInteger (value : Number) : Prop := value.natAbs ≤ 2 ^ 53 - 1

instance (value : Number) : Decidable (isSafeInteger value) := by
  unfold isSafeInteger
  infer_instance

-----------------------------------------------------------------------------------------
-- Claims
-----------------------------------------------------------------------------------------

inductive ClaimName where
  | schemaVersion
  | issuerId
  | revocationIndex
  | issuedAt
  | expiresAt
  | subjectBinding
  | over18
  | over21
  | notSanctioned
  | notPep
  | jurisdictionOk
  | livenessOk
  deriving DecidableEq

def ClaimName.text : ClaimName → Bytes
  | schemaVersion => ascii "schemaVersion"
  | issuerId => ascii "issuerId"
  | revocationIndex => ascii "revocationIndex"
  | issuedAt => ascii "issuedAt"
  | expiresAt => ascii "expiresAt"
  | subjectBinding => ascii "subjectBinding"
  | over18 => ascii "over18"
  | over21 => ascii "over21"
  | notSanctioned => ascii "notSanctioned"
  | notPep => ascii "notPep"
  | jurisdictionOk => ascii "jurisdictionOk"
  | livenessOk => ascii "livenessOk"

/-- The frozen message indexes. -/
def claimIndex : ClaimName → Nat
  | .schemaVersion => 0
  | .issuerId => 1
  | .revocationIndex => 2
  | .issuedAt => 3
  | .expiresAt => 4
  | .subjectBinding => 5
  | .over18 => 6
  | .over21 => 7
  | .notSanctioned => 8
  | .notPep => 9
  | .jurisdictionOk => 10
  | .livenessOk => 11

def schemaAttributeCount : Nat := 12
def maxSchemaAttributes : Nat := 39
def schemaVersion : JsString := js "1"
def credentialHeader : JsString := js "stellaronramp/kyc-credential/v" ++ schemaVersion

inductive ClaimKind where
  | string
  | hex32
  | uint
  | bool
  deriving DecidableEq

structure ClaimSpec where
  name : ClaimName
  index : Nat
  kind : ClaimKind
  pii : Bool
  deriving DecidableEq

def ClaimSpec.of (name : ClaimName) (kind : ClaimKind) : ClaimSpec :=
  { name, index := claimIndex name, kind, pii := false }

def claimSpecs : List ClaimSpec :=
  [
    .of .schemaVersion .string,
    .of .issuerId .hex32,
    .of .revocationIndex .uint,
    .of .issuedAt .uint,
    .of .expiresAt .uint,
    .of .subjectBinding .hex32,
    .of .over18 .bool,
    .of .over21 .bool,
    .of .notSanctioned .bool,
    .of .notPep .bool,
    .of .jurisdictionOk .bool,
    .of .livenessOk .bool
  ]

/-- The spec of an index; the specs are dense and in index order. -/
def claimSpecByIndex (index : Number) : Option ClaimSpec :=
  if index < 0 then none else claimSpecs[index.toNat]?

inductive ClaimValue where
  | string (value : JsString)
  | number (value : Number)
  | boolean (value : Bool)
  deriving DecidableEq

def ClaimValue.typeof : ClaimValue → Bytes
  | string _ => ascii "string"
  | number _ => ascii "number"
  | boolean _ => ascii "boolean"

def ClaimValue.text : ClaimValue → JsString
  | string value => value
  | number value => numberText value
  | boolean value => if value then js "true" else js "false"

/-- The claim set an issuer signs. -/
structure KycClaims where
  schemaVersion : JsString
  issuerId : JsString
  revocationIndex : Number
  issuedAt : Number
  expiresAt : Number
  subjectBinding : JsString
  over18 : Bool
  over21 : Bool
  notSanctioned : Bool
  notPep : Bool
  jurisdictionOk : Bool
  livenessOk : Bool
  deriving DecidableEq

def KycClaims.value (claims : KycClaims) : ClaimName → ClaimValue
  | .schemaVersion => .string claims.schemaVersion
  | .issuerId => .string claims.issuerId
  | .revocationIndex => .number claims.revocationIndex
  | .issuedAt => .number claims.issuedAt
  | .expiresAt => .number claims.expiresAt
  | .subjectBinding => .string claims.subjectBinding
  | .over18 => .boolean claims.over18
  | .over21 => .boolean claims.over21
  | .notSanctioned => .boolean claims.notSanctioned
  | .notPep => .boolean claims.notPep
  | .jurisdictionOk => .boolean claims.jurisdictionOk
  | .livenessOk => .boolean claims.livenessOk

-----------------------------------------------------------------------------------------
-- Canonical messages
-----------------------------------------------------------------------------------------

/-- The failure that names a claim and what it must be. -/
def claimFailure (name : ClaimName) (complaint : JsString) : Failure :=
  {
    kind := .schema
    message := js "claim \"" ++ ofOctets name.text ++ js "\" " ++ complaint
  }

def encodeValue (spec : ClaimSpec) (value : ClaimValue) : Attempt JsString :=
  match spec.kind, value with
  | .bool, .boolean value => .ok (if value then js "true" else js "false")
  | .bool, value =>
      .error (claimFailure spec.name (js "must be boolean, got " ++ ofOctets value.typeof))
  | .uint, .number value =>
      if ¬ isSafeInteger value ∨ value < 0 then
        .error (claimFailure spec.name (js "must be a non-negative safe integer"))
      else
        .ok (numberText value)
  | .uint, _ =>
      .error (claimFailure spec.name (js "must be a non-negative safe integer"))
  | .hex32, .string value =>
      if isHex32 value then
        .ok value
      else
        .error (claimFailure spec.name (js "must be 64 lowercase hex chars"))
  | .hex32, _ =>
      .error (claimFailure spec.name (js "must be 64 lowercase hex chars"))
  | .string, .string value =>
      if value = [] then
        .error (claimFailure spec.name (js "must be a non-empty string"))
      -- An equals sign would make the split into name and value ambiguous.
      else if value.contains 61 then
        .error (claimFailure spec.name (js "must not contain \"=\""))
      else
        .ok value
  | .string, _ =>
      .error (claimFailure spec.name (js "must be a non-empty string"))

/-- One canonical message: `name=value`. -/
def encodeClaim (name : ClaimName) (value : ClaimValue) : Attempt JsString :=
  match claimSpecs.find? (fun spec => spec.name = name) with
  | none =>
      .error
        {
          kind := .schema
          message := js "unknown claim \"" ++ ofOctets name.text ++ js "\""
        }
  | some spec => do
      let value ← encodeValue spec value
      .ok (ofOctets name.text ++ js "=" ++ value)

/-- All messages, index `i` being the claim at schema index `i`. -/
def encodeClaims (claims : KycClaims) : Attempt (List JsString) :=
  claimSpecs.mapM (fun spec => encodeClaim spec.name (claims.value spec.name))

/-- The spec of a claim. -/
def claimSpec (name : ClaimName) : ClaimSpec :=
  .of name
    (match name with
    | .schemaVersion => .string
    | .issuerId | .subjectBinding => .hex32
    | .revocationIndex | .issuedAt | .expiresAt => .uint
    | _ => .bool)

/-- The specs are dense: the spec of a claim stands at the claim's index. -/
theorem claimSpecs_getElem? (name : ClaimName)
    : claimSpecs[claimIndex name]? = some (claimSpec name) := by
  cases name <;> rfl

theorem find?_claimSpecs (name : ClaimName)
    : claimSpecs.find? (fun spec => spec.name = name) = some (claimSpec name) := by
  cases name <;> rfl

/-- Claims have distinct indexes. Witness: each index names its spec. -/
theorem claimIndex_injective : Function.Injective claimIndex := by
  intro left right same
  have leftSpec := claimSpecs_getElem? left
  rw [same, claimSpecs_getElem? right] at leftSpec
  exact congrArg ClaimSpec.name (Option.some.inj leftSpec).symm

theorem claimIndex_lt (name : ClaimName) : claimIndex name < schemaAttributeCount := by
  cases name <;> decide

/-- The message of a claim is its name and its encoded value. -/
theorem encodeClaim_eq_ok {name : ClaimName} {value : ClaimValue} {message : JsString}
    : encodeClaim name value = .ok message
      ↔ ∃ text,
          encodeValue (claimSpec name) value = .ok text
          ∧ message = ofOctets name.text ++ js "=" ++ text := by
  rw [encodeClaim, find?_claimSpecs]
  exact bind_ok_eq_ok

/-- A claim set that encodes has one message for each index, and every claim's message
stands at its index. Witness: the traversal follows the dense specs.
-/
theorem encodeClaims_eq_ok {claims : KycClaims} {messages : List JsString}
    (encoded : encodeClaims claims = .ok messages)
    : messages.length = schemaAttributeCount
      ∧ ∀ name,
          ∃ text,
            encodeValue (claimSpec name) (claims.value name) = .ok text
            ∧ messages[claimIndex name]? = some (ofOctets name.text ++ js "=" ++ text) := by
  have each := mapM_eq_ok.mp encoded
  constructor
  · have lengths := congrArg List.length each
    rw [List.length_map, List.length_map] at lengths
    exact lengths.symm
  · intro name
    have here := congrArg (fun list => list[claimIndex name]?) each
    simp only [List.getElem?_map, claimSpecs_getElem?, Option.map_some] at here
    cases found : messages[claimIndex name]? with
    | none => simp [found] at here
    | some message =>
        rw [found, Option.map_some, Option.some.injEq] at here
        obtain ⟨text, encoded, rfl⟩ := encodeClaim_eq_ok.mp here
        exact ⟨text, encoded, rfl⟩

-----------------------------------------------------------------------------------------
-- Disclosed indexes
-----------------------------------------------------------------------------------------

/-- Collect indexes that are in range and new. -/
def collectIndexes (seen : List Number) : List Number → Attempt (List Number)
  | [] => .ok seen
  | index :: rest => do
      failIf (¬ (0 ≤ index ∧ index < schemaAttributeCount))
        {
          kind := .schema
          message :=
            js "disclosure index " ++ numberText index ++ js " out of range [0,"
              ++ numberText schemaAttributeCount ++ js ")"
        }
      failIf (index ∈ seen)
        { kind := .schema, message := js "duplicate disclosure index " ++ numberText index }
      collectIndexes (seen ++ [index]) rest

/-- Refuse an index whose claim is personal data; version 1 of the schema has none. -/
def assertNoPiiDisclosed : List Number → Attempt Unit
  | [] => .ok ()
  | index :: rest =>
      match claimSpecByIndex index with
      | some spec => do
          failIf (spec.pii = true)
            {
              kind := .schema
              message :=
                js "refusing to disclose PII-bearing attribute \"" ++ ofOctets spec.name.text
                  ++ js "\""
            }
          assertNoPiiDisclosed rest
      | none => assertNoPiiDisclosed rest

def normalizeIndexes (indexes : List Number) : Attempt (List Number) := do
  let seen ← collectIndexes [] indexes
  let sorted := seen.insertionSort (fun left right => left ≤ right)
  assertNoPiiDisclosed sorted
  .ok sorted

/-- Collecting succeeds exactly on new indexes in range, and keeps their order; by list
induction.
-/
theorem collectIndexes_eq_ok {seen indexes collected : List Number}
    : collectIndexes seen indexes = .ok collected
      ↔ collected = seen ++ indexes
        ∧ (∀ index ∈ indexes, 0 ≤ index ∧ index < schemaAttributeCount)
        ∧ indexes.Nodup
        ∧ ∀ index ∈ indexes, index ∉ seen := by
  induction indexes generalizing seen with
  | nil => simp [collectIndexes, eq_comm]
  | cons index rest ih =>
      rw [collectIndexes, failIf_bind_eq_ok, failIf_bind_eq_ok, ih, not_not]
      simp only [List.append_assoc, List.singleton_append, List.mem_append, List.mem_cons,
        not_or, List.nodup_cons, List.not_mem_nil, or_false,
        forall_eq_or_imp]
      grind

/-- No claim of the schema is personal data, so nothing is refused. -/
theorem assertNoPiiDisclosed_eq_ok (indexes : List Number)
    : assertNoPiiDisclosed indexes = .ok () := by
  induction indexes with
  | nil => rfl
  | cons index rest ih =>
      unfold assertNoPiiDisclosed
      cases found : claimSpecByIndex index with
      | none => exact ih
      | some spec =>
          have harmless : spec.pii = false := by
            unfold claimSpecByIndex at found
            split at found
            · cases found
            · have member := List.mem_of_getElem? found
              simp only [claimSpecs, ClaimSpec.of, List.mem_cons, List.not_mem_nil,
                or_false] at member
              rcases member with rfl | rfl | rfl | rfl | rfl | rfl | rfl | rfl | rfl | rfl | rfl
                | rfl <;> rfl
          exact failIf_bind_eq_ok.mpr ⟨by simp [harmless], ih⟩

/-- A disclosure set is accepted exactly when its indexes are in range and distinct, and it
is then sorted.
-/
theorem normalizeIndexes_eq_ok {indexes sorted : List Number}
    : normalizeIndexes indexes = .ok sorted
      ↔ (∀ index ∈ indexes, 0 ≤ index ∧ index < schemaAttributeCount)
        ∧ indexes.Nodup
        ∧ sorted = indexes.insertionSort (fun left right => left ≤ right) := by
  simp only [normalizeIndexes, bind_eq_ok, collectIndexes_eq_ok, assertNoPiiDisclosed_eq_ok,
    List.nil_append, List.not_mem_nil, not_false_eq_true, implies_true, and_true,
    Except.ok.injEq]
  constructor
  · rintro ⟨_, ⟨rfl, inRange, distinct⟩, _, -, rfl⟩
    exact ⟨inRange, distinct, rfl⟩
  · rintro ⟨inRange, distinct, rfl⟩
    exact ⟨indexes, ⟨rfl, inRange, distinct⟩, (), trivial, rfl⟩

end StellarOnramp.Identity
