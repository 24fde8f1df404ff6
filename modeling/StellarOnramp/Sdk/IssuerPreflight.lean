import StellarOnramp.Gateway.ChainState
import StellarOnramp.Identity.Points
import StellarOnramp.KycGate.Bbs
import StellarOnramp.KycRegistry.Trust

/-! The issuer that an attestation is about to be verified under, read from the registry before
the attestation is paid for, and the search for a second usable issuer. Every read is a
simulation of its own, so the registry may change between two of them. What keeps an answer valid
is that the registry never trusts again what it has refused.
-/

namespace StellarOnramp.Sdk

open Attempts JsText Octets Transitions
open StellarOnramp.Gateway.Chain (Thrown ThrownObject decodeContractErrorCode)
open StellarOnramp.Identity

variable {Ref : Type}

-----------------------------------------------------------------------------------------
-- The issuer's own key
-----------------------------------------------------------------------------------------

/-- The registry's own error number. The gate has another error with this number. -/
def registryIssuerNotFound : Nat := 3

/-- `issuerNotFound` says that the registry itself refused. -/
structure IssuerPreflightError (Ref : Type) where
  message : JsString
  issuerNotFound : Bool
  cause : Option (Thrown Ref)

/-- `point` is the local key's own failure, and `conversion` a thrown value without a text. -/
inductive PreflightFailure (Ref : Type) where
  | preflight (error : IssuerPreflightError Ref)
  | point (failure : Failure)
  | conversion

/-- A cause that is undefined is not set. -/
def causeOf : Thrown Ref → Option (Thrown Ref)
  | .undefined => none
  | cause => some cause

def notActive (issuerIdHex registryContractId : JsString) (cause : Thrown Ref)
    : IssuerPreflightError Ref where
  message :=
    js "issuer " ++ issuerIdHex.take 16 ++ [0x2026] ++ js " is not active on kyc-registry "
      ++ registryContractId
      ++ js " (IssuerNotFound, #3), so attest_bbs would answer UntrustedIssuer (#7). Register it "
      ++ js "as the registry admin: register_issuer --issuer_id <hex> --pk_g2 <192-byte "
      ++ js "uncompressed G2 hex> --valid_until 0."
  issuerNotFound := true
  cause := causeOf cause

def notRead (registryContractId detail : JsString) (cause : Thrown Ref)
    : IssuerPreflightError Ref where
  message :=
    js "could not read active_key from kyc-registry " ++ registryContractId
      ++ js ", and this was NOT "
      ++ js "IssuerNotFound (#3) " ++ [0x2014]
      ++ js " it is an RPC or configuration failure and registering an issuer "
      ++ js "will not fix it. Underlying cause: " ++ detail
  issuerNotFound := false
  cause := causeOf cause

def differentKey : IssuerPreflightError Ref where
  message :=
    js "kyc-registry holds a DIFFERENT key for this issuer id " ++ [0x2014]
      ++ js " the proof would fail the pairing "
      ++ js "check with an error that says nothing about why. Stop here instead."
  issuerNotFound := false
  cause := none

/-- `simulateRead` of `active_key`: what the contract returned, or what was thrown instead. -/
abbrev ActiveKeyRead (Ref : Type) := Bytes → Except (Thrown Ref) Bytes

/-- An id that is no hexadecimal text throws `notHex` where it would have been read. -/
def readActiveKey (activeKey : ActiveKeyRead Ref) (notHex : Thrown Ref) (issuerIdHex : JsString)
    : Except (Thrown Ref) Bytes :=
  match hexToBytes issuerIdHex with
  | none => .error notHex
  | some issuerId => activeKey issuerId

/-- The handler around the read. -/
def readFailure [DecidableEq Ref] (objects : Ref → ThrownObject Ref)
    (registryContractId issuerIdHex : JsString) (cause : Thrown Ref)
    : PreflightFailure Ref :=
  match decodeContractErrorCode objects cause with
  | none => .conversion
  | some code =>
      if code = some registryIssuerNotFound then
        .preflight (notActive issuerIdHex registryContractId cause)
      else
        match ((cause.message objects).orElse cause).string objects with
        | none => .conversion
        | some detail => .preflight (notRead registryContractId detail cause)

def assertIssuerActive [DecidableEq Ref] (objects : Ref → ThrownObject Ref)
    (curves : CurveLibrary) (activeKey : ActiveKeyRead Ref) (notHex : Thrown Ref)
    (registryContractId issuerIdHex : JsString) (issuerPublicKeyCompressed : Bytes)
    : Except (PreflightFailure Ref) JsString :=
  match readActiveKey activeKey notHex issuerIdHex with
  | .error cause => .error (readFailure objects registryContractId issuerIdHex cause)
  | .ok registryKey =>
      match decompressG2 curves issuerPublicKeyCompressed with
      | .error failure => .error (.point failure)
      | .ok expected =>
          if bytesToHex registryKey ≠ bytesToHex expected then
            .error (.preflight differentKey)
          else
            .ok (bytesToHex registryKey)

-----------------------------------------------------------------------------------------
-- A second issuer
-----------------------------------------------------------------------------------------

/-- The reads of one search, in order: the list of ids, and after it the keys. -/
structure SubstituteReads (Ref : Type) where
  issuerIds : Except (Thrown Ref) (List Bytes)
  activeKey : Nat → ActiveKeyRead Ref

/-- No flag is set in the first octet. -/
def hasClearFlags (key : Bytes) : Bool := key.headD 0 &&& 0xe0 == 0

/-- The rest of the walk, from a read on; `none` in an error is a thrown value without a text. -/
def walkIssuers [DecidableEq Ref] (objects : Ref → ThrownObject Ref)
    (activeKey : Nat → ActiveKeyRead Ref) (excludeIssuerIdHex : JsString)
    : Nat → List Bytes → Except (Option (Thrown Ref)) (Option JsString)
  | _, [] => .ok none
  | read, id :: rest =>
      if bytesToHex id = excludeIssuerIdHex then
        walkIssuers objects activeKey excludeIssuerIdHex read rest
      else
        match activeKey read id with
        | .error cause =>
            match decodeContractErrorCode objects cause with
            | none => .error none
            | some code =>
                if code = some registryIssuerNotFound then
                  walkIssuers objects activeKey excludeIssuerIdHex (read + 1) rest
                else
                  .error (some cause)
        | .ok key =>
            if hasClearFlags key then
              .ok (some (bytesToHex id))
            else
              walkIssuers objects activeKey excludeIssuerIdHex (read + 1) rest

def findSubstituteIssuer [DecidableEq Ref] (objects : Ref → ThrownObject Ref)
    (reads : SubstituteReads Ref) (excludeIssuerIdHex : JsString)
    : Except (Option (Thrown Ref)) (Option JsString) :=
  match reads.issuerIds with
  | .error cause => .error (some cause)
  | .ok registryIds => walkIssuers objects reads.activeKey excludeIssuerIdHex 0 registryIds

-----------------------------------------------------------------------------------------
-- Reads that answer for the contract
-----------------------------------------------------------------------------------------

/-- What a simulation returns is what the contract returns, and only the contract's refusal is
an error that names its number. Any other failure may be thrown at any time.
-/
structure AnswersFor [DecidableEq Ref] (objects : Ref → ThrownObject Ref)
    (world : KycRegistry.World) (activeKey : ActiveKeyRead Ref)
    : Prop where
  returned
    : ∀ id octets,
        activeKey id = .ok octets
        → ∃ (issuerId : BytesN 32) (key : BytesN 192),
            issuerId.val = id
            ∧ key.val = octets
            ∧ KycRegistry.activeKey world.ledger world.registry issuerId = .ok key
  refused
    : ∀ id cause,
        activeKey id = .error cause
        → decodeContractErrorCode objects cause = some (some registryIssuerNotFound)
        → ∃ issuerId : BytesN 32,
            issuerId.val = id
            ∧ KycRegistry.activeKey world.ledger world.registry issuerId
              = .error .issuerNotFound

variable {world later : KycRegistry.World}

-----------------------------------------------------------------------------------------
-- What a preflight says of the registry
-----------------------------------------------------------------------------------------

/-- The registry never answers with another key than the one it has stored. -/
theorem activeKey_later (shrinks : KycRegistry.Shrinks world later) {issuerId : BytesN 32}
    {key other : BytesN 192}
    (before : KycRegistry.activeKey world.ledger world.registry issuerId = .ok key)
    (after : KycRegistry.activeKey later.ledger later.registry issuerId = .ok other)
    : other = key := by
  obtain ⟨issuer, stored, -, rfl⟩ := KycRegistry.activeKey_eq_ok_iff.mp before
  obtain ⟨kept, still, -, rfl⟩ := KycRegistry.activeKey_eq_ok_iff.mp after
  obtain ⟨held, here, same, -⟩ := shrinks.issuer issuerId issuer stored
  obtain rfl := Option.some.inj (here.symm.trans still)
  exact same

section

variable {activeKey : ActiveKeyRead Ref} {notHex : Thrown Ref}
  {registryContractId issuerIdHex : JsString} {cause : Thrown Ref}

theorem bytesToHex_inj {left right : Bytes} (same : bytesToHex left = bytesToHex right)
    : left = right := by
  have read := congrArg hexToBytes same
  rw [hexToBytes_bytesToHex, hexToBytes_bytesToHex] at read
  exact Option.some.inj read

theorem readActiveKey_eq_ok {key : Bytes}
    (read : readActiveKey activeKey notHex issuerIdHex = .ok key)
    : ∃ issuerId, hexToBytes issuerIdHex = some issuerId ∧ activeKey issuerId = .ok key := by
  unfold readActiveKey at read
  split at read
  case h_1 => cases read
  case h_2 issuerId named => exact ⟨issuerId, named, read⟩

theorem readActiveKey_eq_error
    (read : readActiveKey activeKey notHex issuerIdHex = .error cause)
    : cause = notHex
      ∨ ∃ issuerId,
          hexToBytes issuerIdHex = some issuerId ∧ activeKey issuerId = .error cause := by
  unfold readActiveKey at read
  split at read
  case h_1 => exact .inl (Except.error.inj read).symm
  case h_2 issuerId named => exact .inr ⟨issuerId, named, read⟩

variable [DecidableEq Ref] {objects : Ref → ThrownObject Ref}

/-- Only the registry's own number makes the handler say that the issuer was not found. -/
theorem readFailure_issuerNotFound {error : IssuerPreflightError Ref}
    (thrown : readFailure objects registryContractId issuerIdHex cause = .preflight error)
    (notFound : error.issuerNotFound = true)
    : decodeContractErrorCode objects cause = some (some registryIssuerNotFound) := by
  unfold readFailure at thrown
  split at thrown
  case h_1 => cases thrown
  case h_2 code decoded =>
    split at thrown
    case isTrue same => rw [decoded, same]
    case isFalse =>
      split at thrown
      case h_1 => cases thrown
      case h_2 =>
        cases thrown
        cases notFound

end

section

variable [DecidableEq Ref] {objects : Ref → ThrownObject Ref} {curves : CurveLibrary}
  {activeKey : ActiveKeyRead Ref} {notHex : Thrown Ref}
  {registryContractId issuerIdHex : JsString} {issuerPublicKeyCompressed : Bytes}

theorem assertIssuerActive_eq_ok {keyHex : JsString}
    (passed
      : assertIssuerActive objects curves activeKey notHex registryContractId issuerIdHex
            issuerPublicKeyCompressed
          = .ok keyHex)
    : ∃ key,
        readActiveKey activeKey notHex issuerIdHex = .ok key
        ∧ decompressG2 curves issuerPublicKeyCompressed = .ok key
        ∧ keyHex = bytesToHex key := by
  unfold assertIssuerActive at passed
  split at passed
  case h_1 => cases passed
  case h_2 key read =>
    split at passed
    case h_1 => cases passed
    case h_2 expected local_ =>
      split at passed
      case isTrue => cases passed
      case isFalse same =>
        obtain rfl := bytesToHex_inj (not_not.mp same)
        exact ⟨key, read, local_, (Except.ok.inj passed).symm⟩

theorem assertIssuerActive_notFound {error : IssuerPreflightError Ref}
    (failed
      : assertIssuerActive objects curves activeKey notHex registryContractId issuerIdHex
            issuerPublicKeyCompressed
          = .error (.preflight error))
    (notFound : error.issuerNotFound = true)
    : ∃ cause,
        readActiveKey activeKey notHex issuerIdHex = .error cause
        ∧ decodeContractErrorCode objects cause = some (some registryIssuerNotFound) := by
  unfold assertIssuerActive at failed
  split at failed
  case h_1 cause read =>
    exact ⟨cause, read, readFailure_issuerNotFound (Except.error.inj failed) notFound⟩
  case h_2 =>
    split at failed
    case h_1 => cases failed
    case h_2 =>
      split at failed
      case isTrue =>
        cases failed
        cases notFound
      case isFalse => cases failed

end

/-- A preflight that passes has read the key that the local one decompresses to, and from then on
the registry answers with that key or refuses. One that says that the issuer was not found has
the registry's own refusal, which stands for an issuer that was ever registered.
-/
theorem preflight_stands [DecidableEq Ref] {objects : Ref → ThrownObject Ref}
    {curves : CurveLibrary} {activeKey : ActiveKeyRead Ref}
    {notHex : Thrown Ref} {registryContractId issuerIdHex : JsString}
    {issuerPublicKeyCompressed : Bytes} (mirrored : KycRegistry.Mirrored world)
    (answers : AnswersFor objects world activeKey)
    (malformed : decodeContractErrorCode objects notHex ≠ some (some registryIssuerNotFound))
    : (∀ keyHex,
        assertIssuerActive objects curves activeKey notHex registryContractId issuerIdHex
            issuerPublicKeyCompressed
          = .ok keyHex
        → ∃ (issuerId : BytesN 32) (key : BytesN 192),
            hexToBytes issuerIdHex = some issuerId.val
            ∧ decompressG2 curves issuerPublicKeyCompressed = .ok key.val
            ∧ keyHex = bytesToHex key.val
            ∧ KycRegistry.activeKey world.ledger world.registry issuerId = .ok key
            ∧ ∀ ops other,
                KycRegistry.activeKey
                    (KycRegistry.registryMachine.run world ops).ledger
                    (KycRegistry.registryMachine.run world ops).registry issuerId
                  = .ok other
                → other = key)
      ∧ ∀ error,
          assertIssuerActive objects curves activeKey notHex registryContractId issuerIdHex
              issuerPublicKeyCompressed
            = .error (.preflight error)
          → error.issuerNotFound = true
          → ∃ issuerId : BytesN 32,
              hexToBytes issuerIdHex = some issuerId.val
              ∧ KycRegistry.activeKey world.ledger world.registry issuerId
                = .error .issuerNotFound
              ∧ (issuerId ∈ KycRegistry.issuerIds world.registry
                → ∀ ops,
                    KycRegistry.activeKey
                        (KycRegistry.registryMachine.run world ops).ledger
                        (KycRegistry.registryMachine.run world ops).registry issuerId
                      = .error .issuerNotFound) := by
  refine ⟨fun keyHex passed => ?_, fun error failed notFound => ?_⟩
  · obtain ⟨octets, read, decompressed, rfl⟩ := assertIssuerActive_eq_ok passed
    obtain ⟨id, named, answered⟩ := readActiveKey_eq_ok read
    obtain ⟨issuerId, key, rfl, rfl, active⟩ := answers.returned id octets answered
    refine ⟨issuerId, key, named, decompressed, rfl, active, fun ops other still => ?_⟩
    exact activeKey_later (KycRegistry.shrinks_run mirrored ops) active still
  · obtain ⟨cause, read, decoded⟩ := assertIssuerActive_notFound failed notFound
    obtain rfl | ⟨id, named, answered⟩ := readActiveKey_eq_error read
    · exact absurd decoded malformed
    · obtain ⟨issuerId, rfl, refused⟩ := answers.refused id cause answered decoded
      refine ⟨issuerId, named, refused, fun registered ops => ?_⟩
      obtain ⟨issuer, stored⟩ :=
        Option.isSome_iff_exists.mp ((mirrored.listed issuerId).mp registered)
      exact (KycRegistry.shrinks_run mirrored ops).refused stored refused

-----------------------------------------------------------------------------------------
-- What a search says of the registry
-----------------------------------------------------------------------------------------

/-- An issuer that the search would take. -/
def IsSubstitute (world : KycRegistry.World) (issuerId : BytesN 32) : Prop :=
  ∃ key,
    KycRegistry.activeKey world.ledger world.registry issuerId = .ok key
    ∧ hasClearFlags key.val = true

theorem activeKey_refusal {issuerId : BytesN 32} {refusal : KycRegistry.Error}
    (refused : KycRegistry.activeKey world.ledger world.registry issuerId = .error refusal)
    : KycRegistry.activeKey world.ledger world.registry issuerId = .error .issuerNotFound := by
  cases refusal with
  | issuerNotFound => exact refused
  | alreadyInitialized | notInitialized | issuerAlreadyRegistered =>
      unfold KycRegistry.activeKey at refused
      split at refused
      case h_1 => cases refused
      case h_2 =>
        split at refused
        case isTrue => cases refused
        case isFalse => split at refused <;> cases refused

/-- A registered issuer that the search would not take is none that it would take later. -/
theorem notSubstitute_later (shrinks : KycRegistry.Shrinks world later) {issuerId : BytesN 32}
    {issuer : KycRegistry.Issuer} (stored : world.registry.issuers issuerId = some issuer)
    (unfit : ¬IsSubstitute world issuerId)
    : ¬IsSubstitute later issuerId := by
  rintro ⟨key, active, clear⟩
  cases before : KycRegistry.activeKey world.ledger world.registry issuerId with
  | ok first =>
      obtain rfl := activeKey_later shrinks before active
      exact unfit ⟨key, before, clear⟩
  | error refusal =>
      have refused := shrinks.refused stored (activeKey_refusal before)
      cases active.symm.trans refused

/-- One search while the registry goes on. World 0 lists the ids, and any operations may come
before each of the reads of a key.
-/
structure SearchRun [DecidableEq Ref] (objects : Ref → ThrownObject Ref)
    (worlds : Nat → KycRegistry.World) (reads : SubstituteReads Ref)
    : Prop where
  mirrored : KycRegistry.Mirrored (worlds 0)
  moves
    : ∀ read, ∃ ops, worlds (read + 1) = KycRegistry.registryMachine.run (worlds read) ops
  listed
    : ∀ ids,
        reads.issuerIds = .ok ids
        → ids = (KycRegistry.issuerIds (worlds 0).registry).map (·.val)
  answers : ∀ read, AnswersFor objects (worlds (read + 1)) (reads.activeKey read)

section

variable [DecidableEq Ref] {objects : Ref → ThrownObject Ref} {worlds : Nat → KycRegistry.World}
  {reads : SubstituteReads Ref} {excludeIssuerIdHex : JsString}

theorem SearchRun.mirrored_at (run : SearchRun objects worlds reads) (read : Nat)
    : KycRegistry.Mirrored (worlds read) := by
  induction read with
  | zero => exact run.mirrored
  | succ read ih =>
      obtain ⟨ops, moved⟩ := run.moves read
      rw [moved]
      exact KycRegistry.mirrored_preserved.run ih ops

theorem SearchRun.shrinks (run : SearchRun objects worlds reads) {read after : Nat}
    (order : read ≤ after)
    : KycRegistry.Shrinks (worlds read) (worlds after) := by
  induction order with
  | refl => exact .refl _
  | step _ ih =>
      obtain ⟨ops, moved⟩ := run.moves _
      rw [moved]
      exact ih.trans (KycRegistry.shrinks_run (run.mirrored_at _) ops)

/-- What the search passes over at one read, it could not have taken later either. -/
theorem SearchRun.passed_over (run : SearchRun objects worlds reads) {issuerId : BytesN 32}
    (registered : issuerId ∈ KycRegistry.issuerIds (worlds 0).registry) {read after : Nat}
    (passed : ¬IsSubstitute (worlds (read + 1)) issuerId) (order : read + 1 ≤ after)
    : ¬IsSubstitute (worlds after) issuerId := by
  obtain ⟨issuer, stored⟩ :=
    Option.isSome_iff_exists.mp ((run.mirrored.listed issuerId).mp registered)
  obtain ⟨kept, still, -⟩ := (run.shrinks (Nat.zero_le (read + 1))).issuer issuerId issuer stored
  exact notSubstitute_later (run.shrinks order) still passed

/-- A key with a set flag is no substitute's. -/
theorem AnswersFor.notSubstitute_of_flags {activeKey : ActiveKeyRead Ref}
    (answers : AnswersFor objects world activeKey) {issuerId : BytesN 32} {key : Bytes}
    (answered : activeKey issuerId.val = .ok key) (flagged : ¬hasClearFlags key = true)
    : ¬IsSubstitute world issuerId := by
  obtain ⟨same, found, named, rfl, active⟩ := answers.returned _ _ answered
  obtain rfl := Subtype.ext named
  rintro ⟨other, held, clear⟩
  obtain rfl := Except.ok.inj (active.symm.trans held)
  exact flagged clear

theorem AnswersFor.notSubstitute_of_refusal {activeKey : ActiveKeyRead Ref}
    (answers : AnswersFor objects world activeKey) {issuerId : BytesN 32} {cause : Thrown Ref}
    (answered : activeKey issuerId.val = .error cause)
    (decoded : decodeContractErrorCode objects cause = some (some registryIssuerNotFound))
    : ¬IsSubstitute world issuerId := by
  obtain ⟨same, named, refused⟩ := answers.refused _ _ answered decoded
  obtain rfl := Subtype.ext named
  rintro ⟨other, held, -⟩
  cases refused.symm.trans held

/-- One id of the walk is skipped, passed over or taken. -/
theorem SearchRun.walk_cases (run : SearchRun objects worlds reads) {issuerId : BytesN 32}
    {read : Nat} {rest : List Bytes} {found : Option JsString}
    (walked
      : walkIssuers objects reads.activeKey excludeIssuerIdHex read (issuerId.val :: rest)
          = .ok found)
    : (bytesToHex issuerId.val = excludeIssuerIdHex
        ∧ walkIssuers objects reads.activeKey excludeIssuerIdHex read rest = .ok found)
      ∨ bytesToHex issuerId.val ≠ excludeIssuerIdHex
        ∧ ((¬IsSubstitute (worlds (read + 1)) issuerId
            ∧ walkIssuers objects reads.activeKey excludeIssuerIdHex (read + 1) rest = .ok found)
          ∨ (IsSubstitute (worlds (read + 1)) issuerId
            ∧ found = some (bytesToHex issuerId.val))) := by
  rw [walkIssuers] at walked
  split at walked
  case isTrue excluded => exact .inl ⟨excluded, walked⟩
  case isFalse other =>
    refine .inr ⟨other, ?_⟩
    split at walked
    case h_1 cause answered =>
      split at walked
      case h_1 => cases walked
      case h_2 code decoded =>
        split at walked
        case isTrue same =>
          rw [same] at decoded
          exact .inl ⟨(run.answers read).notSubstitute_of_refusal answered decoded, walked⟩
        case isFalse => cases walked
    case h_2 key answered =>
      split at walked
      case isTrue clear =>
        obtain ⟨same, held, named, rfl, active⟩ := (run.answers read).returned _ _ answered
        obtain rfl := Subtype.ext named
        exact .inr ⟨⟨held, active, clear⟩, (Except.ok.inj walked).symm⟩
      case isFalse flagged =>
        exact .inl ⟨(run.answers read).notSubstitute_of_flags answered flagged, walked⟩

/-- By induction on the ids still to walk. -/
theorem SearchRun.walk_none (run : SearchRun objects worlds reads) {ids : List (BytesN 32)}
    (registered : ∀ issuerId ∈ ids, issuerId ∈ KycRegistry.issuerIds (worlds 0).registry)
    {read : Nat}
    (walked
      : walkIssuers objects reads.activeKey excludeIssuerIdHex read (ids.map (·.val)) = .ok none)
    : ∀ issuerId ∈ ids,
        bytesToHex issuerId.val ≠ excludeIssuerIdHex
        → ∀ after, read + ids.length ≤ after → ¬IsSubstitute (worlds after) issuerId := by
  induction ids generalizing read with
  | nil =>
      intro issuerId member
      cases member
  | cons head rest ih =>
      have others {next : Nat} := @ih (fun id member => registered id (.tail _ member)) next
      intro issuerId member other after order
      rw [List.length_cons] at order
      rcases run.walk_cases walked with ⟨excluded, onward⟩ | ⟨-, ⟨unfit, onward⟩ | ⟨-, taken⟩⟩
      · rcases List.mem_cons.mp member with rfl | member
        · exact absurd excluded other
        · exact others onward issuerId member other after (by omega)
      · rcases List.mem_cons.mp member with rfl | member
        · exact run.passed_over (registered _ List.mem_cons_self) unfit (by omega)
        · exact others onward issuerId member other after (by omega)
      · cases taken

/-- By induction on the ids still to walk. -/
theorem SearchRun.walk_some (run : SearchRun objects worlds reads) {ids : List (BytesN 32)}
    (registered : ∀ issuerId ∈ ids, issuerId ∈ KycRegistry.issuerIds (worlds 0).registry)
    {read : Nat} {found : JsString}
    (walked
      : walkIssuers objects reads.activeKey excludeIssuerIdHex read (ids.map (·.val))
          = .ok (some found))
    : ∃ passed issuerId rest last,
        ids = passed ++ issuerId :: rest
        ∧ found = bytesToHex issuerId.val
        ∧ found ≠ excludeIssuerIdHex
        ∧ read ≤ last
        ∧ last ≤ read + passed.length
        ∧ IsSubstitute (worlds (last + 1)) issuerId
        ∧ ∀ other ∈ passed,
            bytesToHex other.val ≠ excludeIssuerIdHex
            → ∀ after, last + 1 ≤ after → ¬IsSubstitute (worlds after) other := by
  induction ids generalizing read with
  | nil => cases walked
  | cons head rest ih =>
      have others {next : Nat} := @ih (fun id member => registered id (.tail _ member)) next
      rcases run.walk_cases walked with ⟨excluded, onward⟩ | ⟨own, ⟨unfit, onward⟩ | ⟨fit, taken⟩⟩
      · obtain ⟨passed, issuerId, later, last, rfl, named, other, low, high, fit, unfit⟩ :=
          others onward
        refine ⟨head :: passed, issuerId, later, last, rfl, named, other, low, ?_, fit, ?_⟩
        · rw [List.length_cons]
          omega
        · intro before member distinct
          rcases List.mem_cons.mp member with rfl | member
          · exact absurd excluded distinct
          · exact unfit before member distinct
      · obtain ⟨passed, issuerId, later, last, rfl, named, other, low, high, fit, rejected⟩ :=
          others onward
        refine ⟨head :: passed, issuerId, later, last, rfl, named, other, by omega, ?_, fit, ?_⟩
        · rw [List.length_cons]
          omega
        · intro before member distinct after order
          rcases List.mem_cons.mp member with rfl | member
          · exact run.passed_over (registered _ List.mem_cons_self) unfit (by omega)
          · exact rejected before member distinct after order
      · obtain rfl := Option.some.inj taken
        exact
          ⟨[], head, rest, read, rfl, rfl, own, le_rfl, le_rfl, fit,
            fun _ member => absurd member List.not_mem_nil⟩

end

/-- A search that names an issuer names one that could be used when its key was read, and none of
those listed before it can be used from then on. A search that finds none has passed over every
other issuer for good.
-/
theorem substitute_stands [DecidableEq Ref] {objects : Ref → ThrownObject Ref}
    {worlds : Nat → KycRegistry.World} {reads : SubstituteReads Ref}
    (run : SearchRun objects worlds reads) (excludeIssuerIdHex : JsString)
    : (∀ found,
        findSubstituteIssuer objects reads excludeIssuerIdHex = .ok (some found)
        → ∃ passed issuerId rest read,
            KycRegistry.issuerIds (worlds 0).registry = passed ++ issuerId :: rest
            ∧ found = bytesToHex issuerId.val
            ∧ found ≠ excludeIssuerIdHex
            ∧ read ≤ passed.length
            ∧ IsSubstitute (worlds (read + 1)) issuerId
            ∧ ∀ other ∈ passed,
                bytesToHex other.val ≠ excludeIssuerIdHex
                → ∀ after, read + 1 ≤ after → ¬IsSubstitute (worlds after) other)
      ∧ (findSubstituteIssuer objects reads excludeIssuerIdHex = .ok none
        → ∀ issuerId ∈ KycRegistry.issuerIds (worlds 0).registry,
            bytesToHex issuerId.val ≠ excludeIssuerIdHex
            → ∀ after,
                (KycRegistry.issuerIds (worlds 0).registry).length ≤ after
                → ¬IsSubstitute (worlds after) issuerId) := by
  unfold findSubstituteIssuer
  cases answered : reads.issuerIds with
  | error cause =>
      constructor
      · intro found failed
        cases failed
      · intro failed
        cases failed
  | ok ids =>
      obtain rfl := run.listed ids answered
      constructor
      · intro found walked
        obtain ⟨passed, issuerId, rest, read, listed, named, other, -, high, fit, unfit⟩ :=
          run.walk_some (fun _ => id) walked
        exact ⟨passed, issuerId, rest, read, listed, named, other, by omega, fit, unfit⟩
      · intro walked issuerId member other after order
        exact run.walk_none (fun _ => id) walked issuerId member other after (by omega)

-----------------------------------------------------------------------------------------
-- A registry with a revoked issuer and one in use
-----------------------------------------------------------------------------------------

namespace PreflightSample

open StellarOnramp.KycGate.Bbs (p2Uncompressed g2Compress)

theorem admin_valid : Soroban.isStrkey (71 :: List.replicate 55 65) = true := by decide

def admin : Soroban.Address := ⟨71 :: List.replicate 55 65, admin_valid⟩

def revokedId : BytesN 32 := zeroBytes 32

def ownId : BytesN 32 := ⟨List.replicate 32 1, List.length_replicate⟩

def usedId : BytesN 32 := ⟨List.replicate 32 2, List.length_replicate⟩

def standing : KycRegistry.World :=
  let auth := fun address => address = admin
  KycRegistry.registryMachine.run (.genesis { sequence := 1, timestamp := 0 })
    [
      .init auth admin,
      .registerIssuer auth revokedId (zeroBytes 192) 0,
      .registerIssuer auth ownId p2Uncompressed 0,
      .registerIssuer auth usedId p2Uncompressed 0,
      .revokeIssuer auth revokedId
    ]

theorem mirrored : KycRegistry.Mirrored standing :=
  KycRegistry.mirrored_preserved.run (KycRegistry.mirrored_genesis _) _

def refusal : Thrown Empty := .str (js "HostError: Error(Contract, #3)")

def notBytes : Thrown Empty := .str (js "hex string expected")

/-- A simulation that is answered by the contract itself. -/
def simulated : ActiveKeyRead Empty := fun octets =>
  if sized : octets.length = 32 then
    match KycRegistry.activeKey standing.ledger standing.registry ⟨octets, sized⟩ with
    | .error _ => .error refusal
    | .ok key => .ok key.val
  else
    .error notBytes

theorem answersFor_simulated : AnswersFor Empty.elim standing simulated where
  returned := by
    intro id octets answered
    unfold simulated at answered
    split at answered
    case isTrue sized =>
      split at answered
      case h_1 => cases answered
      case h_2 key active => exact ⟨⟨id, sized⟩, key, rfl, Except.ok.inj answered, active⟩
    case isFalse => cases answered
  refused := by
    intro id cause answered decoded
    unfold simulated at answered
    split at answered
    case isTrue sized =>
      split at answered
      case h_1 refused => exact ⟨⟨id, sized⟩, rfl, activeKey_refusal refused⟩
      case h_2 => cases answered
    case isFalse =>
      obtain rfl := Except.error.inj answered
      cases decoded.symm.trans (by decide +kernel : _ = some none)

/-- The curve library on the generator of the second group. -/
def curves : CurveLibrary where
  g1 _ := none
  g2 compressed :=
    let part (skipped : Nat) : Nat := beNat ((p2Uncompressed.val.drop skipped).take 48)
    if compressed = g2Compress p2Uncompressed then
      some
        (⟨⟨part 48, by decide +kernel⟩, ⟨part 0, by decide +kernel⟩⟩,
          ⟨⟨part 144, by decide +kernel⟩, ⟨part 96, by decide +kernel⟩⟩)
    else
      none

end PreflightSample

open PreflightSample in
theorem preflight_stands_sample
    : ∃ (issuerId : BytesN 32) (key : BytesN 192),
        hexToBytes (bytesToHex usedId.val) = some issuerId.val
        ∧ decompressG2 curves (KycGate.Bbs.g2Compress KycGate.Bbs.p2Uncompressed) = .ok key.val
        ∧ bytesToHex KycGate.Bbs.p2Uncompressed.val = bytesToHex key.val
        ∧ KycRegistry.activeKey standing.ledger standing.registry issuerId = .ok key
        ∧ ∀ ops other,
            KycRegistry.activeKey
                (KycRegistry.registryMachine.run standing ops).ledger
                (KycRegistry.registryMachine.run standing ops).registry issuerId
              = .ok other
            → other = key := by
  have read : readActiveKey simulated notBytes (bytesToHex usedId.val)
      = .ok KycGate.Bbs.p2Uncompressed.val := by
    rw [readActiveKey, hexToBytes_bytesToHex]
    rfl
  have point : decompressG2 curves (KycGate.Bbs.g2Compress KycGate.Bbs.p2Uncompressed)
      = .ok KycGate.Bbs.p2Uncompressed.val := by
    decide +kernel
  have malformed : decodeContractErrorCode Empty.elim notBytes
      ≠ some (some registryIssuerNotFound) := by
    decide +kernel
  have passed : assertIssuerActive Empty.elim curves simulated notBytes (js "CREGISTRY")
      (bytesToHex usedId.val) (KycGate.Bbs.g2Compress KycGate.Bbs.p2Uncompressed)
      = .ok (bytesToHex KycGate.Bbs.p2Uncompressed.val) := by
    simp only [assertIssuerActive, read, point, ne_eq, not_true_eq_false, ↓reduceIte]
  exact (preflight_stands mirrored answersFor_simulated malformed).1 _ passed

open PreflightSample in
theorem substitute_stands_sample
    : ∃ passed issuerId rest read,
        KycRegistry.issuerIds standing.registry = passed ++ issuerId :: rest
        ∧ bytesToHex usedId.val = bytesToHex issuerId.val
        ∧ bytesToHex usedId.val ≠ bytesToHex ownId.val
        ∧ read ≤ passed.length
        ∧ IsSubstitute standing issuerId
        ∧ ∀ other ∈ passed,
            bytesToHex other.val ≠ bytesToHex ownId.val
            → ∀ after, read + 1 ≤ after → ¬IsSubstitute standing other := by
  let reads : SubstituteReads Empty :=
    {
      issuerIds := .ok [revokedId.val, ownId.val, usedId.val]
      activeKey := fun _ => simulated
    }
  have run : SearchRun Empty.elim (fun _ => standing) reads :=
    {
      mirrored
      moves := fun _ => ⟨[], rfl⟩
      listed := fun ids listed => (Except.ok.inj listed).symm
      answers := fun _ => answersFor_simulated
    }
  exact (substitute_stands run (bytesToHex ownId.val)).1 _ (by decide +kernel)

end StellarOnramp.Sdk
