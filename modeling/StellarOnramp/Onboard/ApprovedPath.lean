import Mathlib.Data.Nat.Bitwise
import StellarOnramp.Gateway.PiiDetector
import StellarOnramp.Onboard.PortalRequests
import StellarOnramp.Sdk.HonestAttestation

/-! The approved run from its proof on: the scan for personal data, the attestation and the
check on chain. The scan looks for one fixed claim as its control, whether or not the holder
disclosed it.
-/

namespace StellarOnramp.Onboard

open Attempts Gateway Identity JsText Octets TextSearch
open StellarOnramp.Gateway.Pii (PiiEncoding candidates findEncodings)
open StellarOnramp.Sdk (deriveGrantedClaims)

-----------------------------------------------------------------------------------------
-- The steps
-----------------------------------------------------------------------------------------

/-- The strings of a serialized proof. -/
def stringLeaves (proof : Proof) : List JsString :=
  [proof.schemaVersion, bytesToHex proof.proof]
    ++ proof.disclosedMessages
    ++ [
      proof.binding.nonce,
      proof.binding.walletAddress,
      proof.binding.contractId,
      proof.binding.networkPassphrase
    ]

def textLeaves (proof : Proof) : Bytes := utf8ToBytes (join 10 (stringLeaves proof))

/-- The control of the scan, for the value that the claim has. -/
def scanControl (over18 : Bool) : JsString :=
  js "over18=" ++ (if over18 then js "true" else js "false")

/-- What stops the run; `emptyClaims` is a refusal of the contract. -/
inductive ApprovedFailure where
  | piiLeaked (dobHits documentHits : List PiiEncoding)
  | controlNotFound (control : JsString)
  | emptyClaims
  | checkMismatch (label : JsString) (got want : Bool)
  deriving DecidableEq

def scanProof (sha256 : Bytes → BytesN 32) (claims : ClaimSet) (applicant : Applicant)
    (proof : Proof)
    : Except ApprovedFailure Unit := do
  let leaves := textLeaves proof
  let dobHits := findEncodings sha256 leaves applicant.dateOfBirth
  let documentHits := findEncodings sha256 leaves applicant.documentNumber
  failIf (dobHits ≠ [] ∨ documentHits ≠ []) (.piiLeaked dobHits documentHits)
  let control := scanControl claims.over18
  failIf (findEncodings sha256 leaves control = []) (.controlNotFound control)

/-- The record of a contract that takes a proof for what it is: the bitmap, if it has a bit. -/
def attestBbs (claimsBitmap : Nat) : Except ApprovedFailure Nat := do
  failIf (claimsBitmap = 0) .emptyClaims
  .ok claimsBitmap

/-- The contract's answer while the record is live. -/
def check (record requested : Nat) : Bool := record &&& requested == requested

def expectCheck (label : JsString) (got want : Bool) : Except ApprovedFailure Unit :=
  failIf (got ≠ want) (.checkMismatch label got want)

/-- The steps after the proof, with the bitmap that the run reports. -/
def afterProof (sha256 : Bytes → BytesN 32) (disclose : List ClaimName) (claims : ClaimSet)
    (applicant : Applicant) (proof : Proof)
    : Except ApprovedFailure Nat := do
  scanProof sha256 claims applicant proof
  let attestedBitmap := deriveGrantedClaims proof.disclosedIndexes proof.disclosedMessages
  let record ← attestBbs attestedBitmap
  let checkOver18 := check record claimOver18
  let checkOver21 := check record claimOver21
  expectCheck (js "OVER_18") checkOver18 (decide (.over18 ∈ disclose) && claims.over18)
  expectCheck (js "OVER_21") checkOver21 (decide (.over21 ∈ disclose) && claims.over21)
  .ok attestedBitmap

/-- The claims that a run signs, with the proof that it derives for a list. -/
structure ApprovedRun (disclose : List ClaimName) (claims : ClaimSet) where
  sha256 : Bytes → BytesN 32
  bbs : BbsLibrary
  secretKey : Bytes
  credential : Credential
  predicate : Predicate
  binding : ProofBinding
  proof : Proof
  issued : Identity.Issued bbs (fun octets => (sha256 octets).val) secretKey credential
  signs : ∀ name ∈ booleanClaimNames, credential.claims.value name = .boolean (claims.value name)
  requested : gatePredicateFor disclose = .ok predicate
  proved
    : prove bbs (fun octets => (sha256 octets).val) credential predicate binding = .ok proof

-----------------------------------------------------------------------------------------
-- The chain is the gate
-----------------------------------------------------------------------------------------

section

variable {env : KycGate.Env} {ledger : Soroban.Ledger} {activeKey : KycGate.RegistryView}
  {state after : KycGate.State} {args : KycGate.AttestArgs} {granted : UInt32}

/-- The gate refuses an empty bitmap before it looks at anything else. -/
theorem attestBbs_empty (env : KycGate.Env) (ledger : Soroban.Ledger)
    (activeKey : KycGate.RegistryView) (state : KycGate.State) (empty : args.claims = 0)
    : attestBbs args.claims.toNat = .error .emptyClaims
      ∧ KycGate.attestBbs env ledger activeKey state args = .error (.error .emptyClaims) := by
  rw [KycGate.attestBbs, empty]
  exact ⟨rfl, rfl⟩

/-- What the gate records of a call that it accepts. -/
theorem attestBbs_of_gate
    (accepted : KycGate.attestBbs env ledger activeKey state args = .ok (after, granted))
    : attestBbs args.claims.toNat = .ok granted.toNat := by
  obtain ⟨accepts, -, rfl⟩ := KycGate.accepts_of_attestBbs accepted
  have nonzero : args.claims.toNat ≠ 0 := fun empty =>
    accepts.claimed (UInt32.toNat_inj.mp empty)
  exact bind_eq_ok.mpr ⟨(), failIf_eq_ok.mpr nonzero, rfl⟩

/-- What the gate answers while the record is live. -/
theorem check_of_gate
    (accepted : KycGate.attestBbs env ledger activeKey state args = .ok (after, granted))
    {later : Soroban.Ledger} (live : later.sequence.toNat ≤ args.expiresAt.toNat)
    {mask : UInt32} (asked : mask ≠ 0)
    : KycGate.check later after args.subject mask = check granted.toNat mask.toNat := by
  obtain ⟨-, rfl, rfl⟩ := KycGate.accepts_of_attestBbs accepted
  have masked
      : args.claims &&& mask = mask ↔ args.claims.toNat &&& mask.toNat = mask.toNat := by
    rw [← UInt32.toNat_inj, UInt32.toNat_and]
  rw [Bool.eq_iff_iff, KycGate.check_eq_true_iff, check, beq_iff_eq, ← masked,
    and_iff_right asked]
  simp [KycGate.recordAttestation, KycGate.readClaim, KycGate.writeClaim, KycGate.bumpInstance,
    live]

/-- Where the gate accepts the call with the bitmap of the proof, the steps after the proof are
those with the gate's own answers.
-/
theorem afterProof_of_gate
    (accepted : KycGate.attestBbs env ledger activeKey state args = .ok (after, granted))
    {later : Soroban.Ledger} (live : later.sequence.toNat ≤ args.expiresAt.toNat)
    {proof : Proof}
    (asked
      : args.claims.toNat = deriveGrantedClaims proof.disclosedIndexes proof.disclosedMessages)
    (sha256 : Bytes → BytesN 32) (disclose : List ClaimName) (claims : ClaimSet)
    (applicant : Applicant)
    : afterProof sha256 disclose claims applicant proof
      = (do
          scanProof sha256 claims applicant proof
          expectCheck (js "OVER_18") (KycGate.check later after args.subject 1)
            (decide (.over18 ∈ disclose) && claims.over18)
          expectCheck (js "OVER_21") (KycGate.check later after args.subject 2)
            (decide (.over21 ∈ disclose) && claims.over21)
          .ok granted.toNat) := by
  obtain ⟨-, -, same⟩ := KycGate.accepts_of_attestBbs accepted
  have recorded := attestBbs_of_gate accepted
  rw [check_of_gate accepted live (by decide), check_of_gate accepted live (by decide)]
  subst same
  rw [asked] at recorded
  simp only [afterProof, recorded, asked]
  rfl

end

-----------------------------------------------------------------------------------------
-- What the list decides
-----------------------------------------------------------------------------------------

section

variable {disclose : List ClaimName} {claims : ClaimSet}

theorem ApprovedRun.derived (run : ApprovedRun disclose claims)
    : Derived run.bbs (fun octets => (run.sha256 octets).val) run.credential
        run.predicate.disclose run.proof :=
  (derive_eq_ok run.proved).2

/-- A bit of the record is a disclosed claim that is true. -/
theorem ApprovedRun.granted_testBit_iff (run : ApprovedRun disclose claims) (position : Nat)
    : (deriveGrantedClaims run.proof.disclosedIndexes run.proof.disclosedMessages).testBit
          position
        = true
      ↔ ∃ name ∈ disclose, ∃ bit,
          claimBitByName name = some bit
          ∧ bit.testBit position = true
          ∧ claims.value name = true := by
  rw [Sdk.granted_testBit_iff run.issued run.requested run.derived]
  refine exists_congr fun name => and_congr_right fun _ => ?_
  refine exists_congr fun bit => and_congr_right fun carried => and_congr_right fun _ => ?_
  have boolean (name : ClaimName) (carried : (claimBitByName name).isSome = true)
      : name ∈ booleanClaimNames := by
    revert carried
    cases name <;> decide
  rw [run.signs name (boolean name (carried ▸ rfl)), ClaimValue.boolean.injEq]

theorem exists_position {name : ClaimName} {bit : Nat} (carried : claimBitByName name = some bit)
    : ∃ position, bit = 2 ^ position := by
  cases name with
  | over18 => exact ⟨0, (Option.some.inj carried).symm⟩
  | over21 => exact ⟨1, (Option.some.inj carried).symm⟩
  | notSanctioned => exact ⟨2, (Option.some.inj carried).symm⟩
  | jurisdictionOk => exact ⟨3, (Option.some.inj carried).symm⟩
  | _ => cases carried

theorem carried_unique {left right : ClaimName} {bit : Nat}
    (carried : claimBitByName left = some bit) (also : claimBitByName right = some bit)
    : left = right := by
  have same := carried.trans also.symm
  cases left <;> cases right <;> first
    | rfl
    | exact absurd same (by decide)
    | cases carried

/-- A claim that the chain carries is answered by whether it was disclosed and is true. -/
theorem ApprovedRun.check_eq (run : ApprovedRun disclose claims) {name : ClaimName}
    {position : Nat} (carried : claimBitByName name = some (2 ^ position))
    : check (deriveGrantedClaims run.proof.disclosedIndexes run.proof.disclosedMessages)
          (2 ^ position)
        = (decide (name ∈ disclose) && claims.value name) := by
  have granted := run.granted_testBit_iff position
  rw [Bool.eq_iff_iff, check, beq_iff_eq, Nat.and_comm, Nat.two_pow_and, Bool.and_eq_true,
    decide_eq_true_iff]
  constructor
  · intro covered
    have set : (deriveGrantedClaims run.proof.disclosedIndexes
        run.proof.disclosedMessages).testBit position = true := by
      by_contra unset
      rw [Bool.not_eq_true] at unset
      rw [unset, Bool.toNat_false, Nat.mul_zero] at covered
      exact absurd covered (Nat.two_pow_pos position).ne
    obtain ⟨other, chosen, bit, found, placed, held⟩ := granted.mp set
    obtain ⟨place, rfl⟩ := exists_position found
    obtain rfl : place = position := by
      rw [Nat.testBit_two_pow, decide_eq_true_iff] at placed
      exact placed
    obtain rfl := carried_unique found carried
    exact ⟨chosen, held⟩
  · rintro ⟨chosen, held⟩
    rw [granted.mpr ⟨name, chosen, _, carried, Nat.testBit_two_pow_self, held⟩]
    simp

/-- The bitmap has a bit where a disclosed claim that the chain carries is true. -/
theorem ApprovedRun.bitmap_ne_zero (run : ApprovedRun disclose claims)
    (granted : ∃ name ∈ disclose, name ∈ chainBackedClaims ∧ claims.value name = true)
    : deriveGrantedClaims run.proof.disclosedIndexes run.proof.disclosedMessages ≠ 0 := by
  obtain ⟨name, chosen, backed, held⟩ := granted
  have carried : ∃ bit, claimBitByName name = some bit := by
    simp only [chainBackedClaims, List.mem_cons, List.not_mem_nil, or_false] at backed
    rcases backed with rfl | rfl | rfl | rfl <;> exact ⟨_, rfl⟩
  obtain ⟨bit, carried⟩ := carried
  obtain ⟨position, rfl⟩ := exists_position carried
  have set := (run.granted_testBit_iff position).mpr
    ⟨name, chosen, _, carried, Nat.testBit_two_pow_self, held⟩
  intro empty
  rw [empty, Nat.zero_testBit] at set
  cases set

/-- The control is found where the claim was disclosed. -/
theorem ApprovedRun.control_found (run : ApprovedRun disclose claims)
    (chosen : .over18 ∈ disclose)
    : findEncodings run.sha256 (textLeaves run.proof) (scanControl claims.over18) ≠ [] := by
  have asked : (claimIndex .over18 : Number) ∈ run.predicate.disclose :=
    ((gatePredicateFor_disclose run.requested).2.2 _).mpr (.inr ⟨_, chosen, rfl⟩)
  obtain ⟨text, encoded, message⟩ := (encodeClaims_eq_ok run.issued.encoded).2 .over18
  rw [run.signs .over18 (by decide)] at encoded
  obtain rfl := Except.ok.inj encoded
  have shown : scanControl claims.over18 ∈ run.proof.disclosedMessages :=
    (List.of_mem_zip (run.derived.message asked message)).2
  have leaf : scanControl claims.over18 ∈ stringLeaves run.proof :=
    List.mem_append_left _ (List.mem_append_right _ shown)
  refine (Pii.findEncodings_ne_nil (List.append_ne_nil_of_left_ne_nil (by decide) _)).mpr
    ⟨_, List.mem_cons_self, ?_⟩
  have written : textLeaves run.proof = join 10 ((stringLeaves run.proof).map utf8ToBytes) :=
    utf8ToBytes_join (by decide) _
  rw [written]
  exact infix_join (List.mem_map_of_mem leaf)

/-- The steps after the proof succeed where nothing personal is found, the control is, the bitmap
has a bit and both answers are the expected ones.
-/
theorem afterProof_isOk_iff {sha256 : Bytes → BytesN 32} {applicant : Applicant} {proof : Proof}
    : (∃ bitmap, afterProof sha256 disclose claims applicant proof = .ok bitmap)
      ↔ findEncodings sha256 (textLeaves proof) applicant.dateOfBirth = []
        ∧ findEncodings sha256 (textLeaves proof) applicant.documentNumber = []
        ∧ findEncodings sha256 (textLeaves proof) (scanControl claims.over18) ≠ []
        ∧ deriveGrantedClaims proof.disclosedIndexes proof.disclosedMessages ≠ 0
        ∧ check (deriveGrantedClaims proof.disclosedIndexes proof.disclosedMessages) claimOver18
            = (decide (.over18 ∈ disclose) && claims.over18)
        ∧ check (deriveGrantedClaims proof.disclosedIndexes proof.disclosedMessages) claimOver21
            = (decide (.over21 ∈ disclose) && claims.over21) := by
  simp only [afterProof, scanProof, attestBbs, expectCheck, bind_assoc, bind_eq_ok, failIf_eq_ok,
    exists_const, Except.ok.injEq]
  simp only [not_or, ne_eq, not_not, exists_eq_left', exists_and_left, exists_eq', and_true,
    and_assoc]

end

-----------------------------------------------------------------------------------------
-- A run for every list
-----------------------------------------------------------------------------------------

namespace PlainRun

/-- The text of a claim, for the value that it has if it is a boolean. -/
def text (value : Bool) : ClaimName → JsString
  | .schemaVersion => schemaVersion
  | .issuerId => bytesToHex (zeroBytes 32).val
  | .revocationIndex => numberText 7
  | .issuedAt => numberText 0
  | .expiresAt => numberText 600
  | .subjectBinding => bytesToHex (zeroBytes 32).val
  | _ => if value then js "true" else js "false"

def message (value : Bool) (name : ClaimName) : JsString :=
  ofOctets name.text ++ js "=" ++ text value name

def kycClaims (claims : ClaimSet) : KycClaims where
  schemaVersion := schemaVersion
  issuerId := bytesToHex (zeroBytes 32).val
  revocationIndex := 7
  issuedAt := 0
  expiresAt := 600
  subjectBinding := bytesToHex (zeroBytes 32).val
  over18 := claims.over18
  over21 := claims.over21
  notSanctioned := claims.notSanctioned
  notPep := claims.notPep
  jurisdictionOk := claims.jurisdictionOk
  livenessOk := claims.livenessOk

def sha256 : Bytes → BytesN 32 := fun _ => zeroBytes 32

/-- Every octet of a proof is zero. -/
def bbs : BbsLibrary where
  secretKeyToPublicKey _ := some []
  sign _ _ _ _ := some []
  deriveProof _ _ _ messages _ indexes :=
    some (List.replicate (272 + 32 * (messages.length - indexes.length)) 0)

def credential (claims : ClaimSet) : Credential where
  schemaVersion := schemaVersion
  messages := claimSpecs.map (fun spec => message (claims.value spec.name) spec.name)
  signature := []
  issuerPublicKey := []
  claims := kycClaims claims

def binding : ProofBinding where
  nonce := bytesToHex (zeroBytes 32).val
  walletAddress := js "GAAAAAAAAAAAAAAAAAAAAAAAAAAAAAAAAAAAAAAAAAAAAAAAAAAAAAAA"
  contractId := js "CAAAAAAAAAAAAAAAAAAAAAAAAAAAAAAAAAAAAAAAAAAAAAAAAAAAAAAA"
  networkPassphrase := js "Test SDF Network ; September 2015"
  ledgerExpiry := 1720

def proof (claims : ClaimSet) (predicate : Predicate) : Proof :=
  let indexes := predicate.disclose.insertionSort (fun left right => left ≤ right)
  {
    schemaVersion
    proof := List.replicate (272 + 32 * (12 - indexes.length)) 0
    disclosedIndexes := indexes
    disclosedMessages :=
      indexes.map (fun index => (credential claims).messages.getD index.toNat [])
    totalMessages := 12
    binding
  }

def applicant : Applicant where
  givenName := js "Ada"
  familyName := js "Byron"
  dateOfBirth := js "1990-05-04"
  documentNumber := js "P1234567"
  residenceCountry := js "GB"

theorem issued (claims : ClaimSet)
    : Identity.Issued bbs (fun octets => (sha256 octets).val) [] (credential claims) where
  encoded := by
    refine mapM_eq_ok.mpr ?_
    rw [credential, List.map_map]
    refine List.map_congr_left fun spec _ => encodeClaim_eq_ok.mpr ⟨_, ?_, rfl⟩
    have index : encodeValue (claimSpec .revocationIndex) (.number 7) = .ok (numberText 7) := by
      decide
    have start : encodeValue (claimSpec .issuedAt) (.number 0) = .ok (numberText 0) := by
      decide
    have finish : encodeValue (claimSpec .expiresAt) (.number 600) = .ok (numberText 600) := by
      decide
    cases spec.name with
    | revocationIndex => exact index
    | issuedAt => exact start
    | expiresAt => exact finish
    | _ => rfl
  keyed := rfl
  named := rfl
  signed := rfl

theorem messages_getElem? (claims : ClaimSet) (name : ClaimName)
    : (credential claims).messages[claimIndex name]? = some (message (claims.value name) name) := by
  rw [credential, List.getElem?_map, claimSpecs_getElem?]
  rfl

/-- An index of the request is that of a claim, which was asked for or is metadata. -/
theorem exists_name {names : List ClaimName} {predicate : Predicate} {index : Number}
    (requested : gatePredicateFor names = .ok predicate) (member : index ∈ predicate.disclose)
    : ∃ name,
        index = (claimIndex name : Number)
        ∧ (name ∈ names ∨ (claimIndex name : Number) ∈ credentialAudit.disclose) := by
  rcases ((gatePredicateFor_disclose requested).2.2 index).mp member with
    metadata | ⟨name, asked, rfl⟩
  · have known : ∃ name, index = (claimIndex name : Number) := by
      simp only [credentialAudit, List.mem_cons, List.not_mem_nil, or_false] at metadata
      rcases metadata with rfl | rfl | rfl | rfl | rfl | rfl <;> exact ⟨_, rfl⟩
    obtain ⟨name, rfl⟩ := known
    exact ⟨name, rfl, .inr metadata⟩
  · exact ⟨name, rfl, .inl asked⟩

/-- The proof is what the library derives for the request. -/
theorem proved {names : List ClaimName} (claims : ClaimSet) {predicate : Predicate}
    (requested : gatePredicateFor names = .ok predicate)
    : prove bbs (fun octets => (sha256 octets).val) (credential claims) predicate binding
      = .ok (proof claims predicate) := by
  have range (index : Number) (member : index ∈ predicate.disclose)
      : ∃ name, index = (claimIndex name : Number) :=
    (exists_name requested member).imp fun _ => And.left
  have distinct : predicate.disclose.Nodup := by
    obtain ⟨-, built⟩ := failIf_bind_eq_ok.mp requested
    obtain ⟨claims, -, merged⟩ := bind_eq_ok.mp built
    exact ((allOf_eq_ok merged).1.ascending.imp fun less => less.ne)
  have normal
      : normalizeIndexes predicate.disclose
        = .ok (predicate.disclose.insertionSort (fun left right => left ≤ right)) := by
    refine normalizeIndexes_eq_ok.mpr ⟨fun index member => ?_, distinct, rfl⟩
    obtain ⟨name, rfl⟩ := range index member
    exact ⟨Int.natCast_nonneg _, Int.ofNat_lt.mpr (claimIndex_lt name)⟩
  have short
      : (predicate.disclose.insertionSort (fun left right => left ≤ right)).length ≤ 12 := by
    rw [List.length_insertionSort]
    have schema : predicate.disclose ⊆ (List.range 12).map Int.ofNat := by
      intro index member
      obtain ⟨name, rfl⟩ := range index member
      exact List.mem_map_of_mem (List.mem_range.mpr (claimIndex_lt name))
    exact (List.subperm_of_subset distinct schema).length_le
  have sized (count : Nat) (within : count ≤ 12)
      : expectedProofBytes (((12 : Nat) : Int) - count) = .ok (272 + 32 * (12 - count)) := by
    have natural : ((12 : Nat) : Int) - count = ((12 - count : Nat) : Int) :=
      (Int.ofNat_sub within).symm
    rw [expectedProofBytes, natural, bind_eq_ok]
    refine ⟨(), failIf_eq_ok.mpr (Int.not_lt.mpr (Int.natCast_nonneg _)), bind_eq_ok.mpr
      ⟨(), failIf_eq_ok.mpr ?_, ?_⟩⟩
    · rw [Int.toNat_natCast]
      exact Nat.not_lt.mpr (by unfold maxSchemaAttributes; omega)
    · rw [Int.toNat_natCast]
      exact congrArg Except.ok (by unfold scalarBytes; omega)
  have header
      : ∃ header,
          presentationHeaderFor (fun octets => (sha256 octets).val) binding = .ok header := by
    refine ⟨(zeroBytes 32).val, ?_⟩
    decide
  obtain ⟨header, bound⟩ := header
  refine failIf_bind_eq_ok.mpr ⟨not_not.mpr rfl, bind_eq_ok.mpr ⟨(), by decide, ?_⟩⟩
  refine bind_eq_ok.mpr ⟨_, normal, bind_eq_ok.mpr ⟨header, bound, ?_⟩⟩
  refine bind_eq_ok.mpr ⟨_, throwing_eq_ok.mpr rfl, bind_eq_ok.mpr ⟨_, sized _ short, ?_⟩⟩
  refine failIf_bind_eq_ok.mpr ⟨not_not.mpr List.length_replicate, bind_eq_ok.mpr ⟨_, ?_, rfl⟩⟩
  refine mapM_eq_ok.mpr ?_
  rw [List.map_map]
  refine List.map_congr_left fun index member => ?_
  obtain ⟨name, rfl⟩ := range index ((List.mem_insertionSort _).mp member)
  have held := messages_getElem? claims name
  have natural : ¬ ((claimIndex name : Nat) : Number) < 0 := Int.not_lt.mpr (Int.natCast_nonneg _)
  rw [Credential.messageAt, if_neg natural, Int.toNat_natCast, held, Function.comp_apply,
    Int.toNat_natCast, List.getD_eq_getElem?_getD, held]
  rfl

/-- What the scan looks for: its control and the data of the applicant. -/
def sought (over18 : Bool) : List Bytes :=
  [scanControl over18, applicant.dateOfBirth, applicant.documentNumber].flatMap (fun secret =>
    (candidates sha256 (utf8ToBytes secret)).map Prod.snd)

/-- None of it is in a message of another claim, claim by claim. -/
theorem message_clean {name : ClaimName} (other : name ≠ .over18)
    : ∀ over18 value : Bool, ∀ needle ∈ sought over18,
        ¬ needle <:+: utf8ToBytes (message value name) := by
  cases name with
  | over18 => exact absurd rfl other
  | _ => decide +kernel

theorem binding_clean
    : ∀ over18 : Bool,
        ∀ leaf ∈ [
            schemaVersion, binding.nonce, binding.walletAddress, binding.contractId,
            binding.networkPassphrase
          ],
          ∀ needle ∈ sought over18, ¬ needle <:+: utf8ToBytes leaf := by
  decide +kernel

theorem hexText_zeros (count : Nat)
    : hexText (List.replicate count 0) = List.replicate (2 * count) 48 := by
  induction count with
  | zero => rfl
  | succ count ih =>
      rw [List.replicate_succ, hexText, ih]
      rfl

/-- None of it is in the text of an empty proof. -/
theorem zeros_clean (count : Nat)
    : ∀ over18 : Bool, ∀ needle ∈ sought over18,
        ¬ needle <:+: utf8ToBytes (bytesToHex (List.replicate count 0)) := by
  intro over18 needle member inside
  have mixed : ∀ over18 : Bool, ∀ needle ∈ sought over18, ∃ octet ∈ needle, octet ≠ 48 := by
    decide
  obtain ⟨octet, held, different⟩ := mixed over18 needle member
  rw [utf8ToBytes_bytesToHex, hexText_zeros] at inside
  exact different (List.eq_of_mem_replicate (inside.subset held))

/-- Nothing of it is in the strings of a proof that does not disclose the control. -/
theorem leaves_clean {names : List ClaimName} {claims : ClaimSet} {predicate : Predicate}
    (requested : gatePredicateFor names = .ok predicate) (absent : .over18 ∉ names)
    : ∀ leaf ∈ stringLeaves (proof claims predicate), ∀ needle ∈ sought claims.over18,
        ¬ needle <:+: utf8ToBytes leaf := by
  intro leaf member needle looked
  simp only [stringLeaves, List.mem_append, List.mem_cons, List.not_mem_nil, or_false] at member
  rcases member with ((rfl | rfl) | disclosed) | bound
  · exact binding_clean _ _ List.mem_cons_self needle looked
  · exact zeros_clean _ _ needle looked
  · obtain ⟨index, listed, rfl⟩ := List.mem_map.mp disclosed
    obtain ⟨name, rfl, origin⟩ := exists_name requested ((List.mem_insertionSort _).mp listed)
    have other : name ≠ .over18 := by
      rintro rfl
      exact origin.elim absent (by decide)
    rw [Int.toNat_natCast, List.getD_eq_getElem?_getD, messages_getElem?, Option.getD_some]
    exact message_clean other _ _ needle looked
  · refine binding_clean _ leaf ?_ needle looked
    simp only [proof] at bound
    simp only [List.mem_cons, List.not_mem_nil, or_false]
    exact .inr bound

theorem findEncodings_eq_nil {names : List ClaimName} {claims : ClaimSet} {predicate : Predicate}
    (requested : gatePredicateFor names = .ok predicate) (absent : .over18 ∉ names)
    {secret : JsString}
    (looked
      : secret ∈ [scanControl claims.over18, applicant.dateOfBirth, applicant.documentNumber])
    : findEncodings sha256 (textLeaves (proof claims predicate)) secret = [] := by
  have plain : ∀ over18 : Bool,
      ∀ secret ∈ [scanControl over18, applicant.dateOfBirth, applicant.documentNumber],
        secret ≠ [] ∧ ∀ needle ∈ (candidates sha256 (utf8ToBytes secret)).map Prod.snd,
          needle ≠ [] ∧ 10 ∉ needle := by
    decide
  obtain ⟨filled, needles⟩ := plain _ secret looked
  by_contra found
  obtain ⟨needle, candidate, inside⟩ := (Pii.findEncodings_ne_nil filled).mp found
  have written
      : textLeaves (proof claims predicate)
        = join 10 ((stringLeaves (proof claims predicate)).map utf8ToBytes) :=
    utf8ToBytes_join (by decide) _
  rw [written, infix_join_iff (needles needle candidate).1 (needles needle candidate).2] at inside
  obtain ⟨_, listed, inside⟩ := inside
  obtain ⟨leaf, member, rfl⟩ := List.mem_map.mp listed
  exact leaves_clean requested absent leaf member needle
    (List.mem_flatMap.mpr ⟨secret, looked, candidate⟩) inside

def run {names : List ClaimName} (claims : ClaimSet) {predicate : Predicate}
    (requested : gatePredicateFor names = .ok predicate)
    : ApprovedRun names claims where
  sha256 := sha256
  bbs := bbs
  secretKey := []
  credential := credential claims
  predicate := predicate
  binding := binding
  proof := proof claims predicate
  issued := issued claims
  signs name boolean := by
    revert boolean
    cases name <;> first | exact fun _ => rfl | exact fun boolean => absurd boolean (by decide)
  requested := requested
  proved := proved claims requested

end PlainRun

-----------------------------------------------------------------------------------------
-- Which accepted lists carry a run through
-----------------------------------------------------------------------------------------

/-- The entries name disclosable claims, by induction on them. -/
theorem collectNames_eq_ok {names result : List ClaimName} {entries : List Json.Value}
    (collected : collectNames names entries = .ok result)
    (disclosable : ∀ name ∈ names, name ∈ disclosableClaimNames)
    : ∀ name ∈ result, name ∈ disclosableClaimNames := by
  induction entries generalizing names with
  | nil =>
      obtain rfl := Except.ok.inj collected
      exact disclosable
  | cons entry rest ih =>
      rw [collectNames] at collected
      split at collected
      case h_1 => cases collected
      case h_2 name read =>
        obtain ⟨text, -, found⟩ := Option.bind_eq_some_iff.mp read
        have known := List.mem_of_find?_eq_some found
        refine ih collected fun other member => ?_
        split at member
        · exact disclosable other member
        · rcases List.mem_append.mp member with before | new
          · exact disclosable other before
          · exact List.mem_singleton.mp new ▸ known

/-- An accepted list names a claim, and only disclosable ones. -/
theorem parseDisclosure_eq_ok {raw : Option Json.Value} {names : List ClaimName}
    (accepted : parseDisclosure raw = .ok names)
    : names ≠ [] ∧ ∀ name ∈ names, name ∈ disclosableClaimNames := by
  unfold parseDisclosure at accepted
  split at accepted
  case h_1 =>
    obtain rfl := Except.ok.inj accepted
    decide
  case h_2 entries =>
    obtain ⟨result, collected, accepted⟩ := bind_eq_ok.mp accepted
    obtain ⟨filled, accepted⟩ := failIf_bind_eq_ok.mp accepted
    obtain ⟨-, accepted⟩ := failIf_bind_eq_ok.mp accepted
    obtain rfl := Except.ok.inj accepted
    exact ⟨filled, collectNames_eq_ok collected (List.forall_mem_nil _)⟩
  case h_3 => cases accepted

/-- A run in which nothing personal is found goes through for every list with the control of the
scan, and only for those.
-/
theorem approved_run_goes_through_iff {raw : Option Json.Value} {disclose : List ClaimName}
    (accepted : parseDisclosure raw = .ok disclose) (claims : ClaimSet)
    (granted : ∃ name ∈ disclose, name ∈ chainBackedClaims ∧ claims.value name = true)
    : (∀ (run : ApprovedRun disclose claims) (applicant : Applicant),
          findEncodings run.sha256 (textLeaves run.proof) applicant.dateOfBirth = []
          → findEncodings run.sha256 (textLeaves run.proof) applicant.documentNumber = []
          → ∃ bitmap, afterProof run.sha256 disclose claims applicant run.proof = .ok bitmap)
      ↔ .over18 ∈ disclose := by
  constructor
  · intro through
    by_contra absent
    obtain ⟨filled, disclosable⟩ := parseDisclosure_eq_ok accepted
    obtain ⟨predicate, requested⟩ := gatePredicateFor_isOk filled disclosable
    have clean {secret : JsString} :=
      @PlainRun.findEncodings_eq_nil _ claims _ requested absent secret
    have passed := through (PlainRun.run claims requested) PlainRun.applicant
      (clean (by simp)) (clean (by simp))
    exact (afterProof_isOk_iff.mp passed).2.2.1 (clean List.mem_cons_self)
  · intro chosen run applicant birth document
    refine afterProof_isOk_iff.mpr
      ⟨birth, document, run.control_found chosen, run.bitmap_ne_zero granted, ?_, ?_⟩
    · exact @ApprovedRun.check_eq _ _ run .over18 0 rfl
    · exact @ApprovedRun.check_eq _ _ run .over21 1 rfl

/-- The claims of an adult whom no list names. -/
def adultClaims : ClaimSet :=
  {
    over18 := true
    over21 := true
    notSanctioned := true
    notPep := true
    jurisdictionOk := true
    livenessOk := true
  }

/-- Nothing personal of the applicant is found in the run of the standard list. -/
theorem defaultDisclosure_clean
    : ∀ predicate,
        gatePredicateFor defaultDisclosure = .ok predicate
        → ∀ secret ∈ [PlainRun.applicant.dateOfBirth, PlainRun.applicant.documentNumber],
            findEncodings PlainRun.sha256 (textLeaves (PlainRun.proof adultClaims predicate)) secret
              = [] := by
  have clean
      : (gatePredicateFor defaultDisclosure).toOption.all (fun predicate =>
          [PlainRun.applicant.dateOfBirth, PlainRun.applicant.documentNumber].all (fun secret =>
            findEncodings PlainRun.sha256 (textLeaves (PlainRun.proof adultClaims predicate)) secret
              == [])) := by
    decide +kernel
  intro predicate requested secret looked
  rw [requested] at clean
  simpa using List.all_eq_true.mp clean secret looked

theorem approved_run_goes_through_sample
    : ∃ run : ApprovedRun defaultDisclosure adultClaims,
        ∃ bitmap,
          afterProof run.sha256 defaultDisclosure adultClaims PlainRun.applicant run.proof
            = .ok bitmap := by
  have requested : ∃ predicate, gatePredicateFor defaultDisclosure = .ok predicate :=
    gatePredicateFor_isOk (by decide) (by decide)
  obtain ⟨predicate, requested⟩ := requested
  have clean := defaultDisclosure_clean predicate requested
  exact ⟨PlainRun.run adultClaims requested,
    (@approved_run_goes_through_iff none _ rfl adultClaims
      ⟨.over18, by decide, by decide, rfl⟩).mpr (by decide) _ _
        (clean _ List.mem_cons_self) (clean _ (by simp))⟩

/-- A list with another claim of the chain is accepted, and the run stops at its control. -/
theorem unticked_control_stops_run
    : ¬ ∀ raw disclose claims,
          parseDisclosure raw = .ok disclose
          → (∃ name ∈ disclose, name ∈ chainBackedClaims ∧ claims.value name = true)
          → ∀ (run : ApprovedRun disclose claims) (applicant : Applicant),
              findEncodings run.sha256 (textLeaves run.proof) applicant.dateOfBirth = []
              → findEncodings run.sha256 (textLeaves run.proof) applicant.documentNumber = []
              → ∃ bitmap,
                  afterProof run.sha256 disclose claims applicant run.proof = .ok bitmap := by
  intro through
  have requested : ∃ predicate, gatePredicateFor [.notSanctioned] = .ok predicate :=
    gatePredicateFor_isOk (by decide) (by decide)
  obtain ⟨predicate, requested⟩ := requested
  have clean {secret : JsString} :=
    @PlainRun.findEncodings_eq_nil _ adultClaims _ requested (by decide) secret
  have passed := through (some (.array [.string (js "notSanctioned")])) [.notSanctioned] adultClaims
    (by decide) ⟨.notSanctioned, by decide, by decide, rfl⟩ (PlainRun.run adultClaims requested)
    PlainRun.applicant (clean (by simp)) (clean (by simp))
  exact (afterProof_isOk_iff.mp passed).2.2.1 (clean List.mem_cons_self)

end StellarOnramp.Onboard
