import StellarOnramp.Identity.Schema
import StellarOnramp.KycGate.Contract
import StellarOnramp.Library.JsNumber

/-! What a presentation is bound to, and the header that carries it. The gate rebuilds the
same header from its own context.
-/

namespace StellarOnramp.Identity

open Attempts JsNumber JsText Octets
open StellarOnramp.Soroban

def bindingDomain : JsString := js "stellaronramp/presentation-binding/v1"
def presentationHeaderDomain : JsString := js "stellaronramp/presentation-header/v1"

/-- How far ahead of the current ledger a presentation may expire. -/
def proofMaxWindow : Nat := 17280

/-- Everything a proof is pinned to. -/
structure ProofBinding where
  /-- 32 octets as lower-case hexadecimal text. -/
  nonce : JsString
  walletAddress : JsString
  contractId : JsString
  networkPassphrase : JsString
  ledgerExpiry : Number
  deriving DecidableEq

def isBase32Unit (unit : UInt16) : Bool :=
  (65 ≤ unit && unit ≤ 90) || (50 ≤ unit && unit ≤ 55)

/-- `/^[GC][A-Z2-7]{55}$/` -/
def isStrkeyAny (text : JsString) : Bool :=
  text.length == 56 && (text.head? == some 71 || text.head? == some 67)
    && text.tail.all isBase32Unit

/-- `/^C[A-Z2-7]{55}$/` -/
def isStrkeyC (text : JsString) : Bool :=
  text.length == 56 && text.head? == some 67 && text.tail.all isBase32Unit

def bindingFailure (message : JsString) : Failure :=
  { kind := .binding, message }

def assertValidBinding (b : ProofBinding) : Attempt Unit := do
  failIf (isHex32 b.nonce = false)
    (bindingFailure (js "binding.nonce must be 32 bytes of lowercase hex"))
  failIf (isStrkeyAny b.walletAddress = false)
    (bindingFailure (js "binding.walletAddress must be a Stellar C- or G-address"))
  failIf (isStrkeyC b.contractId = false)
    (bindingFailure
      (js "binding.contractId must be a Stellar contract (C" ++ [0x2026] ++ js ") address"))
  failIf (b.networkPassphrase = [])
    (bindingFailure (js "binding.networkPassphrase must be a non-empty string"))
  failIf (b.ledgerExpiry < 0 ∨ b.ledgerExpiry > 0xffffffff)
    (bindingFailure (js "binding.ledgerExpiry must be a u32 ledger sequence"))

/-- The low 32 bits of a number, big-endian. -/
def u32be (n : Number) : Bytes := fourOctets n

def lenPrefixed (field : Bytes) : Bytes := fourOctets field.length ++ field

/-- The length-prefixed fields of a binding. -/
def canonicalBindingBytes (sha256 : Bytes → Bytes) (b : ProofBinding) : Attempt Bytes := do
  assertValidBinding b
  match hexToBytes b.nonce with
  | none => .error libraryFailure
  | some nonce =>
      .ok
        (lenPrefixed (utf8ToBytes bindingDomain)
          ++ lenPrefixed nonce
          ++ lenPrefixed (utf8ToBytes b.walletAddress)
          ++ lenPrefixed (utf8ToBytes b.contractId)
          ++ lenPrefixed (sha256 (utf8ToBytes b.networkPassphrase))
          ++ lenPrefixed (u32be b.ledgerExpiry))

def bindingDigest (sha256 : Bytes → Bytes) (b : ProofBinding) : Attempt Bytes := do
  let canonical ← canonicalBindingBytes sha256 b
  .ok (sha256 canonical)

/-- The BBS presentation header of a binding. -/
def presentationHeaderFor (sha256 : Bytes → Bytes) (b : ProofBinding) : Attempt Bytes := do
  let digest ← bindingDigest sha256 b
  .ok (sha256 (utf8ToBytes presentationHeaderDomain ++ digest))

-----------------------------------------------------------------------------------------
-- The fields of a valid binding
-----------------------------------------------------------------------------------------

/-- A binding is accepted exactly when each field has its form. -/
theorem assertValidBinding_eq_ok {b : ProofBinding}
    : assertValidBinding b = .ok ()
      ↔ isHex32 b.nonce = true
        ∧ isStrkeyAny b.walletAddress = true
        ∧ isStrkeyC b.contractId = true
        ∧ b.networkPassphrase ≠ []
        ∧ 0 ≤ b.ledgerExpiry
        ∧ b.ledgerExpiry < 2 ^ 32 := by
  rw [assertValidBinding, failIf_bind_eq_ok, failIf_bind_eq_ok, failIf_bind_eq_ok,
    failIf_bind_eq_ok, failIf_eq_ok, Bool.not_eq_false, Bool.not_eq_false, Bool.not_eq_false]
  have range (deadline : Int)
      : ¬ (deadline < 0 ∨ deadline > 0xffffffff) ↔ 0 ≤ deadline ∧ deadline < 2 ^ 32 := by
    omega
  rw [range b.ledgerExpiry]

/-- The text of an address. -/
def addressText (address : Address) : JsString := ofOctets address.strkey

/-- A base32 octet is ASCII. -/
theorem isBase32_lt {octet : UInt8} (base32 : isBase32 octet = true) : octet < 128 := by
  simp only [isBase32, Bool.or_eq_true, Bool.and_eq_true, decide_eq_true_eq] at base32
  rw [UInt8.lt_iff_toNat_lt]
  rcases base32 with ⟨-, bound⟩ | ⟨-, bound⟩
  · exact Nat.lt_of_le_of_lt (UInt8.le_iff_toNat_le.mp bound) (by decide)
  · exact Nat.lt_of_le_of_lt (UInt8.le_iff_toNat_le.mp bound) (by decide)

theorem Address.isAscii_strkey (address : Address) : isAscii address.strkey = true := by
  have valid := address.valid
  simp only [isStrkey, Bool.and_eq_true, List.all_eq_true] at valid
  rw [isAscii, List.all_eq_true]
  exact fun octet member => decide_eq_true (isBase32_lt (valid.2 octet member))

/-- The text of an address is written as its strkey. -/
@[simp]
theorem utf8ToBytes_addressText (address : Address)
    : utf8ToBytes (addressText address) = address.strkey :=
  utf8ToBytes_ofOctets (Address.isAscii_strkey address)

/-- Distinct addresses have distinct texts. -/
theorem addressText_injective : Function.Injective addressText := by
  intro left right same
  exact Address.ext_strkey (ofOctets_injective same)

/-- A base32 unit is an octet of the strkey alphabet, by exhausting the ASCII units. -/
theorem toUInt8_of_isBase32Unit {unit : UInt16} (base32 : isBase32Unit unit = true)
    : isBase32 unit.toUInt8 = true ∧ unit.toUInt8.toUInt16 = unit := by
  have table : ∀ value : Fin 128,
      isBase32Unit (UInt16.ofNat value) = true
      → isBase32 (UInt16.ofNat value).toUInt8 = true
        ∧ (UInt16.ofNat value).toUInt8.toUInt16 = UInt16.ofNat value := by
    decide +kernel
  have small : unit.toNat < 128 := by
    simp only [isBase32Unit, Bool.or_eq_true, Bool.and_eq_true, decide_eq_true_eq,
      UInt16.le_iff_toNat_le] at base32
    rcases base32 with ⟨-, bound⟩ | ⟨-, bound⟩
    · exact Nat.lt_of_le_of_lt bound (by decide)
    · exact Nat.lt_of_le_of_lt bound (by decide)
  have found := table ⟨unit.toNat, small⟩
  rw [UInt16.ofNat_toNat] at found
  exact found base32

/-- Accepted address text is the text of an address. Witness: its units as octets. -/
theorem exists_address_of_isStrkeyAny {text : JsString} (valid : isStrkeyAny text = true)
    : ∃ address, text = addressText address := by
  cases text with
  | nil => simp [isStrkeyAny] at valid
  | cons unit rest =>
      simp only [isStrkeyAny, List.head?_cons, List.tail_cons, Bool.and_eq_true, beq_iff_eq,
        Bool.or_eq_true, Option.some.injEq, List.all_eq_true] at valid
      obtain ⟨⟨length, kind⟩, units⟩ := valid
      have first : isBase32Unit unit = true := by
        rcases kind with rfl | rfl <;> rfl
      have every : ∀ other ∈ unit :: rest, isBase32Unit other = true :=
        List.forall_mem_cons.mpr ⟨first, units⟩
      have strkey : isStrkey ((unit :: rest).map UInt16.toUInt8) = true := by
        simp only [isStrkey, List.length_map, length, Bool.and_eq_true, beq_iff_eq, true_and]
        constructor
        · rcases kind with rfl | rfl
          · rfl
          · rfl
        · rw [List.all_map, List.all_eq_true]
          exact fun other member => (toUInt8_of_isBase32Unit (every other member)).1
      refine ⟨⟨_, strkey⟩, ?_⟩
      simp only [addressText, ofOctets, List.map_map]
      refine (List.map_id _).symm.trans (List.map_congr_left fun other member => ?_)
      exact (toUInt8_of_isBase32Unit (every other member)).2.symm

/-- A contract address is one of the two kinds of address. -/
theorem isStrkeyAny_of_isStrkeyC {text : JsString} (valid : isStrkeyC text = true)
    : isStrkeyAny text = true := by
  simp only [isStrkeyC, Bool.and_eq_true] at valid
  simp only [isStrkeyAny, Bool.and_eq_true, Bool.or_eq_true]
  exact ⟨⟨valid.1.1, Or.inr valid.1.2⟩, valid.2⟩

/-- The typed values that the fields of a binding spell. -/
structure Spells (b : ProofBinding) (wallet contract : Address) (nonce : BytesN 32)
    (ledgerExpiry : UInt32)
    : Prop where
  nonce : b.nonce = bytesToHex nonce.val
  walletAddress : b.walletAddress = addressText wallet
  contractId : b.contractId = addressText contract
  ledgerExpiry : b.ledgerExpiry = ledgerExpiry.toNat

/-- The fields of an accepted binding spell values. -/
theorem exists_spells {b : ProofBinding} (valid : assertValidBinding b = .ok ())
    : ∃ wallet contract nonce ledgerExpiry, Spells b wallet contract nonce ledgerExpiry := by
  obtain ⟨hex, walletForm, contractForm, -, natural, small⟩ := assertValidBinding_eq_ok.mp valid
  obtain ⟨nonce, spelled⟩ := exists_bytes_of_isHex32 hex
  obtain ⟨wallet, walletText⟩ := exists_address_of_isStrkeyAny walletForm
  obtain ⟨contract, contractText⟩ :=
    exists_address_of_isStrkeyAny (isStrkeyAny_of_isStrkeyC contractForm)
  refine ⟨wallet, contract, nonce, UInt32.ofNat b.ledgerExpiry.toNat, spelled.symm, walletText,
    contractText, ?_⟩
  have fits : b.ledgerExpiry.toNat < 2 ^ 32 := (Int.toNat_lt natural).mpr small
  rw [UInt32.toNat_ofNat', Nat.mod_eq_of_lt fits, Int.toNat_of_nonneg natural]

/-- The client's length prefix is the gate's for every field that fits it. -/
theorem lenPrefixed_eq {field : Bytes} (fits : field.length < 2 ^ 32)
    : lenPrefixed field = Octets.lenPrefixed field := by
  rw [lenPrefixed, fourOctets_eq fits, Octets.lenPrefixed]

/-- The six fields of a binding in wire order, the network as its digest. -/
def wireFields (network : Bytes) (wallet contract : Address) (nonce : BytesN 32)
    (ledgerExpiry : UInt32)
    : List Bytes :=
  [
    KycGate.bindingDomain,
    nonce.val,
    wallet.strkey,
    contract.strkey,
    network,
    beBytes 4 ledgerExpiry.toNat
  ]

theorem wireFields_fit {network : Bytes} (sized : network.length < 2 ^ 32)
    (wallet contract : Address) (nonce : BytesN 32) (ledgerExpiry : UInt32)
    : ∀ field ∈ wireFields network wallet contract nonce ledgerExpiry,
        field.length < 2 ^ 32 := by
  have domain : KycGate.bindingDomain.length < 2 ^ 32 := by decide
  simp only [wireFields, List.mem_cons, List.not_mem_nil, or_false, forall_eq_or_imp,
    forall_eq, nonce.property, Address.strkey_length, beBytes_length, sized, domain]
  decide

/-- The canonical octets of a binding are its length-prefixed fields. -/
theorem Spells.canonicalBindingBytes_eq {sha256 : Bytes → Bytes} {b : ProofBinding}
    {wallet contract : Address} {nonce : BytesN 32} {ledgerExpiry : UInt32}
    (spells : Spells b wallet contract nonce ledgerExpiry)
    (valid : assertValidBinding b = .ok ())
    (sized : (sha256 (utf8ToBytes b.networkPassphrase)).length < 2 ^ 32)
    : canonicalBindingBytes sha256 b
      = .ok
          (lenPrefixedFields
            (wireFields (sha256 (utf8ToBytes b.networkPassphrase)) wallet contract nonce
              ledgerExpiry)) := by
  have domain : utf8ToBytes bindingDomain = KycGate.bindingDomain :=
    utf8ToBytes_ofOctets rfl
  have read : hexToBytes b.nonce = some nonce.val := by
    rw [spells.nonce, hexToBytes_bytesToHex]
  have deadline : u32be b.ledgerExpiry = beBytes 4 ledgerExpiry.toNat := by
    rw [spells.ledgerExpiry]
    exact fourOctets_eq ledgerExpiry.toNat_lt
  have fits := wireFields_fit sized wallet contract nonce ledgerExpiry
  simp only [wireFields, List.mem_cons, List.not_mem_nil, or_false, forall_eq_or_imp,
    forall_eq] at fits
  obtain ⟨domainFits, nonceFits, walletFits, contractFits, networkFits, deadlineFits⟩ := fits
  simp only [canonicalBindingBytes, valid, read, domain, deadline, spells.walletAddress,
    spells.contractId, utf8ToBytes_addressText, bind, Except.bind, lenPrefixed_eq domainFits,
    lenPrefixed_eq nonceFits, lenPrefixed_eq walletFits, lenPrefixed_eq contractFits,
    lenPrefixed_eq networkFits, lenPrefixed_eq deadlineFits]
  simp only [lenPrefixedFields, wireFields, List.flatMap_cons, List.flatMap_nil,
    List.append_nil, List.append_assoc]

-----------------------------------------------------------------------------------------
-- The gate's view of a binding
-----------------------------------------------------------------------------------------

/-- The binding that the gate of an environment derives for a call. -/
structure BindsCall (env : KycGate.Env) (b : ProofBinding) (subject : Address)
    (nonce : BytesN 32) (ledgerExpiry : UInt32)
    : Prop where
  spells : Spells b subject env.currentContractAddress nonce ledgerExpiry
  networkPassphrase : env.sha256 (utf8ToBytes b.networkPassphrase) = env.networkId

/-- The gate writes the same fields. -/
theorem canonicalBinding_eq_fields (env : KycGate.Env) (subject : Address) (nonce : BytesN 32)
    (ledgerExpiry : UInt32)
    : KycGate.canonicalBinding env subject nonce ledgerExpiry
      = lenPrefixedFields
          (wireFields env.networkId subject env.currentContractAddress nonce ledgerExpiry) := by
  simp [KycGate.canonicalBinding, KycGate.appendLenPrefixed, lenPrefixedFields, wireFields]

/-- Both sides write the same canonical binding. Witness: field by field. -/
theorem BindsCall.canonicalBindingBytes_eq {env : KycGate.Env} {b : ProofBinding}
    {subject : Address} {nonce : BytesN 32} {ledgerExpiry : UInt32}
    (binds : BindsCall env b subject nonce ledgerExpiry)
    (valid : assertValidBinding b = .ok ())
    (sized : env.networkId.length < 2 ^ 32)
    : canonicalBindingBytes env.sha256 b
      = .ok (KycGate.canonicalBinding env subject nonce ledgerExpiry) := by
  rw [← binds.networkPassphrase] at sized
  rw [binds.spells.canonicalBindingBytes_eq valid sized, canonicalBinding_eq_fields,
    binds.networkPassphrase]

/-- The header of a binding that has canonical octets. -/
theorem presentationHeaderFor_eq {sha256 : Bytes → Bytes} {b : ProofBinding}
    {canonical : Bytes} (written : canonicalBindingBytes sha256 b = .ok canonical)
    : presentationHeaderFor sha256 b
      = .ok (sha256 (KycGate.presentationHeaderDomain ++ sha256 canonical)) := by
  have domain : utf8ToBytes presentationHeaderDomain = KycGate.presentationHeaderDomain :=
    utf8ToBytes_ofOctets rfl
  simp only [presentationHeaderFor, bindingDigest, written, domain, bind, Except.bind]

/-- Both sides derive the same presentation header. -/
theorem BindsCall.presentationHeader_eq {env : KycGate.Env} {b : ProofBinding}
    {subject : Address} {nonce : BytesN 32} {ledgerExpiry : UInt32}
    (binds : BindsCall env b subject nonce ledgerExpiry)
    (valid : assertValidBinding b = .ok ())
    (sized : env.networkId.length < 2 ^ 32)
    : presentationHeaderFor env.sha256 b
      = .ok (KycGate.presentationHeader env subject nonce ledgerExpiry) :=
  presentationHeaderFor_eq (binds.canonicalBindingBytes_eq valid sized)

-----------------------------------------------------------------------------------------
-- Both encoders agree and are injective
-----------------------------------------------------------------------------------------

/-- Two bindings agree on what they are bound to. -/
structure SameContext (sha256 : Bytes → Bytes) (left right : ProofBinding) : Prop where
  nonce : left.nonce = right.nonce
  walletAddress : left.walletAddress = right.walletAddress
  contractId : left.contractId = right.contractId
  network
    : sha256 (utf8ToBytes left.networkPassphrase) = sha256 (utf8ToBytes right.networkPassphrase)
  ledgerExpiry : left.ledgerExpiry = right.ledgerExpiry

/-- The canonical octets of a binding determine it, up to the digest of the network. -/
theorem sameContext_of_canonicalBindingBytes {sha256 : Bytes → Bytes}
    (sized : ∀ octets, (sha256 octets).length = 32) {left right : ProofBinding}
    (leftValid : assertValidBinding left = .ok ())
    (rightValid : assertValidBinding right = .ok ())
    (same : canonicalBindingBytes sha256 left = canonicalBindingBytes sha256 right)
    : SameContext sha256 left right := by
  have short (octets : Bytes) : (sha256 octets).length < 2 ^ 32 := by
    rw [sized]
    decide
  obtain ⟨wallet, contract, nonce, deadline, spells⟩ := exists_spells leftValid
  obtain ⟨otherWallet, otherContract, more, later, otherSpells⟩ := exists_spells rightValid
  rw [spells.canonicalBindingBytes_eq leftValid (short _),
    otherSpells.canonicalBindingBytes_eq rightValid (short _), Except.ok.injEq] at same
  have fields := lenPrefixedFields_inj (wireFields_fit (short _) _ _ _ _)
    (wireFields_fit (short _) _ _ _ _) same
  simp only [wireFields, List.cons.injEq, true_and, and_true] at fields
  obtain ⟨nonces, wallets, contracts, networks, deadlines⟩ := fields
  exact {
    nonce := by rw [spells.nonce, otherSpells.nonce, nonces]
    walletAddress := by
      rw [spells.walletAddress, otherSpells.walletAddress, addressText, wallets, addressText]
    contractId := by
      rw [spells.contractId, otherSpells.contractId, addressText, contracts, addressText]
    network := networks
    ledgerExpiry := by
      rw [spells.ledgerExpiry, otherSpells.ledgerExpiry,
        beBytes_inj deadline.toNat_lt later.toNat_lt deadlines]
  }

/-- The digest does not collide on two inputs. -/
def CollisionFree (digest : Bytes → Bytes) (left right : Bytes) : Prop :=
  digest left = digest right → left = right

/-- The gate of a contract writes, for every accepted binding to that contract and network,
the canonical octets and the header that the client writes, and two accepted bindings that
differ in what they are bound to have different octets, and different headers unless the
digest collides on them. Witness: both sides write the same six length-prefixed fields.
-/
theorem presentation_header_agrees_and_separates {sha256 : Bytes → Bytes}
    (sized : ∀ octets, (sha256 octets).length = 32)
    : (∀ (env : KycGate.Env) (b : ProofBinding),
        env.sha256 = sha256
        → assertValidBinding b = .ok ()
        → addressText env.currentContractAddress = b.contractId
        → env.networkId = sha256 (utf8ToBytes b.networkPassphrase)
        → ∃ subject nonce ledgerExpiry,
            Spells b subject env.currentContractAddress nonce ledgerExpiry
            ∧ canonicalBindingBytes sha256 b
              = .ok (KycGate.canonicalBinding env subject nonce ledgerExpiry)
            ∧ presentationHeaderFor sha256 b
              = .ok (KycGate.presentationHeader env subject nonce ledgerExpiry))
      ∧ ∀ left right : ProofBinding,
          assertValidBinding left = .ok ()
          → assertValidBinding right = .ok ()
          → ¬ SameContext sha256 left right
          → ∃ canonical other,
              canonicalBindingBytes sha256 left = .ok canonical
              ∧ canonicalBindingBytes sha256 right = .ok other
              ∧ canonical ≠ other
              ∧ (CollisionFree sha256 canonical other
                → CollisionFree sha256 (KycGate.presentationHeaderDomain ++ sha256 canonical)
                    (KycGate.presentationHeaderDomain ++ sha256 other)
                → presentationHeaderFor sha256 left ≠ presentationHeaderFor sha256 right) := by
  have short (octets : Bytes) : (sha256 octets).length < 2 ^ 32 := by
    rw [sized]
    decide
  constructor
  · rintro env b rfl valid contract network
    obtain ⟨subject, other, nonce, ledgerExpiry, spells⟩ := exists_spells valid
    have same : env.currentContractAddress = other :=
      Address.ext_strkey (ofOctets_injective (contract.trans spells.contractId))
    subst same
    have binds : BindsCall env b subject nonce ledgerExpiry := ⟨spells, network.symm⟩
    have fits : env.networkId.length < 2 ^ 32 := by
      rw [network]
      exact short _
    exact ⟨subject, nonce, ledgerExpiry, spells, binds.canonicalBindingBytes_eq valid fits,
      binds.presentationHeader_eq valid fits⟩
  · intro left right leftValid rightValid different
    obtain ⟨wallet, contract, nonce, deadline, spells⟩ := exists_spells leftValid
    obtain ⟨otherWallet, otherContract, more, later, otherSpells⟩ := exists_spells rightValid
    have written := spells.canonicalBindingBytes_eq leftValid (short _)
    have otherWritten := otherSpells.canonicalBindingBytes_eq rightValid (short _)
    refine ⟨_, _, written, otherWritten, fun same => ?_, fun canonicalFree headerFree same => ?_⟩
    · refine different (sameContext_of_canonicalBindingBytes sized leftValid rightValid ?_)
      rw [written, otherWritten, same]
    · rw [presentationHeaderFor_eq written, presentationHeaderFor_eq otherWritten,
        Except.ok.injEq] at same
      have octets := canonicalFree (List.append_cancel_left (headerFree same))
      refine different (sameContext_of_canonicalBindingBytes sized leftValid rightValid ?_)
      rw [written, otherWritten, octets]

namespace Sample

def testPassphrase : JsString := js "Test SDF Network ; September 2015"
def publicPassphrase : JsString := js "Public Global Stellar Network ; September 2015"

/-- A digest that is right on the two public networks. -/
def networkDigest (octets : Bytes) : Bytes :=
  if octets = utf8ToBytes testPassphrase then
    beBytes 32 0xcee0302d59844d32bdca915c8203dd44b33fbb7edc19051ea37abedf28ecd472
  else if octets = utf8ToBytes publicPassphrase then
    beBytes 32 0x7ac33997544e3175d266bd022439b22cdb16508c01163f26e5cb2a3e1045a979
  else
    beBytes 32 0

theorem networkDigest_length (octets : Bytes) : (networkDigest octets).length = 32 := by
  unfold networkDigest
  split
  · exact beBytes_length 32 _
  · split <;> exact beBytes_length 32 _

def gate : Address := ⟨67 :: List.replicate 55 68, by decide⟩

/-- A deadline above `2 ^ 31`. -/
def onTestnet : ProofBinding :=
  {
    nonce := bytesToHex (List.replicate 32 171)
    walletAddress := ofOctets (71 :: List.replicate 55 50)
    contractId := addressText gate
    networkPassphrase := testPassphrase
    ledgerExpiry := 4000000000
  }

def onPublicNetwork : ProofBinding :=
  { onTestnet with networkPassphrase := publicPassphrase }

def env : KycGate.Env :=
  {
    sha256 := networkDigest
    networkId := networkDigest (utf8ToBytes testPassphrase)
    currentContractAddress := gate
    minTemporaryTtl := 0
    minPersistentTtl := 0
    verifyBbsProof := fun _ _ _ _ _ _ => .ok false
  }

end Sample

/-- A gate on the test network agrees with the client, and the same binding on the public
network has other octets.
-/
theorem presentation_header_agrees_and_separates_networks
    : (∃ subject nonce ledgerExpiry,
        Spells Sample.onTestnet subject Sample.gate nonce ledgerExpiry
        ∧ canonicalBindingBytes Sample.networkDigest Sample.onTestnet
          = .ok (KycGate.canonicalBinding Sample.env subject nonce ledgerExpiry)
        ∧ presentationHeaderFor Sample.networkDigest Sample.onTestnet
          = .ok (KycGate.presentationHeader Sample.env subject nonce ledgerExpiry))
      ∧ ∃ canonical other,
          canonicalBindingBytes Sample.networkDigest Sample.onTestnet = .ok canonical
          ∧ canonicalBindingBytes Sample.networkDigest Sample.onPublicNetwork = .ok other
          ∧ canonical ≠ other := by
  have agrees := presentation_header_agrees_and_separates Sample.networkDigest_length
  have testValid : assertValidBinding Sample.onTestnet = .ok () := by decide
  have publicValid : assertValidBinding Sample.onPublicNetwork = .ok () := by decide
  refine ⟨agrees.1 Sample.env Sample.onTestnet rfl testValid rfl rfl, ?_⟩
  have different : ¬ SameContext Sample.networkDigest Sample.onTestnet Sample.onPublicNetwork :=
    fun same => absurd same.network (by decide)
  obtain ⟨canonical, other, written, otherWritten, apart, -⟩ :=
    agrees.2 Sample.onTestnet Sample.onPublicNetwork testValid publicValid different
  exact ⟨canonical, other, written, otherWritten, apart⟩

end StellarOnramp.Identity
