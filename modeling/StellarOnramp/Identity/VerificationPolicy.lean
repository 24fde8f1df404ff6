import Mathlib.Data.Rat.Cast.Defs
import StellarOnramp.Identity.Verification

/-! What each check of the verification guarantees where it passes, and the policy that they
guarantee together.
-/

namespace StellarOnramp.Identity

open Attempts JsText Octets

/-- A property that is asked for, unless the check is skipped. -/
def Policy.Asks {α : Type} (policy : Policy α) (Holds : α → Prop) : Prop :=
  ∀ asked, policy = .enforce asked → Holds asked

theorem Policy.asks_unsafeSkip {α : Type} (Holds : α → Prop)
    : (Policy.unsafeSkip : Policy α).Asks Holds := by
  intro asked skipped
  cases skipped

theorem Policy.asks_enforce {α : Type} {Holds : α → Prop} {asked : α} (holds : Holds asked)
    : (Policy.enforce asked).Asks Holds := by
  intro other same
  cases same
  exact holds

-----------------------------------------------------------------------------------------
-- Before the BBS library
-----------------------------------------------------------------------------------------

/-- Both bindings have one digest. -/
def SameDigest (sha256 : Bytes → Bytes) (left right : ProofBinding) : Prop :=
  ∃ digest, bindingDigestHex sha256 left = .ok digest ∧ bindingDigestHex sha256 right = .ok digest

/-- A binding passes with the digest that was expected. -/
theorem checkBinding_eq_ok {sha256 : Bytes → Bytes} {proof expected : ProofBinding}
    (passed : checkBinding sha256 proof expected = .ok ())
    : SameDigest sha256 proof expected := by
  rcases bind_eq_ok.mp passed with ⟨-, -, passed⟩
  rcases bind_eq_ok.mp passed with ⟨proofDigest, read, passed⟩
  rcases bind_eq_ok.mp passed with ⟨expectedDigest, demanded, passed⟩
  have same := not_not.mp (failIf_eq_ok.mp passed)
  subst same
  exact ⟨proofDigest, catching_eq_ok.mp read, catching_eq_ok.mp demanded⟩

/-- The ledger is known and not past the expiry. -/
def LedgerFresh (ledgerExpiry : Number) (asked : Option Number) : Prop :=
  ∃ currentLedger, asked = some currentLedger ∧ 0 ≤ currentLedger ∧ currentLedger ≤ ledgerExpiry

/-- A ledger policy passes where it is skipped or the proof is still fresh. -/
theorem checkLedger_eq_ok {ledgerExpiry : Number} {policy : Policy (Option Number)}
    (passed : checkLedger ledgerExpiry policy = .ok ())
    : policy.Asks (LedgerFresh ledgerExpiry) := by
  match policy with
  | .unsafeSkip => exact Policy.asks_unsafeSkip _
  | .enforce none => cases passed
  | .enforce (some currentLedger) =>
      rcases failIf_bind_eq_ok.mp passed with ⟨natural, passed⟩
      have before := failIf_eq_ok.mp passed
      exact Policy.asks_enforce ⟨currentLedger, rfl, not_lt.mp natural, not_lt.mp before⟩

/-- Accepted indexes are in range and ascend from the one before them, by induction on the
indexes.
-/
theorem checkIndexes_eq_ok {previous : Option Number} {indexes : List Number}
    (passed : checkIndexes previous indexes = .ok ())
    : (∀ idx ∈ indexes, 0 ≤ idx ∧ idx < schemaAttributeCount)
      ∧ indexes.Pairwise (fun left right => left < right)
      ∧ ∀ before ∈ previous, ∀ idx ∈ indexes, before < idx := by
  induction indexes generalizing previous with
  | nil => simp
  | cons idx rest ih =>
      rcases failIf_bind_eq_ok.mp passed with ⟨inRange, passed⟩
      rcases failIf_bind_eq_ok.mp passed with ⟨ascending, passed⟩
      obtain ⟨restInRange, restAscending, after⟩ := ih passed
      obtain ⟨natural, bound⟩ := not_or.mp inRange
      have later : ∀ other ∈ rest, idx < other := after idx rfl
      refine ⟨?_, List.pairwise_cons.mpr ⟨later, restAscending⟩, ?_⟩
      · exact List.forall_mem_cons.mpr ⟨⟨not_lt.mp natural, not_le.mp bound⟩, restInRange⟩
      · intro before known
        obtain rfl := Option.mem_def.mp known
        have first : before < idx := by simpa using ascending
        exact List.forall_mem_cons.mpr ⟨first, fun other member => first.trans (later other member)⟩

/-- The disclosed indexes are the ones that were asked for, in any order. -/
def DisclosesExactly (got : List Number) (asked : Option (List Number)) : Prop :=
  ∃ want, asked = some want ∧ want.Perm got

theorem checkDisclosure_eq_ok {got : List Number} {policy : Policy (Option (List Number))}
    (passed : checkDisclosure got policy = .ok ())
    : policy.Asks (DisclosesExactly got) := by
  match policy with
  | .unsafeSkip => exact Policy.asks_unsafeSkip _
  | .enforce none => cases passed
  | .enforce (some want) =>
      rcases failIf_bind_eq_ok.mp passed with ⟨-, passed⟩
      have sorted := not_not.mp (failIf_eq_ok.mp passed)
      refine Policy.asks_enforce ⟨want, rfl, ?_⟩
      rw [← sorted]
      exact (List.perm_insertionSort _ want).symm

/-- The length of an accepted proof is the one of its hidden messages. -/
theorem checkHiddenCount_eq_ok {proofLength disclosed : Nat}
    (passed : checkHiddenCount proofLength disclosed = .ok ())
    : proofLength + 32 * disclosed = 272 + 32 * schemaAttributeCount := by
  rcases bind_eq_ok.mp passed with ⟨u, counted, passed⟩
  have hidden : (u : Int) = (schemaAttributeCount : Int) - disclosed :=
    not_not.mp (failIf_eq_ok.mp passed)
  rcases failIf_bind_eq_ok.mp (catching_eq_ok.mp counted) with ⟨law, counted⟩
  rcases bind_eq_ok.mp counted with ⟨-, -, counted⟩
  cases counted
  simp only [g1CompressedBytes, scalarBytes] at law hidden
  simp only [schemaAttributeCount] at hidden ⊢
  omega

/-- Every disclosed message spells the decoded value of its index, and nothing else is
decoded.
-/
structure Discloses (proof : Proof) (decoded : Decoded) : Prop where
  lengths : proof.disclosedIndexes.length = proof.disclosedMessages.length
  shown
    : ∀ pair ∈ proof.disclosedIndexes.zip proof.disclosedMessages,
        ∃ name value,
          pair.1 = claimIndex name ∧ Spelled name pair.2 value ∧ decoded name = some value
  hidden : ∀ name, (claimIndex name : Number) ∉ proof.disclosedIndexes → decoded name = none

/-- What is known before the BBS library is asked. -/
structure WellFormed (sha256 : Bytes → Bytes) (call : VerifyCall) (decoded : Decoded) : Prop where
  labelled : call.proof.schemaVersion = schemaVersion
  bound : SameDigest sha256 call.proof.binding call.expectedBinding
  fresh : call.options.currentLedger.Asks (LedgerFresh call.expectedBinding.ledgerExpiry)
  inRange : ∀ idx ∈ call.proof.disclosedIndexes, 0 ≤ idx ∧ idx < schemaAttributeCount
  ascending : call.proof.disclosedIndexes.Pairwise (fun left right => left < right)
  requested
    : call.options.expectedDisclosedIndexes.Asks (DisclosesExactly call.proof.disclosedIndexes)
  sized
    : call.proof.proof.length + 32 * call.proof.disclosedIndexes.length
      = 272 + 32 * schemaAttributeCount
  disclosed : Discloses call.proof decoded

/-- Witness: invert the checks in source order. -/
theorem checkStructure_eq_ok {libraries : VerifierLibraries} {call : VerifyCall}
    {decoded : Decoded} {header : Bytes}
    (passed : checkStructure libraries call = .ok (decoded, header))
    : WellFormed libraries.sha256 call decoded
      ∧ presentationHeaderFor libraries.sha256 call.expectedBinding = .ok header := by
  rcases failIf_bind_eq_ok.mp passed with ⟨labelled, passed⟩
  rcases bind_eq_ok.mp passed with ⟨_, bound, passed⟩
  rcases bind_eq_ok.mp passed with ⟨_, fresh, passed⟩
  rcases failIf_bind_eq_ok.mp passed with ⟨-, passed⟩
  rcases failIf_bind_eq_ok.mp passed with ⟨lengths, passed⟩
  rcases bind_eq_ok.mp passed with ⟨_, indexes, passed⟩
  rcases bind_eq_ok.mp passed with ⟨-, -, passed⟩
  rcases bind_eq_ok.mp passed with ⟨_, requested, passed⟩
  rcases bind_eq_ok.mp passed with ⟨_, sized, passed⟩
  rcases bind_eq_ok.mp passed with ⟨read, decoding, passed⟩
  rcases bind_eq_ok.mp passed with ⟨written, heading, passed⟩
  cases passed
  have lengths := not_not.mp lengths
  obtain ⟨inRange, ascending, -⟩ := checkIndexes_eq_ok indexes
  have distinct : call.proof.disclosedIndexes.Nodup := ascending.imp fun before => before.ne
  rcases failIf_bind_eq_ok.mp (catching_eq_ok.mp decoding) with ⟨-, decoding⟩
  obtain ⟨shown, hidden⟩ := decodeMessages_eq_ok distinct lengths decoding
  refine ⟨?_, catching_eq_ok.mp heading⟩
  exact {
    labelled := not_not.mp labelled
    bound := checkBinding_eq_ok bound
    fresh := checkLedger_eq_ok fresh
    inRange
    ascending
    requested := checkDisclosure_eq_ok requested
    sized := checkHiddenCount_eq_ok sized
    disclosed := { lengths, shown, hidden }
  }

-----------------------------------------------------------------------------------------
-- The disclosed values
-----------------------------------------------------------------------------------------

/-- The credential is disclosed to be alive at a time. -/
def Alive (decoded : Decoded) (asked : Option ℚ) : Prop :=
  ∃ currentTime expiresAt,
    asked = some currentTime
    ∧ decoded .expiresAt = some (.number expiresAt)
    ∧ currentTime ≤ expiresAt
    ∧ ∀ issuedAt,
        decoded .issuedAt = some (.number issuedAt)
        → (issuedAt : ℚ) ≤ currentTime + issuanceClockSkewSeconds

/-- A time policy passes where it is skipped or the credential is alive. -/
theorem checkTime_eq_ok {libraries : VerifierLibraries} {decoded : Decoded}
    {policy : Policy (Option ℚ)} (passed : checkTime libraries decoded policy = .ok ())
    : policy.Asks (Alive decoded) := by
  match policy with
  | .unsafeSkip => exact Policy.asks_unsafeSkip _
  | .enforce none => cases passed
  | .enforce (some currentTime) =>
      rw [checkTime] at passed
      split at passed
      case h_2 => cases passed
      case h_1 expiresAt expiry =>
        rcases failIf_bind_eq_ok.mp passed with ⟨alive, passed⟩
        refine Policy.asks_enforce ⟨currentTime, expiresAt, rfl, expiry, not_lt.mp alive, ?_⟩
        intro issuedAt issued
        rw [issued] at passed
        exact not_lt.mp (failIf_eq_ok.mp passed)

/-- The credential is disclosed to belong to a subject. -/
def BelongsTo (decoded : Decoded) (asked : Option JsString) : Prop :=
  ∃ subject, asked = some subject ∧ decoded .subjectBinding = some (.string subject)

theorem checkSubject_eq_ok {decoded : Decoded} {policy : Policy (Option JsString)}
    (passed : checkSubject decoded policy = .ok ())
    : policy.Asks (BelongsTo decoded) := by
  match policy with
  | .unsafeSkip => exact Policy.asks_unsafeSkip _
  | .enforce expected =>
      rw [checkSubject] at passed
      split at passed
      case h_2 => cases passed
      case h_1 subject disclosed =>
        have same := not_not.mp (failIf_eq_ok.mp passed)
        exact Policy.asks_enforce ⟨subject, same.symm, disclosed⟩

/-- Every expected value is disclosed under its name. -/
def ShowsExpected (decoded : Decoded) (asked : Option (List (JsString × Option ClaimValue)))
    : Prop :=
  ∃ expected,
    asked = some expected
    ∧ ∀ name want,
        (name, some want) ∈ expected
        → ∃ claim : ClaimName, name = ofOctets claim.text ∧ decoded claim = some want

theorem claimNamed_eq_some {name : JsString} {claim : ClaimName}
    (found : claimNamed name = some claim)
    : name = ofOctets claim.text := by
  obtain ⟨spec, here, rfl⟩ := Option.map_eq_some_iff.mp found
  have same := List.find?_some here
  exact (beq_iff_eq.mp same).symm

/-- By induction on the entries. -/
theorem checkEntries_eq_ok {decoded : Decoded}
    {expected : List (JsString × Option ClaimValue)}
    (passed : checkEntries decoded expected = .ok ())
    : ∀ name want,
        (name, some want) ∈ expected
        → ∃ claim : ClaimName, name = ofOctets claim.text ∧ decoded claim = some want := by
  induction expected with
  | nil => simp
  | cons entry rest ih =>
      intro name want member
      match entry with
      | (other, none) =>
          rcases List.mem_cons.mp member with here | later
          · cases here
          · exact ih passed name want later
      | (other, some value) =>
          rw [checkEntries] at passed
          split at passed
          case h_1 => cases passed
          case h_2 got found =>
            rcases failIf_bind_eq_ok.mp passed with ⟨same, passed⟩
            rcases List.mem_cons.mp member with here | later
            · cases here
              obtain ⟨claim, named, disclosed⟩ := Option.bind_eq_some_iff.mp found
              rw [not_not.mp same] at disclosed
              exact ⟨claim, claimNamed_eq_some named, disclosed⟩
            · exact ih passed name want later

theorem checkClaims_eq_ok {decoded : Decoded}
    {policy : Policy (Option (List (JsString × Option ClaimValue)))}
    (passed : checkClaims decoded policy = .ok ())
    : policy.Asks (ShowsExpected decoded) := by
  match policy with
  | .unsafeSkip => exact Policy.asks_unsafeSkip _
  | .enforce none => cases passed
  | .enforce (some expected) =>
      exact Policy.asks_enforce ⟨expected, rfl, checkEntries_eq_ok passed⟩

/-- What is known once the disclosed values were checked. -/
structure Vetted (libraries : VerifierLibraries) (call : VerifyCall) (decoded : Decoded) : Prop
    extends WellFormed libraries.sha256 call decoded where
  verified
    : ∃ header,
        presentationHeaderFor libraries.sha256 call.expectedBinding = .ok header
        ∧ libraries.proofVerdict call header = some true
  signedVersion
    : ∀ signed, decoded .schemaVersion = some signed → signed = .string schemaVersion
  signedIssuer
    : ∀ signed,
        decoded .issuerId = some signed
        → signed = .string (issuerIdFromPublicKey libraries.sha256 call.issuerPubKey)
  alive : call.options.currentTime.Asks (Alive decoded)
  subject : call.options.expectedSubjectBinding.Asks (BelongsTo decoded)
  expected : call.options.expectedClaims.Asks (ShowsExpected decoded)

/-- What the issuer signed of itself is what the verifier knows of it. -/
theorem checkSigned_eq_ok {sha256 : Bytes → Bytes} {issuerPubKey : Bytes} {decoded : Decoded}
    (passed : checkSigned sha256 issuerPubKey decoded = .ok ())
    : (∀ signed, decoded .schemaVersion = some signed → signed = .string schemaVersion)
      ∧ ∀ signed,
          decoded .issuerId = some signed
          → signed = .string (issuerIdFromPublicKey sha256 issuerPubKey) := by
  rcases failIf_bind_eq_ok.mp passed with ⟨version, passed⟩
  have issuer := failIf_eq_ok.mp passed
  constructor
  · intro signed disclosed
    simpa [disclosed] using version
  · intro signed disclosed
    simpa [disclosed] using issuer

/-- Witness: invert the checks in source order. -/
theorem checkDisclosed_eq_ok {libraries : VerifierLibraries} {call : VerifyCall}
    {decoded : Decoded} {header : Bytes}
    (wellFormed : WellFormed libraries.sha256 call decoded)
    (heading : presentationHeaderFor libraries.sha256 call.expectedBinding = .ok header)
    (passed
      : checkDisclosed libraries call decoded (libraries.proofVerdict call header) = .ok ())
    : Vetted libraries call decoded := by
  rcases bind_eq_ok.mp passed with ⟨_, verdict, passed⟩
  rcases bind_eq_ok.mp passed with ⟨_, signed, passed⟩
  rcases bind_eq_ok.mp passed with ⟨_, time, passed⟩
  rcases bind_eq_ok.mp passed with ⟨_, subject, passed⟩
  have accepted : libraries.proofVerdict call header = some true := by
    cases answer : libraries.proofVerdict call header with
    | none =>
        rw [answer] at verdict
        cases verdict
    | some ok =>
        rw [answer] at verdict
        exact congrArg some (eq_true_of_ne_false (failIf_eq_ok.mp verdict))
  obtain ⟨signedVersion, signedIssuer⟩ := checkSigned_eq_ok signed
  exact {
    wellFormed with
    verified := ⟨header, heading, accepted⟩
    signedVersion
    signedIssuer
    alive := checkTime_eq_ok time
    subject := checkSubject_eq_ok subject
    expected := checkClaims_eq_ok passed
  }

-----------------------------------------------------------------------------------------
-- The status list
-----------------------------------------------------------------------------------------

/-- The list that a source yields, given what its resolver answered. -/
def StatusListSource.supplied (answer : Option BitstringStatusList)
    : StatusListSource → Option BitstringStatusList
  | .list supplied => supplied
  | .resolver => answer

/-- The entry of the credential in the supplied list is zero. -/
def Unrevoked (platform : Platform) (call : VerifyCall) (answer : Option BitstringStatusList)
    (decoded : Decoded) (source : StatusListSource)
    : Prop :=
  ∃ revocationIndex list entries,
    decoded .revocationIndex = some (.number revocationIndex)
    ∧ source.supplied answer = some list
    ∧ decodeStatusList platform list (some call.options.purpose) = .ok entries
    ∧ statusAt entries revocationIndex = .ok 0

/-- Every check that is not skipped holds. -/
structure Honoured (libraries : VerifierLibraries) (call : VerifyCall)
    (answer : Option BitstringStatusList) (decoded : Decoded)
    : Prop
    extends Vetted libraries call decoded where
  unrevoked
    : call.options.statusList.Asks (Unrevoked libraries.platform call answer decoded)

/-- The status is asked for the index that the proof discloses. -/
theorem statusRequest_eq_ok {options : VerifyOptions} {decoded : Decoded}
    {request : StatusListRequest} (asked : statusRequest options decoded = .ok request)
    : decoded .revocationIndex = some (.number request.revocationIndex)
      ∧ request.statusPurpose = options.purpose := by
  unfold statusRequest at asked
  split at asked
  case h_1 revocationIndex disclosed =>
    cases asked
    exact ⟨disclosed, rfl⟩
  case h_2 => cases asked

theorem checkStatus_eq_ok {platform : Platform} {call : VerifyCall} {decoded : Decoded}
    {request : StatusListRequest} {answer : Option BitstringStatusList}
    {source : StatusListSource}
    (asked : statusRequest call.options decoded = .ok request)
    (passed : checkStatus platform request (source.supplied answer) = .ok ())
    : Unrevoked platform call answer decoded source := by
  obtain ⟨disclosed, purpose⟩ := statusRequest_eq_ok asked
  rcases bind_eq_ok.mp passed with ⟨status, read, passed⟩
  have zero := not_not.mp (failIf_eq_ok.mp passed)
  subst zero
  have read := catching_eq_ok.mp read
  unfold statusOf at read
  split at read
  case h_1 => cases read
  case h_2 list supplied =>
    rcases bind_eq_ok.mp read with ⟨entries, decoding, read⟩
    rw [purpose] at decoding
    exact ⟨request.revocationIndex, list, entries, disclosed, supplied, decoding, read⟩

-----------------------------------------------------------------------------------------
-- The use of the binding
-----------------------------------------------------------------------------------------

/-- A binding passes the end of the verification exactly once, unless the guard is skipped. -/
theorem spendBinding_eq_ok {sha256 : Bytes → Bytes} {call : VerifyCall}
    {replayGuard spent : ReplayGuard}
    (passed : spendBinding sha256 call replayGuard = .ok spent)
    : call.options.replayGuard = .unsafeSkip ∧ spent = replayGuard
      ∨ ∃ digest,
          call.options.replayGuard = .enforce true
          ∧ bindingDigestHex sha256 call.expectedBinding = .ok digest
          ∧ digest ∉ replayGuard.consumed
          ∧ spent = { consumed := digest :: replayGuard.consumed } := by
  unfold spendBinding at passed
  split at passed
  case h_1 skipped =>
    cases passed
    exact Or.inl ⟨skipped, rfl⟩
  case h_2 => cases passed
  case h_3 enforced =>
    rcases bind_eq_ok.mp passed with ⟨⟨fresh, later⟩, consumed, passed⟩
    rcases failIf_bind_eq_ok.mp passed with ⟨used, passed⟩
    cases passed
    rcases bind_eq_ok.mp (catching_eq_ok.mp consumed) with ⟨digest, written, consumed⟩
    split at consumed
    case isTrue =>
      cases consumed
      exact absurd rfl used
    case isFalse unused =>
      cases consumed
      exact Or.inr ⟨digest, enforced, written, unused, rfl⟩

end StellarOnramp.Identity
