import StellarOnramp.KycGate.Contract

/-! What it takes for `attest_bbs` to be accepted, and what an accepted call writes.
Everything later reasons from these two facts and never unfolds the entry point again.
-/

namespace StellarOnramp.KycGate

open Octets Lifetimes
open StellarOnramp.Soroban

-----------------------------------------------------------------------------------------
-- Unsigned 32-bit windows as inequalities of numbers
-----------------------------------------------------------------------------------------

@[simp]
theorem maxExpiryHorizon_toNat : maxExpiryHorizon.toNat = 2073600 := rfl

@[simp]
theorem proofMaxWindow_toNat : proofMaxWindow.toNat = 17280 := rfl

@[simp]
theorem claimTtlThreshold_toNat : claimTtlThreshold.toNat = 1036800 := rfl

@[simp]
theorem claimTtlExtendTo_toNat : claimTtlExtendTo.toNat = 2073600 := rfl

@[simp]
theorem nonceMinTtl_toNat : nonceMinTtl.toNat = 17280 := rfl

@[simp]
theorem nonceMaxTtl_toNat : nonceMaxTtl.toNat = 3110399 := rfl

/-- A lead that passed the window check is an ordinary bound; the subtraction cannot wrap. -/
theorem lead_within_iff {now later window : UInt32} (ordered : ¬ later < now)
    : ¬ window < later - now ↔ later.toNat ≤ now.toNat + window.toNat := by
  have ordered : now ≤ later := UInt32.not_lt.mp ordered
  have bound := UInt32.le_iff_toNat_le.mp ordered
  rw [UInt32.not_lt, UInt32.le_iff_toNat_le, UInt32.toNat_sub_of_le _ _ ordered]
  omega

theorem not_lt_iff_toNat {left right : UInt32} : ¬ left < right ↔ right.toNat ≤ left.toNat := by
  rw [UInt32.not_lt, UInt32.le_iff_toNat_le]

-----------------------------------------------------------------------------------------
-- Acceptance
-----------------------------------------------------------------------------------------

/-- The registry's answer for the issuer is a flag-free key under which the proof verifies
for the header derived from the call.
-/
def ProofVerifies (env : Env) (activeKey : RegistryView) (state : State)
    (args : AttestArgs) (pubkeyG2 : BytesN 192)
    : Prop :=
  (∃ registry, state.registry = some registry ∧ activeKey registry args.issuerId = some pubkeyG2)
  ∧ pubkeyG2.val.headD 0 &&& 0xE0 = 0
  ∧ env.verifyBbsProof pubkeyG2 args.header
        (presentationHeader env args.subject args.nonce args.ledgerExpiry)
        args.disclosedIndexes args.disclosedMessages args.proof
      = .ok true

/-- Every condition `attest_bbs` checks, with the windows read as bounds on numbers. -/
structure Accepts (env : Env) (ledger : Ledger) (activeKey : RegistryView) (state : State)
    (args : AttestArgs)
    : Prop where
  claimed : args.claims ≠ 0
  unexpired : ledger.sequence.toNat ≤ args.expiresAt.toNat
  horizon : args.expiresAt.toNat ≤ ledger.sequence.toNat + maxExpiryHorizon.toNat
  fresh : ledger.sequence.toNat ≤ args.ledgerExpiry.toNat
  window : args.ledgerExpiry.toNat ≤ ledger.sequence.toNat + proofMaxWindow.toNat
  unspent : has ledger.sequence.toNat (state.nonces args.nonce) = false
  parallel : args.disclosedIndexes.length = args.disclosedMessages.length
  issuerDisclosed
    : disclosedIs args.disclosedIndexes args.disclosedMessages 1 (expectedIssuer args.issuerId)
      = true
  revIndexDisclosed
    : disclosedIs args.disclosedIndexes args.disclosedMessages 2
        (expectedRevIndex args.revocationIndex)
      = true
  derived
    : args.claims &&& ~~~ derivedClaims args.disclosedIndexes args.disclosedMessages = 0
  verified : ∃ pubkeyG2, ProofVerifies env activeKey state args pubkeyG2
  epoch : args.revocationEpoch = currentEpoch (readClaim state args.subject)
  fresher
    : ∀ record,
        readClaim state args.subject = some record
        → ledger.sequence.toNat ≤ record.expiresAt.toNat ∨ record.claims = 0
        → record.expiresAt.toNat < args.expiresAt.toNat

/-- The last check of `attest_bbs`: no record, a lapsed one, or one that expires earlier. -/
theorem fresher_iff {seq expiresAt : UInt32} {record : ClaimRecord}
    : ((decide (seq ≤ record.expiresAt) || record.claims == 0)
          && decide (expiresAt ≤ record.expiresAt))
        = false
      ↔ (seq.toNat ≤ record.expiresAt.toNat ∨ record.claims = 0
          → record.expiresAt.toNat < expiresAt.toNat) := by
  simp only [UInt32.le_iff_toNat_le, Bool.and_eq_false_iff, Bool.or_eq_false_iff,
    decide_eq_false_iff_not, beq_eq_false_iff_ne]
  constructor
  · rintro (⟨lapsed, claimed⟩ | later) replaced
    · exact (replaced.elim lapsed claimed).elim
    · omega
  · intro later
    by_cases replaced : seq.toNat ≤ record.expiresAt.toNat ∨ record.claims = 0
    · exact Or.inr (by have := later replaced; omega)
    · exact Or.inl (not_or.mp replaced)

/-- Every accepted call satisfied all conditions and wrote exactly its attestation.
Witness: invert the checks in source order.
-/
theorem accepts_of_attestBbs {env : Env} {ledger : Ledger} {activeKey : RegistryView}
    {state after : State} {args : AttestArgs} {granted : UInt32}
    (accepted : attestBbs env ledger activeKey state args = .ok (after, granted))
    : Accepts env ledger activeKey state args
      ∧ after
        = recordAttestation env ledger state args (currentEpoch (readClaim state args.subject))
      ∧ granted = args.claims := by
  unfold attestBbs at accepted
  by_cases claimed : args.claims = 0
  · simp [claimed] at accepted
  by_cases unexpired : args.expiresAt < ledger.sequence
  · simp [claimed, unexpired] at accepted
  by_cases horizon : maxExpiryHorizon < args.expiresAt - ledger.sequence
  · simp [claimed, unexpired, horizon] at accepted
  by_cases fresh : args.ledgerExpiry < ledger.sequence
  · simp [claimed, unexpired, horizon, fresh] at accepted
  by_cases window : proofMaxWindow < args.ledgerExpiry - ledger.sequence
  · simp [claimed, unexpired, horizon, fresh, window] at accepted
  by_cases spent : has ledger.sequence.toNat (state.nonces args.nonce) = true
  · simp [claimed, unexpired, horizon, fresh, window, spent] at accepted
  by_cases parallel : args.disclosedIndexes.length ≠ args.disclosedMessages.length
  · simp [claimed, unexpired, horizon, fresh, window, spent, parallel] at accepted
  simp only [claimed, unexpired, horizon, fresh, window, spent, parallel, Bool.false_eq_true,
    ↓reduceIte] at accepted
  cases registered : state.registry with
  | none => simp [registered] at accepted
  | some registry =>
  cases active : activeKey registry args.issuerId with
  | none => simp [registered, active] at accepted
  | some pubkeyG2 =>
  simp only [registered, active] at accepted
  split at accepted
  case isTrue => cases accepted
  case isFalse flags =>
  split at accepted
  case isTrue => cases accepted
  case isFalse disclosed =>
  split at accepted
  case isTrue => cases accepted
  case isFalse derived =>
  split at accepted
  case h_1 => cases accepted
  case h_2 => cases accepted
  case h_3 verified =>
  split at accepted
  case isTrue => cases accepted
  case isFalse epoch =>
  simp only [Bool.or_eq_true, Bool.not_eq_true', not_or, Bool.not_eq_false] at disclosed
  have accepts
      (fresher
        : ∀ record,
            readClaim state args.subject = some record
            → ledger.sequence.toNat ≤ record.expiresAt.toNat ∨ record.claims = 0
            → record.expiresAt.toNat < args.expiresAt.toNat)
      : Accepts env ledger activeKey state args := {
    claimed
    unexpired := not_lt_iff_toNat.mp unexpired
    horizon := (lead_within_iff unexpired).mp horizon
    fresh := not_lt_iff_toNat.mp fresh
    window := (lead_within_iff fresh).mp window
    unspent := Bool.not_eq_true _ ▸ spent
    parallel := not_not.mp parallel
    issuerDisclosed := disclosed.1
    revIndexDisclosed := disclosed.2
    derived := not_not.mp derived
    verified := ⟨pubkeyG2, ⟨registry, registered, active⟩, not_not.mp flags, verified⟩
    epoch := not_not.mp epoch
    fresher
  }
  split at accepted
  case h_1 missing =>
    cases accepted
    exact ⟨accepts (by simp [missing]), by simp [missing], rfl⟩
  case h_2 record stored =>
    split at accepted
    · cases accepted
    · rename_i replaceable
      cases accepted
      refine ⟨accepts ?_, by simp [stored], rfl⟩
      intro other found
      obtain rfl : record = other := Option.some.inj (stored.symm.trans found)
      exact fresher_iff.mp (Bool.not_eq_true _ ▸ replaceable)

/-- A call that satisfies all conditions is accepted, and returns the claims it wrote.
Witness: rewrite each check with its condition, in source order.
-/
theorem Accepts.attestBbs {env : Env} {ledger : Ledger} {activeKey : RegistryView}
    {state : State} {args : AttestArgs} (accepts : Accepts env ledger activeKey state args)
    : attestBbs env ledger activeKey state args
      = .ok
          (recordAttestation env ledger state args
              (currentEpoch (readClaim state args.subject)),
            args.claims) := by
  obtain ⟨pubkeyG2, ⟨registry, registered, active⟩, flags, verified⟩ := accepts.verified
  have unexpired := not_lt_iff_toNat.mpr accepts.unexpired
  have fresh := not_lt_iff_toNat.mpr accepts.fresh
  have horizon := (lead_within_iff unexpired).mpr accepts.horizon
  have window := (lead_within_iff fresh).mpr accepts.window
  simp only [KycGate.attestBbs, accepts.claimed, unexpired, fresh, horizon, window,
    accepts.unspent, accepts.parallel, registered, active, flags, accepts.issuerDisclosed,
    accepts.revIndexDisclosed, accepts.derived, verified, accepts.epoch, ↓reduceIte, ne_eq,
    not_true_eq_false, Bool.not_true, Bool.or_self, Bool.false_eq_true]
  cases stored : readClaim state args.subject with
  | none => rfl
  | some record =>
      simp only [fresher_iff.mpr (accepts.fresher record stored), Bool.false_eq_true, ↓reduceIte]

/-- A call is accepted exactly when every condition holds. -/
theorem attestBbs_accepted_iff {env : Env} {ledger : Ledger} {activeKey : RegistryView}
    {state : State} {args : AttestArgs}
    : (∃ after granted,
          attestBbs env ledger activeKey state args = .ok (after, granted))
      ↔ Accepts env ledger activeKey state args :=
  ⟨fun ⟨_, _, accepted⟩ => (accepts_of_attestBbs accepted).1,
    fun accepts => ⟨_, _, accepts.attestBbs⟩⟩

-----------------------------------------------------------------------------------------
-- Checks
-----------------------------------------------------------------------------------------

/-- A check answers `true` exactly for a nonempty mask whose bits a live record grants. -/
theorem check_eq_true_iff {ledger : Ledger} {state : State} {subject : Address}
    {mask : UInt32}
    : check ledger state subject mask = true
      ↔ mask ≠ 0
        ∧ ∃ record,
            readClaim state subject = some record
            ∧ ledger.sequence.toNat ≤ record.expiresAt.toNat
            ∧ record.claims &&& mask = mask := by
  unfold check
  by_cases empty : mask = 0
  · simp [empty]
  cases stored : readClaim state subject with
  | none => simp [empty]
  | some record =>
      by_cases expired : record.expiresAt < ledger.sequence
      · have late := UInt32.lt_iff_toNat_lt.mp expired
        simp only [empty, expired, ↓reduceIte, Bool.false_eq_true, ne_eq, not_false_eq_true,
          Option.some.injEq, true_and, false_iff, not_exists, not_and]
        rintro _ rfl live
        omega
      · simp [empty, expired, not_lt_iff_toNat.mp expired]

/-- A check reads nothing of the storage but the subject's record. -/
theorem check_congr {ledger : Ledger} {left right : State} {subject : Address}
    {mask : UInt32} (same : readClaim left subject = readClaim right subject)
    : check ledger left subject mask = check ledger right subject mask := by
  simp only [check, same]

/-- A record that answers a nonempty mask grants some claim. -/
theorem claims_ne_zero_of_superset {claims mask : UInt32} (nonempty : mask ≠ 0)
    (superset : claims &&& mask = mask)
    : claims ≠ 0 := by
  rintro rfl
  rw [UInt32.zero_and] at superset
  exact nonempty superset.symm

end StellarOnramp.KycGate
