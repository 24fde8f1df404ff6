import StellarOnramp.KycGate.Contract
import StellarOnramp.Soroban.HostValues

/-! An `attest_bbs` call as it arrives: twelve host values in wire order, read at the types
that the entry point declares.
-/

namespace StellarOnramp.KycGate

open Octets
open StellarOnramp.Soroban

/-- The field names of `BbsProof`, ascending. -/
def BbsProof.fieldNames : List Bytes :=
  [
    ascii "a_bar",
    ascii "b_bar",
    ascii "challenge",
    ascii "d",
    ascii "e_hat",
    ascii "m_hat",
    ascii "r1_hat",
    ascii "r3_hat"
  ]

def BbsProof.fromScVal (value : ScVal) : Option BbsProof := do
  match ← value.toFields BbsProof.fieldNames with
  | [aBar, bBar, challenge, d, eHat, mHat, r1Hat, r3Hat] => do
      let aBar ← aBar.toBytesN 96
      let bBar ← bBar.toBytesN 96
      let challenge ← challenge.toBytesN 32
      let d ← d.toBytesN 96
      let eHat ← eHat.toBytesN 32
      let mHat ← mHat.toVec (ScVal.toBytesN 32)
      let r1Hat ← r1Hat.toBytesN 32
      let r3Hat ← r3Hat.toBytesN 32
      some { aBar, bBar, d, eHat, r1Hat, r3Hat, mHat, challenge }
  | _ => none

/-- The map that a client has to send for a proof. -/
def BbsProof.toScVal (proof : BbsProof) : ScVal :=
  .map
    [
      (.symbol (ascii "a_bar"), .bytes proof.aBar.val),
      (.symbol (ascii "b_bar"), .bytes proof.bBar.val),
      (.symbol (ascii "challenge"), .bytes proof.challenge.val),
      (.symbol (ascii "d"), .bytes proof.d.val),
      (.symbol (ascii "e_hat"), .bytes proof.eHat.val),
      (.symbol (ascii "m_hat"), .vec (proof.mHat.map (fun response => .bytes response.val))),
      (.symbol (ascii "r1_hat"), .bytes proof.r1Hat.val),
      (.symbol (ascii "r3_hat"), .bytes proof.r3Hat.val)
    ]

theorem BbsProof.fromScVal_toScVal (proof : BbsProof)
    : BbsProof.fromScVal proof.toScVal = some proof := by
  have responses
      : (ScVal.vec (proof.mHat.map (fun response => .bytes response.val))).toVec
            (ScVal.toBytesN 32)
        = some proof.mHat := by
    refine (ScVal.toVec_map (fun response => ?_) proof.mHat).trans (congrArg some (List.map_id _))
    exact ScVal.toBytesN_val response
  rw [BbsProof.fromScVal, BbsProof.toScVal, ScVal.toFields_map rfl]
  simp only [List.map_cons, List.map_nil, Option.bind_eq_bind, Option.bind_some,
    ScVal.toBytesN_val, responses]

/-- The twelve arguments of `attest_bbs`. -/
def AttestArgs.fromScVals : List ScVal → Option AttestArgs
  | [subject, issuerId, claims, expiresAt, revocationEpoch, revocationIndex, proof,
      disclosedIndexes, disclosedMessages, header, nonce, ledgerExpiry] => do
      let subject ← subject.toAddress
      let issuerId ← issuerId.toBytesN 32
      let claims ← claims.toU32
      let expiresAt ← expiresAt.toU32
      let revocationEpoch ← revocationEpoch.toU32
      let revocationIndex ← revocationIndex.toU32
      let proof ← BbsProof.fromScVal proof
      let disclosedIndexes ← disclosedIndexes.toVec ScVal.toU32
      let disclosedMessages ← disclosedMessages.toVec ScVal.toBytes
      let header ← header.toBytes
      let nonce ← nonce.toBytesN 32
      let ledgerExpiry ← ledgerExpiry.toU32
      some
        {
          subject
          issuerId
          claims
          expiresAt
          revocationEpoch
          revocationIndex
          proof
          disclosedIndexes
          disclosedMessages
          header
          nonce
          ledgerExpiry
        }
  | _ => none

/-- An `attest_bbs` call; arguments without a reading trap in the host. -/
def invokeAttestBbs (env : Env) (ledger : Ledger) (activeKey : RegistryView) (state : State)
    (values : List ScVal)
    : Except (CallError Error) (State × UInt32) :=
  match AttestArgs.fromScVals values with
  | none => .error .trap
  | some args => attestBbs env ledger activeKey state args

end StellarOnramp.KycGate
