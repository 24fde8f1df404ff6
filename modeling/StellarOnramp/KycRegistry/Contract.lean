import StellarOnramp.Soroban.Environment
import Mathlib.Logic.Function.Basic

/-! The issuer registry contract: an append-only list of issuer keys with an expiry ledger
and a revocation flag, all in instance storage.
-/

namespace StellarOnramp.KycRegistry

open Octets
open StellarOnramp.Soroban

structure Issuer where
  /-- Uncompressed G2 public key. -/
  pubkeyG2 : BytesN 192
  /-- Last ledger the key is accepted in; `0` means no expiry. -/
  validUntil : UInt32
  revoked : Bool
  deriving DecidableEq

inductive Error where
  | alreadyInitialized
  | notInitialized
  | issuerNotFound
  | issuerAlreadyRegistered
  deriving DecidableEq, Repr

/-- The numbers deployed clients decode. -/
def Error.code : Error → Nat
  | alreadyInitialized => 1
  | notInitialized => 2
  | issuerNotFound => 3
  | issuerAlreadyRegistered => 4

/-- Instance storage: the keys `Admin`, `Issuer(id)` and `IssuerIds`. -/
structure State where
  admin : Option Address
  issuers : BytesN 32 → Option Issuer
  issuerIds : Option (List (BytesN 32))

/-- The storage of a freshly deployed contract. -/
def State.empty : State :=
  { admin := none, issuers := fun _ => none, issuerIds := none }

def init (auth : Authorization) (state : State) (admin : Address)
    : Except (CallError Error) State :=
  if state.admin.isSome then
    .error (.error .alreadyInitialized)
  else if auth admin then
    .ok { state with admin := some admin, issuerIds := some [] }
  else
    .error .trap

def requireAdmin (auth : Authorization) (state : State)
    : Except (CallError Error) Address :=
  match state.admin with
  | none => .error (.error .notInitialized)
  | some admin => if auth admin then .ok admin else .error .trap

def registerIssuer (auth : Authorization) (state : State) (issuerId : BytesN 32)
    (pubkeyG2 : BytesN 192) (validUntil : UInt32)
    : Except (CallError Error) State :=
  match requireAdmin auth state with
  | .error failure => .error failure
  | .ok _ =>
      if (state.issuers issuerId).isSome then
        .error (.error .issuerAlreadyRegistered)
      else
        .ok {
          state with
          issuers :=
            Function.update state.issuers issuerId
              (some { pubkeyG2, validUntil, revoked := false })
          issuerIds := some (state.issuerIds.getD [] ++ [issuerId])
        }

def revokeIssuer (auth : Authorization) (state : State) (issuerId : BytesN 32)
    : Except (CallError Error) State :=
  match requireAdmin auth state with
  | .error failure => .error failure
  | .ok _ =>
      match state.issuers issuerId with
      | none => .error (.error .issuerNotFound)
      | some issuer =>
          .ok {
            state with
            issuers :=
              Function.update state.issuers issuerId (some { issuer with revoked := true })
          }

/-- The issuer's key, only while the issuer is registered, unrevoked and unexpired. -/
def activeKey (ledger : Ledger) (state : State) (issuerId : BytesN 32)
    : Except Error (BytesN 192) :=
  match state.issuers issuerId with
  | none => .error .issuerNotFound
  | some issuer =>
      if issuer.revoked then
        .error .issuerNotFound
      else if issuer.validUntil ≠ 0 ∧ issuer.validUntil < ledger.sequence then
        .error .issuerNotFound
      else
        .ok issuer.pubkeyG2

/-- The registered ids, oldest first. -/
def issuerIds (state : State) : List (BytesN 32) :=
  state.issuerIds.getD []

/-- An issuer is usable in a ledger: not revoked, and within its expiry if it has one. -/
def Issuer.Usable (issuer : Issuer) (sequence : UInt32) : Prop :=
  issuer.revoked = false ∧ (issuer.validUntil = 0 ∨ sequence ≤ issuer.validUntil)

/-- The registry answers with a key exactly for a stored and usable issuer, and then with
that issuer's key.
-/
theorem activeKey_eq_ok_iff {ledger : Ledger} {state : State} {issuerId : BytesN 32}
    {key : BytesN 192}
    : activeKey ledger state issuerId = .ok key
      ↔ ∃ issuer,
          state.issuers issuerId = some issuer
          ∧ issuer.Usable ledger.sequence
          ∧ issuer.pubkeyG2 = key := by
  unfold activeKey
  cases stored : state.issuers issuerId with
  | none => simp
  | some issuer =>
      cases revoked : issuer.revoked with
      | true => simp [Issuer.Usable, revoked]
      | false =>
          by_cases unlimited : issuer.validUntil = 0
          · simp [Issuer.Usable, revoked, unlimited]
          · by_cases late : issuer.validUntil < ledger.sequence
            · simp [Issuer.Usable, revoked, unlimited, late, UInt32.not_le.mpr late]
            · simp [Issuer.Usable, revoked, unlimited, late, UInt32.not_lt.mp late]

end StellarOnramp.KycRegistry
