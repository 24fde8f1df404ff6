import StellarOnramp.Soroban.Environment
import Mathlib.Logic.Function.Basic

/-! The identity verifier adapter: it forwards its required mask to the gate's check and
fails on a negative answer. Its owner sets the mask and the addresses it reads.
-/

namespace StellarOnramp.TrexWrap

open StellarOnramp.Soroban

inductive Error where
  | identityVerificationFailed
  | notInitialized
  deriving DecidableEq, Repr

/-- The numbers deployed clients decode. -/
def Error.code : Error → Nat
  | identityVerificationFailed => 2101
  | notInitialized => 2102

/-- Instance storage, and the persistent recovery map. -/
structure State where
  owner : Option Address
  required : Option UInt32
  kycGate : Option Address
  claimTopicsAndIssuers : Option Address
  recovery : Address → Option Address

/-- The storage right after deployment. -/
def construct (owner kycGate : Address) (requiredBitmap : UInt32) : State :=
  {
    owner := some owner
    required := some requiredBitmap
    kycGate := some kycGate
    claimTopicsAndIssuers := none
    recovery := fun _ => none
  }

/-- The owner's guard in front of every setter; an unset owner fails as well. -/
def enforceOwnerAuth (auth : Authorization) (state : State) : Except (CallError Error) Unit :=
  match state.owner with
  | none => .error .trap
  | some owner => if auth owner then .ok () else .error .trap

def setRequired (auth : Authorization) (state : State) (requiredBitmap : UInt32)
    : Except (CallError Error) State :=
  (enforceOwnerAuth auth state).map (fun _ => { state with required := some requiredBitmap })

def setRecovery (auth : Authorization) (state : State) (oldAccount newAccount : Address)
    : Except (CallError Error) State :=
  (enforceOwnerAuth auth state).map (fun _ =>
    { state with recovery := Function.update state.recovery oldAccount (some newAccount) })

def setClaimTopicsAndIssuers (auth : Authorization) (state : State)
    (claimTopicsAndIssuers : Address)
    : Except (CallError Error) State :=
  (enforceOwnerAuth auth state).map (fun _ =>
    { state with claimTopicsAndIssuers := some claimTopicsAndIssuers })

def required (state : State) : Except (CallError Error) UInt32 :=
  match state.required with
  | none => .error (.error .notInitialized)
  | some mask => .ok mask

def kycGate (state : State) : Except (CallError Error) Address :=
  match state.kycGate with
  | none => .error (.error .notInitialized)
  | some gate => .ok gate

/-- A cross-contract `check` call on an address; `none` is any failure of the call. -/
abbrev CheckCall := (gate account : Address) → (claimBit : UInt32) → Option Bool

/-- Succeeds or fails; a negative verdict is a failure by the interface's contract. -/
def verifyIdentity (check : CheckCall) (state : State) (account : Address)
    : Except (CallError Error) Unit :=
  match kycGate state with
  | .error failure => .error failure
  | .ok gate =>
  match required state with
  | .error failure => .error failure
  | .ok need =>
  match check gate account need with
  | none => .error .trap
  | some false => .error (.error .identityVerificationFailed)
  | some true => .ok ()

/-- Verification succeeds exactly when the stored gate answers the stored mask with `true`. -/
theorem verifyIdentity_eq_ok_iff {check : CheckCall} {state : State} {account : Address}
    : verifyIdentity check state account = .ok ()
      ↔ ∃ gate need,
          state.kycGate = some gate
          ∧ state.required = some need
          ∧ check gate account need = some true := by
  unfold verifyIdentity kycGate required
  cases state.kycGate with
  | none => simp
  | some gate =>
  cases state.required with
  | none => simp
  | some need =>
  cases verdict : check gate account need with
  | none => simp [verdict]
  | some granted => cases granted <;> simp [verdict]

end StellarOnramp.TrexWrap
