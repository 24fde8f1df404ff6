import StellarOnramp.Library.JsText
import Mathlib.Logic.Function.Basic

/-! The accounts of the portal in the memory of one process. An update changes memory before the
file is written, so a failed write does not undo it.
-/

namespace StellarOnramp.Onboard

open JsText

inductive KycStatus where
  | none
  | pending
  | approved
  | rejected
  deriving DecidableEq

/-- The outcome of a verification and its handles on the chain. -/
structure AccountKyc where
  status : KycStatus
  sessionId : Option JsString
  claimBitmap : Option Nat
  revocationIndex : Option Nat
  txHash : Option JsString
  verifiedAt : Option Nat

/-- A completed purchase. -/
structure OnrampPurchase where
  tryAmount : JsString
  usdcAmount : JsString
  stellarTxHash : JsString
  at_ : Nat

structure AccountRecord where
  email : JsString
  walletCAddr : Option JsString
  walletKeyId : Option JsString
  walletDeployTxHash : Option JsString
  kyc : AccountKyc
  fundingAccount : Option JsString
  onramp : Option OnrampPurchase

/-- What an update may change; `none` leaves a field as it is. -/
structure AccountPatch where
  walletCAddr : Option JsString := none
  walletKeyId : Option JsString := none
  walletDeployTxHash : Option JsString := none
  kyc : Option AccountKyc := none
  fundingAccount : Option JsString := none
  onramp : Option OnrampPurchase := none

/-- The accounts by id. -/
abbrev Accounts := JsString → Option AccountRecord

/-- A new account of an email address. -/
def newAccount (email : JsString) : AccountRecord where
  email
  walletCAddr := none
  walletKeyId := none
  walletDeployTxHash := none
  kyc :=
    {
      status := .none
      sessionId := none
      claimBitmap := none
      revocationIndex := none
      txHash := none
      verifiedAt := none
    }
  fundingAccount := none
  onramp := none

def AccountRecord.patched (existing : AccountRecord) (patch : AccountPatch) : AccountRecord :=
  {
    existing with
    walletCAddr := patch.walletCAddr <|> existing.walletCAddr
    walletKeyId := patch.walletKeyId <|> existing.walletKeyId
    walletDeployTxHash := patch.walletDeployTxHash <|> existing.walletDeployTxHash
    kyc := patch.kyc.getD existing.kyc
    fundingAccount := patch.fundingAccount <|> existing.fundingAccount
    onramp := patch.onramp <|> existing.onramp
  }

/-- The accounts after an update; an unknown account is an error. -/
def updateAccount (accounts : Accounts) (id : JsString) (patch : AccountPatch)
    : Option Accounts :=
  (accounts id).map (fun existing =>
    Function.update accounts id (some (existing.patched patch)))

/-- The wallet of an account. -/
def Accounts.walletOf (accounts : Accounts) (id : JsString) : Option JsString :=
  (accounts id).bind AccountRecord.walletCAddr

/-- The verdict on an account. -/
def Accounts.kycOf (accounts : Accounts) (id : JsString) : Option AccountKyc :=
  (accounts id).map AccountRecord.kyc

section

variable {accounts after : Accounts} {id other : JsString} {patch : AccountPatch}

theorem updateAccount_eq_some (updated : updateAccount accounts id patch = some after)
    : ∃ existing,
        accounts id = some existing
        ∧ after = Function.update accounts id (some (existing.patched patch)) := by
  obtain ⟨existing, known, rfl⟩ := Option.map_eq_some_iff.mp updated
  exact ⟨existing, known, rfl⟩

/-- An update leaves the other accounts. -/
theorem updateAccount_other (updated : updateAccount accounts id patch = some after)
    (different : other ≠ id)
    : after other = accounts other := by
  obtain ⟨existing, -, rfl⟩ := updateAccount_eq_some updated
  exact Function.update_of_ne different _ _

theorem walletOf_update (updated : updateAccount accounts id patch = some after)
    : after.walletOf id = (patch.walletCAddr <|> accounts.walletOf id) := by
  obtain ⟨existing, known, rfl⟩ := updateAccount_eq_some updated
  simp [Accounts.walletOf, known, AccountRecord.patched]

/-- An update that names no wallet leaves all of them. -/
theorem walletOf_update_of_none (updated : updateAccount accounts id patch = some after)
    (no_wallet : patch.walletCAddr = none) (other : JsString)
    : after.walletOf other = accounts.walletOf other := by
  by_cases same : other = id
  · subst same
    rw [walletOf_update updated, no_wallet]
    rfl
  · rw [Accounts.walletOf, Accounts.walletOf, updateAccount_other updated same]

theorem kycOf_update (updated : updateAccount accounts id patch = some after)
    : after.kycOf id = (patch.kyc <|> accounts.kycOf id) := by
  obtain ⟨existing, known, rfl⟩ := updateAccount_eq_some updated
  cases kyc : patch.kyc with
  | none => simp [Accounts.kycOf, known, AccountRecord.patched, kyc]
  | some verdict => simp [Accounts.kycOf, AccountRecord.patched, kyc]

theorem kycOf_update_other (updated : updateAccount accounts id patch = some after)
    (different : other ≠ id)
    : after.kycOf other = accounts.kycOf other := by
  rw [Accounts.kycOf, Accounts.kycOf, updateAccount_other updated different]

/-- An update that names no verdict leaves all of them. -/
theorem kycOf_update_of_none (updated : updateAccount accounts id patch = some after)
    (no_verdict : patch.kyc = none) (other : JsString)
    : after.kycOf other = accounts.kycOf other := by
  by_cases same : other = id
  · subst same
    rw [kycOf_update updated, no_verdict]
    rfl
  · exact kycOf_update_other updated same

end

end StellarOnramp.Onboard
