import StellarOnramp.Identity.Binding
import StellarOnramp.KycGate.Acceptance

/-! The two deadlines of an attestation, picked from one ledger reading and clamped to what
the gate accepts. The gate checks them in a later ledger.
-/

namespace StellarOnramp.Sdk

open Attempts JsText
open StellarOnramp.Identity

/-- The gateway's copies of the gate's lifetimes. -/
def claimTtlExtendTo : Nat := 2073600
def nonceMaxTtl : Nat := 3110399
def maxExpiryHorizon : Nat := min claimTtlExtendTo nonceMaxTtl

def expiryFailure (message : JsString) : Failure :=
  { kind := .expiry, message }

/-- The clamped deadline that both helpers compute: a positive lead, at most `window`, after
the sequence that the ledger source returned.
-/
def clampedDeadline (complaint : JsString) (window : Nat) (sequence lead : Number)
    : Attempt Number := do
  failIf (lead ≤ 0) (expiryFailure (complaint ++ js ", got " ++ numberText lead))
  failIf (¬ isSafeInteger sequence ∨ sequence < 0)
    (expiryFailure
      (js "ledger source returned an unusable sequence: " ++ numberText sequence))
  .ok (sequence + min lead window)

/-- The margin where the caller gives none. -/
def defaultExpiryMarginLedgers : Nat := 720

/-- When a presentation dies. -/
def ledgerExpiryFor (sequence margin : Number) : Attempt Number :=
  clampedDeadline (js "expiry margin must be a positive integer number of ledgers")
    proofMaxWindow sequence margin

/-- When a record stops being honoured. -/
def recordExpiresAtFor (sequence ledgersAhead : Number) : Attempt Number :=
  clampedDeadline (js "record lifetime must be a positive integer number of ledgers")
    maxExpiryHorizon sequence ledgersAhead

/-- Both sides agree on the two windows. -/
theorem windows_agree
    : proofMaxWindow = KycGate.proofMaxWindow.toNat
      ∧ maxExpiryHorizon = KycGate.maxExpiryHorizon.toNat :=
  ⟨rfl, rfl⟩

/-- A deadline is after the ledger it was read in, and no later ledger finds it further ahead
than the window.
-/
theorem clampedDeadline_within {complaint : JsString} {window : Nat}
    {sequence lead deadline : Number}
    (picked : clampedDeadline complaint window sequence lead = .ok deadline)
    (positive : 0 < window)
    : 0 ≤ sequence ∧ sequence < deadline ∧ deadline ≤ sequence + window := by
  rcases failIf_bind_eq_ok.mp picked with ⟨ahead, picked⟩
  rcases failIf_bind_eq_ok.mp picked with ⟨usable, picked⟩
  have natural : 0 ≤ sequence := not_lt.mp (not_or.mp usable).2
  cases picked
  have clamped := min_le_right lead (window : Number)
  have forward : 0 < min lead (window : Number) :=
    lt_min (not_le.mp ahead) (Int.natCast_pos.mpr positive)
  exact ⟨natural, lt_add_of_pos_right sequence forward, Int.add_le_add_left clamped sequence⟩

/-- The default margin passes the check and is not clamped. -/
theorem ledgerExpiryFor_default {sequence : Number} (safe : isSafeInteger sequence)
    (natural : 0 ≤ sequence)
    : ledgerExpiryFor sequence defaultExpiryMarginLedgers
      = .ok (sequence + defaultExpiryMarginLedgers) := by
  have forward : ¬ (defaultExpiryMarginLedgers : Number) ≤ 0 := by decide
  have usable : ¬ (¬ isSafeInteger sequence ∨ sequence < 0) :=
    not_or.mpr ⟨not_not.mpr safe, not_lt.mpr natural⟩
  exact failIf_bind_eq_ok.mpr ⟨forward, failIf_bind_eq_ok.mpr ⟨usable, rfl⟩⟩

end StellarOnramp.Sdk
