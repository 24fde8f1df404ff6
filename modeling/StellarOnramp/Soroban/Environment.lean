import StellarOnramp.Library.Octets

/-! What every contract sees of the host: addresses, the current ledger, who authorised the
call, and the two ways a call can fail.
-/

namespace StellarOnramp.Soroban

open Octets

/-- An octet of the base32 alphabet that strkeys are written in. -/
def isBase32 (char : UInt8) : Bool :=
  (65 ≤ char && char ≤ 90) || (50 ≤ char && char ≤ 55)

/-- Strkey text of an account (`G`) or a contract (`C`): 56 base32 characters. -/
def isStrkey (text : Bytes) : Bool :=
  text.length == 56 && (text.head? == some 71 || text.head? == some 67)
    && text.all isBase32

/-- An address is identified with its strkey text, which the host converts it to. -/
structure Address where
  strkey : Bytes
  valid : isStrkey strkey = true
  deriving DecidableEq

/-- Distinct addresses have distinct strkeys; witness: the text is the only data. -/
theorem Address.ext_strkey {left right : Address} (same : left.strkey = right.strkey)
    : left = right := by
  cases left
  cases right
  cases same
  rfl

theorem Address.strkey_length (address : Address) : address.strkey.length = 56 := by
  have valid := address.valid
  simp only [isStrkey, Bool.and_eq_true, beq_iff_eq] at valid
  exact valid.1.1

/-- The ledger a call executes in. -/
structure Ledger where
  sequence : UInt32
  /-- Close time in Unix seconds. -/
  timestamp : UInt64
  deriving DecidableEq

/-- A call either returns a contract error code or traps in the host: a panic, a missing
authorisation, a malformed host argument. Both roll back everything the call wrote.
-/
inductive CallError (Code : Type) where
  | error (code : Code)
  | trap
  deriving DecidableEq, Repr

/-- A host trap, for code that has no error codes of its own. -/
inductive Trap where
  | trap
  deriving DecidableEq, Repr

/-- Who authorised the current invocation. -/
abbrev Authorization := Address → Bool

end StellarOnramp.Soroban
