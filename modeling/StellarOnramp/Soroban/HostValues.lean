import StellarOnramp.Library.Octets
import StellarOnramp.Soroban.Environment

/-! The values that cross from a client to a contract, and how the host reads them at the types
that an entry point declares. A value of another type has no reading, and the call traps.
-/

namespace StellarOnramp.Soroban

open Octets

inductive ScVal where
  | u32 (value : UInt32)
  | bytes (octets : Bytes)
  | symbol (name : Bytes)
  | address (address : Address)
  | vec (items : List ScVal)
  | map (entries : List (ScVal × ScVal))

def ScVal.toU32 : ScVal → Option UInt32
  | u32 value => some value
  | _ => none

def ScVal.toBytes : ScVal → Option Bytes
  | bytes octets => some octets
  | _ => none

/-- Octets of a declared length. -/
def ScVal.toBytesN (length : Nat) : ScVal → Option (BytesN length)
  | bytes octets =>
      if sized : octets.length = length then some ⟨octets, sized⟩ else none
  | _ => none

def ScVal.toSymbol : ScVal → Option Bytes
  | symbol name => some name
  | _ => none

def ScVal.toAddress : ScVal → Option Address
  | address subject => some subject
  | _ => none

/-- A vector, with the reading of its elements. -/
def ScVal.toVec {α : Type} (each : ScVal → Option α) : ScVal → Option (List α)
  | vec items => items.mapM each
  | _ => none

/-- The fields of a structure. The host takes a map whose keys are exactly the declared names,
ascending.
-/
def ScVal.toFields (names : List Bytes) : ScVal → Option (List ScVal)
  | map entries =>
      if entries.mapM (fun entry => entry.1.toSymbol) = some names then
        some (entries.map Prod.snd)
      else
        none
  | _ => none

-----------------------------------------------------------------------------------------
-- Values that have a reading
-----------------------------------------------------------------------------------------

@[simp]
theorem ScVal.toBytesN_val {length : Nat} (octets : BytesN length)
    : (ScVal.bytes octets.val).toBytesN length = some octets :=
  dif_pos octets.property

theorem ScVal.toFields_map {names : List Bytes} {entries : List (ScVal × ScVal)}
    (named : entries.mapM (fun entry => entry.1.toSymbol) = some names)
    : (ScVal.map entries).toFields names = some (entries.map Prod.snd) :=
  if_pos named

/-- A vector is read element by element, by list induction. -/
theorem ScVal.toVec_map {α β : Type} {each : ScVal → Option α} {write : β → ScVal}
    {read : β → α} (reads : ∀ item, each (write item) = some (read item)) (items : List β)
    : (ScVal.vec (items.map write)).toVec each = some (items.map read) := by
  rw [ScVal.toVec]
  induction items with
  | nil => rfl
  | cons item rest ih =>
      rw [List.map_cons, List.map_cons, List.mapM_cons, reads, ih]
      rfl

end StellarOnramp.Soroban
