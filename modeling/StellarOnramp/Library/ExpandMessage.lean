import StellarOnramp.Library.Octets

/-! The expander `expand_message_xmd` of RFC 9380 (section 5.3.1), for any hash function and any
output length, with the cases in which it aborts.
-/

namespace ExpandMessage

open Octets

variable {width : Nat}

/-- Octet-wise exclusive or. -/
def strxor (left right : Bytes) : Bytes :=
  List.zipWith (fun a b => a ^^^ b) left right

/-- The blocks behind `previous`, of which the first is number `counter`. -/
def laterBlocks (hash : Bytes → BytesN width) (b0 : BytesN width) (dstPrime : Bytes)
    : (previous : BytesN width) → (counter count : Nat) → List (BytesN width)
  | _, _, 0 => []
  | previous, counter, count + 1 =>
      let block := hash (strxor b0.val previous.val ++ beBytes 1 counter ++ dstPrime)
      block :: laterBlocks hash b0 dstPrime block (counter + 1) count

/-- `lenInBytes` octets that depend on a message and a domain separation tag; `blockLength` is
the input block size of the hash function.
-/
def expandMessageXmd (hash : Bytes → BytesN width) (blockLength : Nat) (msg dst : Bytes)
    (lenInBytes : Nat)
    : Option Bytes :=
  let ell := (lenInBytes + width - 1) / width
  if 255 < ell ∨ 65535 < lenInBytes ∨ 255 < dst.length then
    none
  else
    let dstPrime := dst ++ beBytes 1 dst.length
    let zPad := beBytes blockLength 0
    let libStr := beBytes 2 lenInBytes
    let b0 := hash (zPad ++ msg ++ libStr ++ beBytes 1 0 ++ dstPrime)
    let b1 := hash (b0.val ++ beBytes 1 1 ++ dstPrime)
    let blocks := b1 :: laterBlocks hash b0 dstPrime b1 2 (ell - 1)
    some ((blocks.flatMap fun block => block.val).take lenInBytes)

variable {hash : Bytes → BytesN width}

/-- There are as many later blocks as asked for, by induction on their number. -/
theorem laterBlocks_length (b0 previous : BytesN width) (dstPrime : Bytes) (counter count : Nat)
    : (laterBlocks hash b0 dstPrime previous counter count).length = count := by
  induction count generalizing previous counter with
  | zero => rfl
  | succ count ih => rw [laterBlocks, List.length_cons, ih]

theorem flatMap_val_length (blocks : List (BytesN width))
    : (blocks.flatMap fun block => block.val).length = blocks.length * width := by
  induction blocks with
  | nil => simp
  | cons block blocks ih =>
      rw [List.flatMap_cons, List.length_append, ih, block.property, List.length_cons]
      ring

/-- The expander returns as many octets as asked for. -/
theorem expandMessageXmd_length {blockLength lenInBytes : Nat} {msg dst uniform : Bytes}
    (positive : 0 < width)
    (expanded : expandMessageXmd hash blockLength msg dst lenInBytes = some uniform)
    : uniform.length = lenInBytes := by
  dsimp only [expandMessageXmd] at expanded
  split at expanded
  case isTrue => cases expanded
  case isFalse =>
    obtain rfl := Option.some.inj expanded
    rw [List.length_take, flatMap_val_length, List.length_cons, laterBlocks_length]
    apply min_eq_left
    have rounds := Nat.div_add_mod (lenInBytes + width - 1) width
    have rest := Nat.mod_lt (lenInBytes + width - 1) positive
    have enough
        : (lenInBytes + width - 1) / width
          ≤ (lenInBytes + width - 1) / width - 1 + 1 := by
      omega
    have scaled := Nat.mul_le_mul_right width enough
    rw [mul_comm] at rounds
    omega

end ExpandMessage
