/-! Stored entries with a lifetime: an entry is live up to and including its last ledger, a
write keeps the lifetime of a live entry, and an extension never shortens one.
-/

namespace Lifetimes

/-- A stored value and the last ledger it is live in. -/
structure Entry (Value : Type) where
  value : Value
  liveUntil : Nat

variable {Value : Type}

/-- Whether a slot holds a live entry in ledger `now`. -/
def has (now : Nat) : Option (Entry Value) → Bool
  | some entry => decide (now ≤ entry.liveUntil)
  | none => false

/-- Write a value. A live entry keeps its lifetime; a missing or lapsed one starts afresh
with the network's minimum.
-/
def put (now minimum : Nat) (slot : Option (Entry Value)) (value : Value) : Entry Value :=
  match slot with
  | some entry =>
      if now ≤ entry.liveUntil then
        { value, liveUntil := entry.liveUntil }
      else
        { value, liveUntil := now + minimum }
  | none => { value, liveUntil := now + minimum }

/-- Raise a lifetime to `now + extendTo` when at most `threshold` ledgers remain. -/
def extendTtl (now threshold extendTo : Nat) (entry : Entry Value) : Entry Value :=
  if entry.liveUntil - now ≤ threshold then
    { entry with liveUntil := max entry.liveUntil (now + extendTo) }
  else
    entry

/-- A live slot holds an entry that is not past its last ledger. -/
theorem has_iff {now : Nat} {slot : Option (Entry Value)}
    : has now slot = true ↔ ∃ entry, slot = some entry ∧ now ≤ entry.liveUntil := by
  cases slot <;> simp [has]

/-- A slot is not live exactly when any entry in it has lapsed. -/
theorem has_eq_false_iff {now : Nat} {slot : Option (Entry Value)}
    : has now slot = false ↔ ∀ entry, slot = some entry → entry.liveUntil < now := by
  cases slot <;> simp [has]

@[simp]
theorem put_value (now minimum : Nat) (slot : Option (Entry Value)) (value : Value)
    : (put now minimum slot value).value = value := by
  unfold put
  split
  · split <;> rfl
  · rfl

@[simp]
theorem extendTtl_value (now threshold extendTo : Nat) (entry : Entry Value)
    : (extendTtl now threshold extendTo entry).value = entry.value := by
  unfold extendTtl
  split <;> rfl

/-- An extension by its own threshold always reaches it: a remaining lifetime above the
threshold is already longer than the extension.
-/
theorem le_extendTtl_of_same (now ttl : Nat) (entry : Entry Value)
    : now + ttl ≤ (extendTtl now ttl ttl entry).liveUntil := by
  unfold extendTtl
  split
  · exact Nat.le_max_right _ _
  · omega

/-- A deadline within the extension is covered exactly when the remaining lifetime is at
most the threshold, so that the extension happens, or already reaches the deadline.
-/
theorem le_extendTtl_iff {now threshold extendTo deadline : Nat} {entry : Entry Value}
    (within : deadline ≤ now + extendTo)
    : deadline ≤ (extendTtl now threshold extendTo entry).liveUntil
      ↔ entry.liveUntil - now ≤ threshold ∨ deadline ≤ entry.liveUntil := by
  unfold extendTtl
  split
  case isTrue short =>
    exact ⟨fun _ => Or.inl short, fun _ => Nat.le_trans within (Nat.le_max_right _ _)⟩
  case isFalse long => exact ⟨Or.inr, fun h => h.resolve_left long⟩

end Lifetimes
