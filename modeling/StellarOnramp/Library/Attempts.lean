/-! Sequential code that may stop early: how a successful run is read back step by step. -/

namespace Attempts

variable {ε α β : Type}

/-- A step of a failing computation succeeded. -/
theorem bind_eq_ok {first : Except ε α} {next : α → Except ε β} {result : β}
    : first >>= next = .ok result ↔ ∃ value, first = .ok value ∧ next value = .ok result := by
  cases first <;> simp [bind, Except.bind]

/-- The last step of a computation shapes its result. -/
theorem bind_ok_eq_ok {first : Except ε α} {shape : α → β} {result : β}
    : (first >>= fun value => Except.ok (shape value)) = .ok result
      ↔ ∃ value, first = .ok value ∧ result = shape value := by
  simp only [bind_eq_ok, Except.ok.injEq]
  exact exists_congr fun value => and_congr_right fun _ => eq_comm

/-- Stop with a failure when something is wrong. -/
def failIf (wrong : Prop) [Decidable wrong] (failure : ε) : Except ε Unit :=
  if wrong then .error failure else .ok ()

theorem failIf_eq_ok {wrong : Prop} [Decidable wrong] {failure : ε} {done : Unit}
    : failIf wrong failure = .ok done ↔ ¬ wrong := by
  unfold failIf
  split
  case isTrue bad => simp [bad]
  case isFalse good => simp [good]

/-- A check before the rest of a computation. -/
theorem failIf_bind_eq_ok {wrong : Prop} [Decidable wrong] {failure : ε}
    {next : Unit → Except ε β} {result : β}
    : failIf wrong failure >>= next = .ok result ↔ ¬ wrong ∧ next () = .ok result := by
  rw [bind_eq_ok]
  constructor
  · rintro ⟨done, passed, later⟩
    exact ⟨failIf_eq_ok.mp passed, later⟩
  · rintro ⟨right, later⟩
    exact ⟨(), failIf_eq_ok.mpr right, later⟩

/-- A traversal succeeds exactly when every element does, by list induction. -/
theorem mapM_eq_ok {each : α → Except ε β} {items : List α} {results : List β}
    : items.mapM each = .ok results ↔ items.map each = results.map .ok := by
  induction items generalizing results with
  | nil => cases results <;> simp [pure, Except.pure]
  | cons item rest ih =>
      rw [List.mapM_cons, bind_eq_ok, List.map_cons]
      constructor
      · intro traversed
        rcases traversed with ⟨result, here, traversed⟩
        rcases bind_eq_ok.mp traversed with ⟨later, there, traversed⟩
        cases traversed
        rw [List.map_cons, here, ih.mp there]
      · intro each
        cases results with
        | nil => cases each
        | cons result later =>
            rw [List.map_cons, List.cons.injEq] at each
            exact ⟨result, each.1, bind_eq_ok.mpr ⟨later, ih.mpr each.2, rfl⟩⟩

-----------------------------------------------------------------------------------------
-- Which failures are possible
-----------------------------------------------------------------------------------------

/-- A computation fails with allowed failures only. -/
def FailsWith (Allowed : ε → Prop) (attempt : Except ε α) : Prop :=
  ∀ failure, attempt = .error failure → Allowed failure

variable {Allowed : ε → Prop}

theorem failsWith_ok (value : α) : FailsWith Allowed (.ok value : Except ε α) := by
  rintro _ ⟨⟩

theorem failsWith_error {failure : ε} (allowed : Allowed failure)
    : FailsWith Allowed (.error failure : Except ε α) := by
  rintro _ ⟨⟩
  exact allowed

theorem FailsWith.bind {first : Except ε α} {next : α → Except ε β}
    (first_fails : FailsWith Allowed first) (next_fails : ∀ value, FailsWith Allowed (next value))
    : FailsWith Allowed (first >>= next) := by
  intro failure failed
  cases first with
  | error reason =>
      obtain rfl : reason = failure := Except.error.inj failed
      exact first_fails reason rfl
  | ok value => exact next_fails value failure failed

theorem failsWith_failIf {wrong : Prop} [Decidable wrong] {failure : ε}
    (allowed : Allowed failure)
    : FailsWith Allowed (failIf wrong failure) := by
  unfold failIf
  split
  case isTrue => exact failsWith_error allowed
  case isFalse => exact failsWith_ok ()

end Attempts
