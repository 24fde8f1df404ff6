/-! Calls on a stored state that keep what they wrote when they fail. A call that writes only
after its last check leaves the state as it was wherever it fails.
-/

namespace StoredCalls

/-- A call that reads and writes a state and may fail on the way. -/
abbrev Call (Failure State Value : Type) := ExceptT Failure (StateM State) Value

variable {Failure State Value Result : Type}

/-- The outcome of a call, with the state that it leaves in either case. -/
def run (call : Call Failure State Value) (state : State) : Except Failure Value × State :=
  (ExceptT.run call).run state

def reads (observe : State → Value) : Call Failure State Value := do
  let state ← get
  return observe state

def writes (change : State → State) : Call Failure State Unit := modify change

def failIf (condition : Prop) [Decidable condition] (failure : Failure)
    : Call Failure State Unit :=
  if condition then throw failure else pure ()

def getOrFail (failure : Failure) : Option Value → Call Failure State Value
  | some value => pure value
  | none => throw failure

/-- An outcome without writes of its own, as the outcome of a call. -/
def settle (state : State) : Except Failure (State × Value) → Except Failure Value × State
  | .ok (after, value) => (.ok value, after)
  | .error failure => (.error failure, state)

@[simp]
theorem run_pure (value : Value) (state : State)
    : run (pure value : Call Failure State Value) state = (.ok value, state) :=
  rfl

-- In brackets, so that a rewrite is a step of its own and no conversion of whole calls.
theorem run_reads_bind (observe : State → Value) (next : Value → Call Failure State Result)
    (state : State)
    : run (reads observe >>= next) state = run (next (observe state)) state :=
  (rfl)

theorem run_writes_bind (change : State → State) (next : Unit → Call Failure State Result)
    (state : State)
    : run (writes change >>= next) state = run (next ()) (change state) :=
  (rfl)

theorem run_failIf_bind (condition : Prop) [Decidable condition] (failure : Failure)
    (next : Unit → Call Failure State Result) (state : State)
    : run (failIf condition failure >>= next) state
      = if condition then (.error failure, state) else run (next ()) state := by
  unfold failIf
  split <;> rfl

theorem run_getOrFail_bind (failure : Failure) (found : Option Value)
    (next : Value → Call Failure State Result) (state : State)
    : run (getOrFail failure found >>= next) state
      = match found with
        | some value => run (next value) state
        | none => (.error failure, state) := by
  cases found <;> rfl

@[simp]
theorem settle_error (state : State) (failure : Failure)
    : settle state (.error failure : Except Failure (State × Value)) = (.error failure, state) :=
  rfl

theorem settle_ite (state : State) (condition : Prop) [Decidable condition]
    (first second : Except Failure (State × Value))
    : settle state (if condition then first else second)
      = if condition then settle state first else settle state second :=
  apply_ite _ _ _ _

end StoredCalls
