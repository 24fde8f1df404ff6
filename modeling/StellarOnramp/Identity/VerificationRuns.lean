import Mathlib.Logic.Function.Basic
import StellarOnramp.Identity.VerificationPolicy
import StellarOnramp.Library.Transitions

/-! Concurrent verifications that share one replay guard. Each call runs without a break
between the points where it waits; there any other call may run.
-/

namespace StellarOnramp.Identity

open Attempts JsText Octets
open Transitions

/-- Where a call stands. A settled call is valid with its claims, or rejected. -/
inductive Stage where
  | proving (decoded : Decoded) (header : Bytes)
  | resolving (decoded : Decoded) (request : StatusListRequest)
  | decoding (decoded : Decoded) (request : StatusListRequest)
      (resolved : Option BitstringStatusList)
  | settled (outcome : Check Decoded)

/-- A call under way, with what its resolver answered. -/
structure Progress where
  call : VerifyCall
  answer : Option BitstringStatusList
  stage : Stage

/-- What a waiting call resumes with. A resolver that throws answers `none`. -/
inductive Continuation where
  | proofVerified
  | listResolved (answer : Option (Option BitstringStatusList))
  | listDecoded

inductive VerifyEvent where
  | begin (id : Nat) (call : VerifyCall)
  | resume (id : Nat) (continuation : Continuation)

def VerifyEvent.id : VerifyEvent → Nat
  | begin id _ | resume id _ => id

structure Verifications where
  replayGuard : ReplayGuard
  calls : Nat → Option Progress

/-- A guard that calls are about to share. -/
def Verifications.idle (replayGuard : ReplayGuard) : Verifications :=
  { replayGuard, calls := fun _ => none }

/-- Up to the call of the BBS library. -/
def Stage.begin (libraries : VerifierLibraries) (call : VerifyCall) : Stage :=
  match checkStructure libraries call with
  | .ok (decoded, header) => .proving decoded header
  | .error rejection => .settled (.error rejection)

/-- The last step of a call, which uses the guard. -/
def Stage.finish (libraries : VerifierLibraries) (call : VerifyCall) (replayGuard : ReplayGuard)
    (decoded : Decoded)
    : Stage × ReplayGuard :=
  match spendBinding libraries.sha256 call replayGuard with
  | .ok spent => (.settled (.ok decoded), spent)
  | .error rejection => (.settled (.error rejection), replayGuard)

/-- From the verdict of the BBS library to the status list. -/
def Stage.afterProof (libraries : VerifierLibraries) (call : VerifyCall)
    (replayGuard : ReplayGuard) (decoded : Decoded) (header : Bytes)
    : Stage × ReplayGuard :=
  match checkDisclosed libraries call decoded (libraries.proofVerdict call header) with
  | .error rejection => (.settled (.error rejection), replayGuard)
  | .ok () =>
      match call.options.statusList with
      | .unsafeSkip => Stage.finish libraries call replayGuard decoded
      | .enforce source =>
          match statusRequest call.options decoded with
          | .error rejection => (.settled (.error rejection), replayGuard)
          | .ok request =>
              match source with
              | .list supplied => (.decoding decoded request supplied, replayGuard)
              | .resolver => (.resolving decoded request, replayGuard)

/-- From the decoded status list to the end. -/
def Stage.afterList (libraries : VerifierLibraries) (call : VerifyCall)
    (replayGuard : ReplayGuard) (decoded : Decoded) (request : StatusListRequest)
    (resolved : Option BitstringStatusList)
    : Stage × ReplayGuard :=
  match checkStatus libraries.platform request resolved with
  | .error rejection => (.settled (.error rejection), replayGuard)
  | .ok () => Stage.finish libraries call replayGuard decoded

def resolverFailure : Rejection :=
  fail .statusListInvalid (js "status list resolver failed: ")

/-- Resume a call with what it waits for. -/
def Progress.resume (libraries : VerifierLibraries) (replayGuard : ReplayGuard)
    (progress : Progress)
    : Continuation → Option (Progress × ReplayGuard)
  | .proofVerified =>
      match progress.stage with
      | .proving decoded header =>
          let (stage, spent) :=
            Stage.afterProof libraries progress.call replayGuard decoded header
          some ({ progress with stage }, spent)
      | _ => none
  | .listResolved answer =>
      match progress.stage, answer with
      | .resolving _ _, none =>
          some ({ progress with stage := .settled (.error resolverFailure) }, replayGuard)
      | .resolving decoded request, some answer =>
          some ({ progress with answer, stage := .decoding decoded request answer }, replayGuard)
      | _, _ => none
  | .listDecoded =>
      match progress.stage with
      | .decoding decoded request resolved =>
          let (stage, spent) :=
            Stage.afterList libraries progress.call replayGuard decoded request resolved
          some ({ progress with stage }, spent)
      | _ => none

/-- All interleavings of the calls. -/
def verifyDetailed (libraries : VerifierLibraries) : Machine Verifications VerifyEvent where
  step state event :=
    match event with
    | .begin id call =>
        match state.calls id with
        | some _ => none
        | none =>
            let progress : Progress :=
              { call, answer := none, stage := Stage.begin libraries call }
            some { state with calls := Function.update state.calls id (some progress) }
    | .resume id continuation => do
        let progress ← state.calls id
        let (later, replayGuard) ← progress.resume libraries state.replayGuard continuation
        some { replayGuard, calls := Function.update state.calls id (some later) }

-----------------------------------------------------------------------------------------
-- One step of one call
-----------------------------------------------------------------------------------------

/-- The call returned `valid: true` and used up the binding with this digest. -/
structure Spent (libraries : VerifierLibraries) (progress : Progress) (digest : JsString) : Prop
    where
  shares : progress.call.options.replayGuard = .enforce true
  digest : bindingDigestHex libraries.sha256 progress.call.expectedBinding = .ok digest
  valid : ∃ decoded, progress.stage = .settled (.ok decoded)

/-- What a call that has come this far knows. -/
def Progress.Sound (libraries : VerifierLibraries) (progress : Progress) : Prop :=
  match progress.stage with
  | .proving decoded header =>
      WellFormed libraries.sha256 progress.call decoded
      ∧ presentationHeaderFor libraries.sha256 progress.call.expectedBinding = .ok header
  | .resolving decoded request =>
      Vetted libraries progress.call decoded
      ∧ progress.call.options.statusList = .enforce .resolver
      ∧ statusRequest progress.call.options decoded = .ok request
  | .decoding decoded request resolved =>
      Vetted libraries progress.call decoded
      ∧ (∃ source,
          progress.call.options.statusList = .enforce source
          ∧ resolved = source.supplied progress.answer)
      ∧ statusRequest progress.call.options decoded = .ok request
  | .settled (.ok decoded) => Honoured libraries progress.call progress.answer decoded
  | .settled (.error _) => True

/-- What a step of a call does to the guard: nothing, or one fresh digest is used by a call
that settles as valid.
-/
def GuardStep (libraries : VerifierLibraries) (progress : Progress)
    (replayGuard spent : ReplayGuard)
    : Prop :=
  (spent = replayGuard ∧ ∀ digest, ¬ Spent libraries progress digest)
  ∨ ∃ digest,
      Spent libraries progress digest
      ∧ digest ∉ replayGuard.consumed
      ∧ spent = { consumed := digest :: replayGuard.consumed }

/-- A call that is not settled as valid spends nothing. -/
theorem GuardStep.unchanged {libraries : VerifierLibraries} {progress : Progress}
    {replayGuard : ReplayGuard}
    (waiting : ∀ decoded, progress.stage ≠ .settled (.ok decoded))
    : GuardStep libraries progress replayGuard replayGuard := by
  refine Or.inl ⟨rfl, fun digest spent => ?_⟩
  obtain ⟨decoded, settled⟩ := spent.valid
  exact waiting decoded settled

theorem begin_sound {libraries : VerifierLibraries} (progress : Progress)
    (started : progress.stage = Stage.begin libraries progress.call)
    : progress.Sound libraries ∧ ∀ digest, ¬ Spent libraries progress digest := by
  unfold Stage.begin at started
  split at started
  case h_1 decoded header passed =>
    refine ⟨?_, fun digest spent => ?_⟩
    · unfold Progress.Sound
      rw [started]
      exact checkStructure_eq_ok passed
    · obtain ⟨other, settled⟩ := spent.valid
      cases started.symm.trans settled
  case h_2 rejection refused =>
    refine ⟨by simp [Progress.Sound, started], fun digest spent => ?_⟩
    obtain ⟨other, settled⟩ := spent.valid
    cases started.symm.trans settled

/-- The end of a call: it is honoured, and the guard takes its digest exactly if it is valid
and shares the guard.
-/
theorem finish_sound {libraries : VerifierLibraries} {progress : Progress}
    {replayGuard spent : ReplayGuard} {decoded : Decoded}
    (honoured : Honoured libraries progress.call progress.answer decoded)
    (finished
      : (progress.stage, spent) = Stage.finish libraries progress.call replayGuard decoded)
    : progress.Sound libraries ∧ GuardStep libraries progress replayGuard spent := by
  unfold Progress.Sound
  unfold Stage.finish at finished
  split at finished
  case h_1 later passed =>
    obtain ⟨settled, rfl⟩ := Prod.mk.inj finished
    rw [settled]
    refine ⟨honoured, ?_⟩
    rcases spendBinding_eq_ok passed with ⟨skipped, same⟩ | ⟨digest, shares, written, unused, rest⟩
    · refine Or.inl ⟨same, fun digest spent => ?_⟩
      cases skipped.symm.trans spent.shares
    · exact Or.inr
        ⟨digest, { shares, digest := written, valid := ⟨decoded, settled⟩ }, unused, rest⟩
  case h_2 rejection refused =>
    obtain ⟨settled, rfl⟩ := Prod.mk.inj finished
    rw [settled]
    refine ⟨trivial, GuardStep.unchanged fun other valid => ?_⟩
    cases settled.symm.trans valid

/-- One case for each way past the verdict of the BBS library. -/
theorem afterProof_sound {libraries : VerifierLibraries} {progress : Progress}
    {replayGuard spent : ReplayGuard} {decoded : Decoded} {header : Bytes}
    (wellFormed : WellFormed libraries.sha256 progress.call decoded)
    (heading
      : presentationHeaderFor libraries.sha256 progress.call.expectedBinding = .ok header)
    (advanced
      : (progress.stage, spent)
        = Stage.afterProof libraries progress.call replayGuard decoded header)
    : progress.Sound libraries ∧ GuardStep libraries progress replayGuard spent := by
  unfold Stage.afterProof at advanced
  split at advanced
  case h_1 rejection refused =>
    obtain ⟨settled, rfl⟩ := Prod.mk.inj advanced
    refine ⟨by simp [Progress.Sound, settled], GuardStep.unchanged (by simp [settled])⟩
  case h_2 passed =>
    have vetted := checkDisclosed_eq_ok wellFormed heading passed
    split at advanced
    case h_1 skipped =>
      refine finish_sound { vetted with unrevoked := ?_ } advanced
      rw [skipped]
      exact Policy.asks_unsafeSkip _
    case h_2 source enforced =>
      split at advanced
      case h_1 rejection refused =>
        obtain ⟨settled, rfl⟩ := Prod.mk.inj advanced
        refine ⟨by simp [Progress.Sound, settled], GuardStep.unchanged (by simp [settled])⟩
      case h_2 request asked =>
        cases source with
        | list supplied =>
            obtain ⟨waiting, rfl⟩ := Prod.mk.inj advanced
            refine ⟨?_, GuardStep.unchanged (by simp [waiting])⟩
            unfold Progress.Sound
            rw [waiting]
            exact ⟨vetted, ⟨.list supplied, enforced, rfl⟩, asked⟩
        | resolver =>
            obtain ⟨waiting, rfl⟩ := Prod.mk.inj advanced
            refine ⟨?_, GuardStep.unchanged (by simp [waiting])⟩
            unfold Progress.Sound
            rw [waiting]
            exact ⟨vetted, enforced, asked⟩

theorem afterList_sound {libraries : VerifierLibraries} {progress : Progress}
    {replayGuard spent : ReplayGuard} {decoded : Decoded} {request : StatusListRequest}
    {source : StatusListSource}
    (vetted : Vetted libraries progress.call decoded)
    (enforced : progress.call.options.statusList = .enforce source)
    (asked : statusRequest progress.call.options decoded = .ok request)
    (advanced
      : (progress.stage, spent)
        = Stage.afterList libraries progress.call replayGuard decoded request
            (source.supplied progress.answer))
    : progress.Sound libraries ∧ GuardStep libraries progress replayGuard spent := by
  unfold Stage.afterList at advanced
  split at advanced
  case h_1 rejection refused =>
    obtain ⟨settled, rfl⟩ := Prod.mk.inj advanced
    refine ⟨by simp [Progress.Sound, settled], GuardStep.unchanged (by simp [settled])⟩
  case h_2 passed =>
    refine finish_sound { vetted with unrevoked := ?_ } advanced
    rw [enforced]
    exact Policy.asks_enforce (checkStatus_eq_ok asked passed)

/-- A resumed call was not settled, stays sound and keeps to the guard. -/
theorem resume_sound {libraries : VerifierLibraries} {replayGuard spent : ReplayGuard}
    {progress later : Progress} {continuation : Continuation}
    (sound : progress.Sound libraries)
    (resumed : progress.resume libraries replayGuard continuation = some (later, spent))
    : (∀ outcome, progress.stage ≠ .settled outcome)
      ∧ later.Sound libraries
      ∧ GuardStep libraries later replayGuard spent := by
  unfold Progress.Sound at sound
  cases continuation with
  | proofVerified =>
      simp only [Progress.resume] at resumed
      split at resumed
      case h_2 => cases resumed
      case h_1 decoded header waiting =>
        rw [waiting] at sound ⊢
        cases resumed
        exact ⟨by simp, afterProof_sound sound.1 sound.2 rfl⟩
  | listResolved answer =>
      simp only [Progress.resume] at resumed
      split at resumed
      case h_3 => cases resumed
      case h_1 waiting =>
        rw [waiting]
        cases resumed
        exact ⟨by simp, trivial, GuardStep.unchanged (by simp)⟩
      case h_2 decoded request answer waiting =>
        rw [waiting] at sound ⊢
        cases resumed
        obtain ⟨vetted, enforced, asked⟩ := sound
        exact ⟨by simp, ⟨vetted, ⟨.resolver, enforced, rfl⟩, asked⟩, GuardStep.unchanged (by simp)⟩
  | listDecoded =>
      simp only [Progress.resume] at resumed
      split at resumed
      case h_2 => cases resumed
      case h_1 decoded request resolved waiting =>
        rw [waiting] at sound ⊢
        cases resumed
        obtain ⟨vetted, ⟨source, enforced, rfl⟩, asked⟩ := sound
        exact ⟨by simp, afterList_sound vetted enforced asked rfl⟩

-----------------------------------------------------------------------------------------
-- All calls over one guard
-----------------------------------------------------------------------------------------

/-- The calls are sound, and the guard holds what it held at first and the digests of the
valid calls, each of one call.
-/
structure SingleUse (libraries : VerifierLibraries) (initial : ReplayGuard)
    (state : Verifications)
    : Prop where
  sound : ∀ id progress, state.calls id = some progress → progress.Sound libraries
  kept : ∀ digest ∈ initial.consumed, digest ∈ state.replayGuard.consumed
  spent
    : ∀ id progress digest,
        state.calls id = some progress
        → Spent libraries progress digest
        → digest ∈ state.replayGuard.consumed ∧ digest ∉ initial.consumed
  accounted
    : ∀ digest ∈ state.replayGuard.consumed,
        digest ∈ initial.consumed
        ∨ ∃ id progress, state.calls id = some progress ∧ Spent libraries progress digest
  once
    : ∀ left right leftProgress rightProgress digest,
        state.calls left = some leftProgress
        → state.calls right = some rightProgress
        → Spent libraries leftProgress digest
        → Spent libraries rightProgress digest
        → left = right

theorem SingleUse.idle (libraries : VerifierLibraries) (replayGuard : ReplayGuard)
    : SingleUse libraries replayGuard (Verifications.idle replayGuard) where
  sound _ _ found := by cases found
  kept _ member := member
  spent _ _ _ found := by cases found
  accounted _ member := Or.inl member
  once _ _ _ _ _ found := by cases found

/-- A call that had spent nothing takes a step. Witness: the guard either stays or takes one
digest that no other call holds.
-/
theorem SingleUse.update {libraries : VerifierLibraries} {initial : ReplayGuard}
    {state : Verifications} (holds : SingleUse libraries initial state) {id : Nat}
    {progress : Progress} {spent : ReplayGuard}
    (unspent
      : ∀ before, state.calls id = some before → ∀ digest, ¬ Spent libraries before digest)
    (sound : progress.Sound libraries)
    (guarded : GuardStep libraries progress state.replayGuard spent)
    : SingleUse libraries initial
        { replayGuard := spent, calls := Function.update state.calls id (some progress) } := by
  have grows : ∀ digest ∈ state.replayGuard.consumed, digest ∈ spent.consumed := by
    rcases guarded with ⟨rfl, -⟩ | ⟨digest, -, -, rfl⟩
    · exact fun _ member => member
    · exact fun _ member => List.mem_cons_of_mem _ member
  have others : ∀ other before,
      other ≠ id
      → Function.update state.calls id (some progress) other = some before
      → state.calls other = some before := by
    intro other before apart found
    rwa [Function.update_of_ne apart] at found
  have own : ∀ before,
      Function.update state.calls id (some progress) id = some before → before = progress := by
    intro before found
    rw [Function.update_self] at found
    exact (Option.some.inj found).symm
  have fresh : ∀ digest,
      Spent libraries progress digest
      → digest ∈ spent.consumed ∧ digest ∉ state.replayGuard.consumed := by
    intro digest used
    rcases guarded with ⟨-, unspent⟩ | ⟨other, taken, unused, rfl⟩
    · exact absurd used (unspent digest)
    · obtain rfl := Except.ok.inj (used.digest.symm.trans taken.digest)
      exact ⟨List.mem_cons_self, unused⟩
  refine {
    sound := ?_
    kept := fun digest member => grows digest (holds.kept digest member)
    spent := ?_
    accounted := ?_
    once := ?_
  }
  · intro other before found
    by_cases same : other = id
    · subst same
      rw [own before found]
      exact sound
    · exact holds.sound other before (others other before same found)
  · intro other before digest found used
    by_cases same : other = id
    · subst same
      rw [own before found] at used
      obtain ⟨taken, unused⟩ := fresh digest used
      exact ⟨taken, fun known => unused (holds.kept digest known)⟩
    · obtain ⟨taken, new⟩ :=
        holds.spent other before digest (others other before same found) used
      exact ⟨grows digest taken, new⟩
  · intro digest member
    have earlier (member : digest ∈ state.replayGuard.consumed)
        : digest ∈ initial.consumed
          ∨ ∃ other before,
              Function.update state.calls id (some progress) other = some before
              ∧ Spent libraries before digest := by
      rcases holds.accounted digest member with known | ⟨other, before, found, used⟩
      · exact Or.inl known
      · have apart : other ≠ id := by
          rintro rfl
          exact unspent before found digest used
        exact Or.inr ⟨other, before, by rwa [Function.update_of_ne apart], used⟩
    rcases guarded with ⟨rfl, -⟩ | ⟨taken, used, -, rfl⟩
    · exact earlier member
    · rcases List.mem_cons.mp member with rfl | before
      · exact Or.inr ⟨id, progress, Function.update_self .., used⟩
      · exact earlier before
  · intro left right leftProgress rightProgress digest leftFound rightFound leftUsed rightUsed
    by_cases leftSame : left = id
    · by_cases rightSame : right = id
      · exact leftSame.trans rightSame.symm
      · subst leftSame
        rw [own leftProgress leftFound] at leftUsed
        have held :=
          holds.spent right rightProgress digest (others right _ rightSame rightFound) rightUsed
        exact absurd held.1 (fresh digest leftUsed).2
    · by_cases rightSame : right = id
      · subst rightSame
        rw [own rightProgress rightFound] at rightUsed
        have held :=
          holds.spent left leftProgress digest (others left _ leftSame leftFound) leftUsed
        exact absurd held.1 (fresh digest rightUsed).2
      · exact
          holds.once left right leftProgress rightProgress digest
            (others left _ leftSame leftFound) (others right _ rightSame rightFound) leftUsed
            rightUsed

/-- An accepted event moves one call, which had not settled, and keeps to the guard. -/
theorem step_eq_some {libraries : VerifierLibraries} {initial : ReplayGuard}
    {state after : Verifications} {event : VerifyEvent}
    (holds : SingleUse libraries initial state)
    (stepped : (verifyDetailed libraries).step state event = some after)
    : ∃ progress,
        after.calls = Function.update state.calls event.id (some progress)
        ∧ (∀ before,
            state.calls event.id = some before → ∀ digest, ¬ Spent libraries before digest)
        ∧ progress.Sound libraries
        ∧ GuardStep libraries progress state.replayGuard after.replayGuard := by
  cases event with
  | begin id call =>
      simp only [verifyDetailed] at stepped
      split at stepped
      case h_1 => cases stepped
      case h_2 absent =>
        cases stepped
        obtain ⟨sound, unspent⟩ :=
          begin_sound { call, answer := none, stage := Stage.begin libraries call } rfl
        refine ⟨_, rfl, fun before found => ?_, sound, Or.inl ⟨rfl, unspent⟩⟩
        cases absent.symm.trans found
  | resume id continuation =>
      simp only [verifyDetailed, Option.bind_eq_bind, Option.bind_eq_some_iff] at stepped
      obtain ⟨progress, found, ⟨later, spent⟩, resumed, same⟩ := stepped
      cases same
      obtain ⟨waiting, sound, guarded⟩ := resume_sound (holds.sound id progress found) resumed
      refine ⟨later, rfl, fun before here digest used => ?_, sound, guarded⟩
      obtain rfl := Option.some.inj (found.symm.trans here)
      obtain ⟨decoded, settled⟩ := used.valid
      exact waiting _ settled

theorem SingleUse.preserves (libraries : VerifierLibraries) (initial : ReplayGuard)
    : (verifyDetailed libraries).Preserves (SingleUse libraries initial) := by
  intro state event after holds stepped
  obtain ⟨progress, moved, unspent, sound, guarded⟩ := step_eq_some holds stepped
  have later := holds.update unspent sound guarded
  rwa [← moved] at later

end StellarOnramp.Identity
