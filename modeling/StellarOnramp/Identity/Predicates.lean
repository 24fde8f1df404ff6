import StellarOnramp.Identity.Credential

/-! Disclosure requests: which indexes to reveal, together with the values they must show. A
gate request is the metadata block and the claims that a holder names.
-/

namespace StellarOnramp.Identity

open Attempts JsText Octets

/-- A disclosure request. The label carries no authority. -/
structure Predicate where
  label : JsString
  disclose : List Number
  /-- In insertion order, each claim once. -/
  expect : List (ClaimName × ClaimValue)
  deriving DecidableEq

def predicateFailure (message : JsString) : Failure :=
  { kind := .predicate, message }

/-- The booleans that a holder can choose to disclose. -/
def disclosableClaimNames : List ClaimName :=
  [.over18, .over21, .notSanctioned, .notPep, .jurisdictionOk, .livenessOk]

/-- Reveal one boolean claim and expect `true`. -/
def claimPredicate (name : ClaimName) : Attempt Predicate := do
  failIf (name ∉ disclosableClaimNames)
    (predicateFailure (js "\"" ++ ofOctets name.text ++ js "\" is not a disclosable claim"))
  .ok
    {
      label := ofOctets name.text
      disclose := [claimIndex name]
      expect := [(name, .boolean true)]
    }

/-- The metadata block of a credential. -/
def credentialAudit : Predicate :=
  {
    label := js "credentialAudit"
    disclose :=
      [
        claimIndex .schemaVersion,
        claimIndex .issuerId,
        claimIndex .revocationIndex,
        claimIndex .issuedAt,
        claimIndex .expiresAt,
        claimIndex .subjectBinding
      ]
    expect := [(.schemaVersion, .string schemaVersion)]
  }

/-- Add expectations one by one; a different value for a claim is a conflict. -/
def mergeExpect (expect : List (ClaimName × ClaimValue))
    : List (ClaimName × ClaimValue) → Attempt (List (ClaimName × ClaimValue))
  | [] => .ok expect
  | (name, value) :: rest =>
      match expect.lookup name with
      | none => mergeExpect (expect ++ [(name, value)]) rest
      | some existing => do
          failIf (existing ≠ value)
            (predicateFailure
              (js "conflicting expectations for \"" ++ ofOctets name.text ++ js "\": "
                ++ existing.text ++ js " vs " ++ value.text))
          mergeExpect expect rest

/-- Conjunction: the indexes of all requests, ascending, and their expectations. -/
def allOf (predicates : List Predicate) : Attempt Predicate := do
  failIf (predicates = []) (predicateFailure (js "allOf requires at least one predicate"))
  let expect ← mergeExpect [] (predicates.flatMap Predicate.expect)
  let disclose := (predicates.flatMap Predicate.disclose).eraseDups
  .ok
    {
      label := (js " AND ").intercalate (predicates.map Predicate.label)
      disclose := disclose.insertionSort (fun left right => left ≤ right)
      expect
    }

/-- The metadata block and exactly the named claims. Duplicate names collapse. -/
def gatePredicateFor (names : List ClaimName) : Attempt Predicate := do
  let unique := names.eraseDups
  failIf (unique = [])
    (predicateFailure (js "gatePredicateFor requires at least one claim"))
  let claims ← unique.mapM claimPredicate
  allOf (credentialAudit :: claims)

/-- Derive a proof that answers the predicate. -/
def prove (bbs : BbsLibrary) (sha256 : Bytes → Bytes) (credential : Credential)
    (predicate : Predicate) (binding : ProofBinding)
    : Attempt Proof :=
  derive bbs sha256 credential predicate.disclose binding

-----------------------------------------------------------------------------------------
-- What a gate request discloses
-----------------------------------------------------------------------------------------

/-- The request for one claim. -/
def oneClaim (name : ClaimName) : Predicate :=
  {
    label := ofOctets name.text
    disclose := [claimIndex name]
    expect := [(name, .boolean true)]
  }

theorem claimPredicate_eq_ok {name : ClaimName} {predicate : Predicate}
    : claimPredicate name = .ok predicate
      ↔ name ∈ disclosableClaimNames ∧ predicate = oneClaim name := by
  rw [claimPredicate, failIf_bind_eq_ok, not_not, Except.ok.injEq, eq_comm (b := predicate)]
  rfl

/-- Requests for a list of names succeed when all are disclosable. -/
theorem mapM_claimPredicate {names : List ClaimName} {claims : List Predicate}
    : names.mapM claimPredicate = .ok claims
      ↔ (∀ name ∈ names, name ∈ disclosableClaimNames) ∧ claims = names.map oneClaim := by
  rw [mapM_eq_ok]
  induction names generalizing claims with
  | nil => cases claims <;> simp
  | cons name rest ih =>
      cases claims with
      | nil => simp
      | cons claim claims =>
          rw [List.map_cons, List.map_cons, List.map_cons, List.cons.injEq, List.cons.injEq,
            claimPredicate_eq_ok, ih, List.forall_mem_cons]
          exact and_and_and_comm

theorem allOf_disclose {predicates : List Predicate} {predicate : Predicate}
    (merged : allOf predicates = .ok predicate) (index : Number)
    : index ∈ predicate.disclose ↔ ∃ part ∈ predicates, index ∈ part.disclose := by
  rcases failIf_bind_eq_ok.mp merged with ⟨-, merged⟩
  rcases bind_eq_ok.mp merged with ⟨expect, -, merged⟩
  cases merged
  rw [List.mem_insertionSort, List.mem_eraseDups, List.mem_flatMap]

/-- A gate request names at least one claim, only disclosable ones, and discloses exactly
their indexes beside the metadata block.
-/
theorem gatePredicateFor_disclose {names : List ClaimName} {predicate : Predicate}
    (requested : gatePredicateFor names = .ok predicate)
    : names ≠ []
      ∧ (∀ name ∈ names, name ∈ disclosableClaimNames)
      ∧ ∀ index,
          index ∈ predicate.disclose
          ↔ index ∈ credentialAudit.disclose ∨ ∃ name ∈ names, index = claimIndex name := by
  rcases failIf_bind_eq_ok.mp requested with ⟨nonempty, requested⟩
  rcases bind_eq_ok.mp requested with ⟨claims, each, merged⟩
  rcases mapM_claimPredicate.mp each with ⟨disclosable, rfl⟩
  refine ⟨?_, fun name member => disclosable name (List.mem_eraseDups.mpr member), ?_⟩
  · rintro rfl
    exact nonempty rfl
  · intro index
    rw [allOf_disclose merged, List.exists_mem_cons_iff]
    apply or_congr_right
    simp only [List.mem_map, List.mem_eraseDups, exists_exists_and_eq_and, oneClaim,
      List.mem_singleton]

/-- Expectations for distinct claims do not conflict, by induction on the new ones. -/
theorem mergeExpect_of_nodup {expect added : List (ClaimName × ClaimValue)}
    (distinct : ((expect ++ added).map Prod.fst).Nodup)
    : mergeExpect expect added = .ok (expect ++ added) := by
  induction added generalizing expect with
  | nil => rw [List.append_nil, mergeExpect]
  | cons pair rest ih =>
      rcases pair with ⟨name, value⟩
      have absent : expect.lookup name = none := by
        rw [List.lookup_eq_none_iff]
        intro other member
        rw [List.map_append, List.nodup_append] at distinct
        have apart := distinct.2.2 other.1 (List.mem_map_of_mem member) name (by simp)
        simpa using fun same => apart same.symm
      rw [mergeExpect, absent]
      have grouped : expect ++ (name, value) :: rest = expect ++ [(name, value)] ++ rest := by
        simp
      rw [grouped] at distinct ⊢
      exact ih distinct

/-- A JavaScript set lists each element once, by induction from the end. -/
theorem nodup_eraseDups {α : Type} [DecidableEq α] (names : List α) : names.eraseDups.Nodup := by
  induction names using List.reverseRecOn with
  | nil => exact List.nodup_nil
  | append_singleton names name ih =>
      rw [List.eraseDups_append, List.removeAll]
      by_cases known : name ∈ names
      · simpa [known] using ih
      · have kept : [name].filter (fun other => !names.elem other) = [name] := by
          simp [known]
        have apart : names.eraseDups.Disjoint [name] := by
          rw [List.disjoint_singleton, List.mem_eraseDups]
          exact known
        rw [kept]
        exact ih.append (List.nodup_singleton name) apart

/-- Every nonempty list of disclosable names is a gate request. -/
theorem gatePredicateFor_isOk {names : List ClaimName} (nonempty : names ≠ [])
    (disclosable : ∀ name ∈ names, name ∈ disclosableClaimNames)
    : ∃ predicate, gatePredicateFor names = .ok predicate := by
  have member (name : ClaimName) (unique : name ∈ names.eraseDups)
      : name ∈ disclosableClaimNames :=
    disclosable name (List.mem_eraseDups.mp unique)
  have names_map (list : List ClaimName)
      : ((list.map oneClaim).flatMap Predicate.expect).map Prod.fst = list := by
    induction list with
    | nil => rfl
    | cons name rest ih => simpa [oneClaim] using ih
  have distinct
      : ((([] : List (ClaimName × ClaimValue))
            ++ (credentialAudit :: names.eraseDups.map oneClaim).flatMap Predicate.expect).map
          Prod.fst).Nodup := by
    rw [List.nil_append, List.flatMap_cons, List.map_append, names_map]
    change (ClaimName.schemaVersion :: names.eraseDups).Nodup
    refine List.nodup_cons.mpr ⟨fun metadata => ?_, nodup_eraseDups names⟩
    exact absurd (member _ metadata) (by decide)
  refine ⟨_, failIf_bind_eq_ok.mpr ⟨?_, bind_eq_ok.mpr
    ⟨_, mapM_claimPredicate.mpr ⟨member, rfl⟩, failIf_bind_eq_ok.mpr ⟨List.cons_ne_nil _ _,
      bind_eq_ok.mpr ⟨_, mergeExpect_of_nodup distinct, rfl⟩⟩⟩⟩⟩
  rcases List.exists_mem_of_ne_nil names nonempty with ⟨name, named⟩
  exact List.ne_nil_of_mem (List.mem_eraseDups.mpr named)

end StellarOnramp.Identity
