import StellarOnramp.Identity.Predicates
import StellarOnramp.Identity.VerificationRuns

/-! How disclosure requests compose, what a presentation that passes a composed request shows,
and when a country allowlist can be asked for.
-/

namespace StellarOnramp.Identity

open Attempts JsText Octets
open Transitions

-----------------------------------------------------------------------------------------
-- Countries
-----------------------------------------------------------------------------------------

/-- The countries for which the issuer sets `jurisdictionOk`. -/
def issuerJurisdictionPolicy : List JsString :=
  [
    js "AT", js "BE", js "CH", js "CZ", js "DE", js "DK", js "EE", js "ES", js "FI", js "FR",
    js "GB", js "IE", js "IT", js "LT", js "LU", js "LV", js "NL", js "NO", js "PL", js "PT",
    js "SE", js "SI", js "SK"
  ]

def isLetter (unit : UInt16) : Bool := (65 ≤ unit && unit ≤ 90) || (97 ≤ unit && unit ≤ 122)

/-- `/^[A-Za-z]{2}$/` -/
def isCountryCode (code : JsString) : Bool := code.length == 2 && code.all isLetter

/-- ASCII letters in upper case. -/
def toUpperCase (code : JsString) : JsString :=
  code.map fun unit => if 97 ≤ unit && unit ≤ 122 then unit - 32 else unit

def normalizeCountry (code : JsString) : Attempt JsString := do
  failIf (isCountryCode code = false)
    (predicateFailure (js "\"" ++ code ++ js "\" is not an ISO-3166-1 alpha-2 country code"))
  .ok (toUpperCase code)

def normalizeCountries (list : List JsString) : Attempt (List JsString) := do
  let out ← list.mapM normalizeCountry
  failIf (out = []) (predicateFailure (js "country allowlist must not be empty"))
  .ok out

/-- The holder's country is in the allowlist, which the issuer's verdict can only say where the
list holds every country of the issuer's policy.
-/
def countryAllowed (allowed : List JsString) (issuerPolicy : Option (List JsString))
    : Attempt Predicate := do
  let rp ← normalizeCountries allowed
  let issuer ← normalizeCountries (issuerPolicy.getD issuerJurisdictionPolicy)
  let missing := issuer.filter fun country => !rp.elem country
  failIf (missing ≠ [])
    (predicateFailure
      (js "countryAllowed is unsatisfiable over schema v1: the issuer stamps "
        ++ js "jurisdictionOk=true for " ++ (js ",").intercalate missing
        ++ js ", which your allowlist excludes. Schema v1 has no country attribute, so a "
        ++ js "per-country proof is impossible without a schema bump."))
  .ok
    {
      label :=
        js "countryAllowed("
          ++ (js ",").intercalate
            (rp.eraseDups.insertionSort fun left right => ¬ right < left)
          ++ js ")"
      disclose := [claimIndex .jurisdictionOk]
      expect := [(.jurisdictionOk, .boolean true)]
    }

-----------------------------------------------------------------------------------------
-- Checking a presentation
-----------------------------------------------------------------------------------------

/-- Check a presentation against a request: the shape first, then the call of the full
verification that is made.
-/
def checkPredicate (proof : Proof) (predicate : Predicate) (issuerPubKey : Bytes)
    (expectedBinding : ProofBinding) (options : VerifyOptions)
    : Check VerifyCall := do
  let want := predicate.disclose.insertionSort fun left right => left ≤ right
  failIf (want ≠ proof.disclosedIndexes)
    (fail .disclosureShape
      (js "predicate \"" ++ predicate.label ++ js "\" wants indexes [" ++ joinNumbers want
        ++ js "], proof discloses [" ++ joinNumbers proof.disclosedIndexes ++ js "]"))
  .ok
    {
      proof
      issuerPubKey
      expectedBinding
      options :=
        { options with
          expectedClaims :=
            .enforce
              (some (predicate.expect.map fun entry => (ofOctets entry.1.text, some entry.2)))
          expectedDisclosedIndexes := .enforce (some want) }
    }

-----------------------------------------------------------------------------------------
-- Merging expectations
-----------------------------------------------------------------------------------------

/-- No claim has two values. -/
def Consistent (expect : List (ClaimName × ClaimValue)) : Prop :=
  ∀ name left right, (name, left) ∈ expect → (name, right) ∈ expect → left = right

theorem consistent_of_nodup {expect : List (ClaimName × ClaimValue)}
    (distinct : (expect.map Prod.fst).Nodup)
    : Consistent expect := by
  intro name left right held also
  exact congrArg Prod.snd (List.inj_on_of_nodup_map distinct held also rfl)

theorem mem_of_lookup {expect : List (ClaimName × ClaimValue)} {name : ClaimName}
    {value : ClaimValue} (found : expect.lookup name = some value)
    : (name, value) ∈ expect := by
  obtain ⟨before, after, rfl, -⟩ := List.lookup_eq_some_iff.mp found
  exact List.mem_append_right _ List.mem_cons_self

theorem nodup_append_fresh {expect : List (ClaimName × ClaimValue)} {name : ClaimName}
    (distinct : (expect.map Prod.fst).Nodup) (fresh : expect.lookup name = none)
    (value : ClaimValue)
    : ((expect ++ [(name, value)]).map Prod.fst).Nodup := by
  rw [List.map_append]
  apply distinct.append (List.nodup_singleton name)
  intro other held same
  obtain rfl := List.mem_singleton.mp same
  obtain ⟨entry, member, rfl⟩ := List.mem_map.mp held
  have apart := List.lookup_eq_none_iff.mp fresh entry member
  rw [bne_self_eq_false] at apart
  cases apart

/-- What is merged are the entries of both sides, each claim once. By induction on the new
entries.
-/
theorem mergeExpect_eq_ok {expect added merged : List (ClaimName × ClaimValue)}
    (distinct : (expect.map Prod.fst).Nodup) (passed : mergeExpect expect added = .ok merged)
    : (merged.map Prod.fst).Nodup
      ∧ ∀ entry, entry ∈ merged ↔ entry ∈ expect ∨ entry ∈ added := by
  induction added generalizing expect with
  | nil =>
      obtain rfl := Except.ok.inj passed
      exact ⟨distinct, fun entry => by simp⟩
  | cons entry rest ih =>
      obtain ⟨name, value⟩ := entry
      rw [mergeExpect] at passed
      split at passed
      case h_1 fresh =>
        obtain ⟨once, held⟩ := ih (nodup_append_fresh distinct fresh value) passed
        refine ⟨once, fun other => ?_⟩
        rw [held, List.mem_append, List.mem_singleton, List.mem_cons, or_assoc]
      case h_2 existing found =>
        obtain ⟨same, later⟩ := failIf_bind_eq_ok.mp passed
        obtain rfl := not_not.mp same
        obtain ⟨once, held⟩ := ih distinct later
        refine ⟨once, fun other => ?_⟩
        rw [held, List.mem_cons]
        constructor
        · intro member
          exact member.imp_right Or.inr
        · intro member
          rcases member with before | rfl | later
          · exact Or.inl before
          · exact Or.inl (mem_of_lookup found)
          · exact Or.inr later

/-- Entries that agree are merged, by induction on the new ones. -/
theorem mergeExpect_of_consistent {expect added : List (ClaimName × ClaimValue)}
    (distinct : (expect.map Prod.fst).Nodup) (agree : Consistent (expect ++ added))
    : ∃ merged, mergeExpect expect added = .ok merged := by
  induction added generalizing expect with
  | nil => exact ⟨expect, rfl⟩
  | cons entry rest ih =>
      obtain ⟨name, value⟩ := entry
      rw [mergeExpect]
      split
      case h_1 fresh =>
        apply ih (nodup_append_fresh distinct fresh value)
        rwa [List.append_assoc, List.singleton_append]
      case h_2 existing found =>
        have same : existing = value :=
          agree name existing value (List.mem_append_left _ (mem_of_lookup found))
            (List.mem_append_right _ List.mem_cons_self)
        obtain ⟨merged, passed⟩ : ∃ merged, mergeExpect expect rest = .ok merged := by
          apply ih distinct
          intro other left right held also
          have keep (entry : ClaimName × ClaimValue) (member : entry ∈ expect ++ rest)
              : entry ∈ expect ++ (name, value) :: rest :=
            (List.mem_append.mp member).elim (List.mem_append_left _)
              fun later => List.mem_append_right _ (List.mem_cons_of_mem _ later)
          exact agree other left right (keep _ held) (keep _ also)
        exact ⟨merged, failIf_bind_eq_ok.mpr ⟨not_not.mpr same, passed⟩⟩

-----------------------------------------------------------------------------------------
-- Conjunction
-----------------------------------------------------------------------------------------

/-- The entries of all requests. -/
def entries (predicates : List Predicate) : List (ClaimName × ClaimValue) :=
  predicates.flatMap Predicate.expect

theorem ascending_of_nodup {indexes : List Number} (distinct : indexes.Nodup)
    : (indexes.insertionSort fun left right => left ≤ right).Pairwise
        fun left right => left < right := by
  have sorted := List.pairwise_insertionSort (fun left right : Number => left ≤ right) indexes
  have apart := (List.perm_insertionSort (fun left right : Number => left ≤ right) indexes)
    |>.nodup_iff.mpr distinct
  exact (sorted.and apart).imp fun pair => lt_of_le_of_ne pair.1 pair.2

/-- Two lists of requests ask for the same indexes and the same values. -/
structure AskSame (left right : List Predicate) : Prop where
  disclosed
    : ∀ index,
        (∃ member ∈ left, index ∈ member.disclose) ↔ ∃ member ∈ right, index ∈ member.disclose
  expected : ∀ entry, entry ∈ entries left ↔ entry ∈ entries right

theorem AskSame.refl (predicates : List Predicate) : AskSame predicates predicates :=
  ⟨fun _ => Iff.rfl, fun _ => Iff.rfl⟩

theorem AskSame.symm {left right : List Predicate} (same : AskSame left right)
    : AskSame right left :=
  ⟨fun index => (same.disclosed index).symm, fun entry => (same.expected entry).symm⟩

theorem AskSame.trans {left middle right : List Predicate} (same : AskSame left middle)
    (also : AskSame middle right)
    : AskSame left right :=
  ⟨fun index => (same.disclosed index).trans (also.disclosed index),
    fun entry => (same.expected entry).trans (also.expected entry)⟩

theorem AskSame.append {left right more other : List Predicate} (same : AskSame left right)
    (also : AskSame more other)
    : AskSame (left ++ more) (right ++ other) := by
  constructor
  · intro index
    simp only [List.mem_append, or_and_right, exists_or]
    exact or_congr (same.disclosed index) (also.disclosed index)
  · intro entry
    simp only [entries, List.flatMap_append, List.mem_append]
    exact or_congr (same.expected entry) (also.expected entry)

theorem AskSame.consistent {left right : List Predicate} (same : AskSame left right)
    (agree : Consistent (entries left))
    : Consistent (entries right) := by
  intro name first second held also
  exact agree name first second ((same.expected _).mpr held) ((same.expected _).mpr also)

/-- What a conjunction asks for. -/
structure Conjunction (predicates : List Predicate) (composite : Predicate) : Prop
    extends AskSame [composite] predicates where
  ascending : composite.disclose.Pairwise fun left right => left < right
  once : (composite.expect.map Prod.fst).Nodup

theorem allOf_eq_ok {predicates : List Predicate} {composite : Predicate}
    (built : allOf predicates = .ok composite)
    : Conjunction predicates composite ∧ predicates ≠ [] ∧ Consistent (entries predicates) := by
  have disclosed := allOf_disclose built
  obtain ⟨filled, built⟩ := failIf_bind_eq_ok.mp built
  obtain ⟨expect, merged, built⟩ := bind_eq_ok.mp built
  obtain rfl := Except.ok.inj built
  obtain ⟨once, held⟩ := @mergeExpect_eq_ok [] _ _ List.nodup_nil merged
  have same (entry : ClaimName × ClaimValue) : entry ∈ expect ↔ entry ∈ entries predicates := by
    rw [held, or_iff_right List.not_mem_nil]
    rfl
  refine ⟨⟨⟨?_, ?_⟩, ascending_of_nodup (nodup_eraseDups _), once⟩, filled, ?_⟩
  · intro index
    rw [← disclosed]
    simp only [List.mem_singleton, exists_eq_left]
  · intro entry
    rw [← same]
    simp only [entries, List.flatMap_singleton]
  · intro name left right here there
    exact consistent_of_nodup once name left right ((same _).mpr here) ((same _).mpr there)

theorem allOf_isOk_iff {predicates : List Predicate}
    : (∃ composite, allOf predicates = .ok composite)
      ↔ predicates ≠ [] ∧ Consistent (entries predicates) := by
  constructor
  · intro built
    obtain ⟨composite, built⟩ := built
    exact (allOf_eq_ok built).2
  · intro possible
    obtain ⟨filled, agree⟩ := possible
    obtain ⟨expect, merged⟩ := @mergeExpect_of_consistent [] _ List.nodup_nil agree
    exact ⟨_, failIf_bind_eq_ok.mpr ⟨filled, bind_eq_ok.mpr ⟨expect, merged, rfl⟩⟩⟩

-----------------------------------------------------------------------------------------
-- Nested conjunctions
-----------------------------------------------------------------------------------------

/-- A request, or a conjunction of requests. -/
inductive Composite where
  | one (predicate : Predicate)
  | all (members : List Composite)

namespace Composite

mutual

/-- Inner conjunctions are built first. -/
def build : Composite → Attempt Predicate
  | .one predicate => .ok predicate
  | .all members => do
      let predicates ← buildAll members
      allOf predicates

def buildAll : List Composite → Attempt (List Predicate)
  | [] => .ok []
  | member :: rest => do
      let predicate ← build member
      let predicates ← buildAll rest
      .ok (predicate :: predicates)

end

mutual

/-- The requests at the leaves. -/
def leaves : Composite → List Predicate
  | .one predicate => [predicate]
  | .all members => leavesAll members

def leavesAll : List Composite → List Predicate
  | [] => []
  | member :: rest => leaves member ++ leavesAll rest

end

mutual

/-- No conjunction is of nothing. -/
def Filled : Composite → Prop
  | .one _ => True
  | .all members => members ≠ [] ∧ FilledAll members

def FilledAll : List Composite → Prop
  | [] => True
  | member :: rest => Filled member ∧ FilledAll rest

end

theorem buildAll_ne_nil {members : List Composite} {predicates : List Predicate}
    (built : buildAll members = .ok predicates)
    : predicates ≠ [] ↔ members ≠ [] := by
  cases members with
  | nil =>
      obtain rfl := Except.ok.inj built
      exact ⟨fun filled => absurd rfl filled, fun filled => absurd rfl filled⟩
  | cons member rest =>
      obtain ⟨predicate, -, built⟩ := bind_eq_ok.mp built
      obtain ⟨later, -, built⟩ := bind_eq_ok.mp built
      obtain rfl := Except.ok.inj built
      exact ⟨fun _ => List.cons_ne_nil _ _, fun _ => List.cons_ne_nil _ _⟩

mutual

/-- What is built asks for what the leaves ask for, by induction on the nesting. -/
theorem build_asks
    : ∀ {composite : Composite} {predicate : Predicate},
        composite.build = .ok predicate → composite.Filled ∧ AskSame [predicate] composite.leaves
  | .one predicate, _, built => by
      obtain rfl := Except.ok.inj built
      exact ⟨trivial, .refl _⟩
  | .all members, predicate, built => by
      obtain ⟨predicates, each, merged⟩ := bind_eq_ok.mp built
      obtain ⟨conjunction, filled, -⟩ := allOf_eq_ok merged
      obtain ⟨filledAll, same⟩ := buildAll_asks each
      exact ⟨⟨(buildAll_ne_nil each).mp filled, filledAll⟩, conjunction.toAskSame.trans same⟩

theorem buildAll_asks
    : ∀ {members : List Composite} {predicates : List Predicate},
        buildAll members = .ok predicates
        → FilledAll members ∧ AskSame predicates (leavesAll members)
  | [], _, built => by
      obtain rfl := Except.ok.inj built
      exact ⟨trivial, .refl _⟩
  | member :: rest, _, built => by
      obtain ⟨predicate, here, built⟩ := bind_eq_ok.mp built
      obtain ⟨predicates, there, built⟩ := bind_eq_ok.mp built
      obtain rfl := Except.ok.inj built
      obtain ⟨filled, same⟩ := build_asks here
      obtain ⟨filledRest, sameRest⟩ := buildAll_asks there
      exact ⟨⟨filled, filledRest⟩, same.append sameRest⟩

end

theorem consistent_append {left right : List Predicate}
    (agree : Consistent (entries (left ++ right)))
    : Consistent (entries left) ∧ Consistent (entries right) := by
  rw [entries, List.flatMap_append] at agree
  constructor
  · intro name first second held also
    exact agree name first second (List.mem_append_left _ held) (List.mem_append_left _ also)
  · intro name first second held also
    exact agree name first second (List.mem_append_right _ held) (List.mem_append_right _ also)

mutual

/-- Leaves that agree can be nested in any way, by induction on the nesting. -/
theorem build_of_consistent
    : ∀ composite : Composite,
        composite.Filled
        → Consistent (entries composite.leaves)
        → ∃ predicate, composite.build = .ok predicate
  | .one predicate, _, _ => ⟨predicate, rfl⟩
  | .all members, filled, agree => by
      obtain ⟨predicates, each⟩ := buildAll_of_consistent members filled.2 agree
      obtain ⟨-, same⟩ := buildAll_asks each
      obtain ⟨predicate, merged⟩ :=
        allOf_isOk_iff.mpr ⟨(buildAll_ne_nil each).mpr filled.1, same.symm.consistent agree⟩
      exact ⟨predicate, bind_eq_ok.mpr ⟨predicates, each, merged⟩⟩

theorem buildAll_of_consistent
    : ∀ members : List Composite,
        FilledAll members
        → Consistent (entries (leavesAll members))
        → ∃ predicates, buildAll members = .ok predicates
  | [], _, _ => ⟨[], rfl⟩
  | member :: rest, filled, agree => by
      obtain ⟨here, there⟩ := consistent_append agree
      obtain ⟨predicate, built⟩ := build_of_consistent member filled.1 here
      obtain ⟨predicates, each⟩ := buildAll_of_consistent rest filled.2 there
      exact ⟨_, bind_eq_ok.mpr ⟨predicate, built, bind_eq_ok.mpr ⟨predicates, each, rfl⟩⟩⟩

end

/-- A nested conjunction is a conjunction of its leaves. -/
theorem all_eq_ok {members : List Composite} {predicate : Predicate}
    (built : (all members).build = .ok predicate)
    : (all members).Filled
      ∧ Consistent (entries (leavesAll members))
      ∧ Conjunction (leavesAll members) predicate := by
  obtain ⟨filled, asks⟩ := build_asks built
  obtain ⟨predicates, each, merged⟩ := bind_eq_ok.mp built
  obtain ⟨conjunction, -, agree⟩ := allOf_eq_ok merged
  obtain ⟨-, same⟩ := buildAll_asks each
  exact ⟨filled, same.consistent agree, { conjunction with toAskSame := asks }⟩

end Composite

/-- Two outcomes are the same, whatever the labels and the messages. -/
def SameOutcome : Attempt Predicate → Attempt Predicate → Prop
  | .ok left, .ok right =>
      left.disclose = right.disclose ∧ ∀ entry, entry ∈ left.expect ↔ entry ∈ right.expect
  | .error _, .error _ => True
  | _, _ => False

theorem eq_of_ascending {left right : List Number}
    (ascending : left.Pairwise fun left right => left < right)
    (otherAscending : right.Pairwise fun left right => left < right)
    (same : ∀ index, index ∈ left ↔ index ∈ right)
    : left = right := by
  have order : left.Perm right :=
    (List.perm_ext_iff_of_nodup (ascending.imp ne_of_lt) (otherAscending.imp ne_of_lt)).mpr same
  exact order.eq_of_pairwise (fun _ _ _ _ before after => absurd (before.trans after) (lt_irrefl _))
    ascending otherAscending

/-- Conjunctions of requests that ask for the same are the same. -/
theorem Conjunction.same {left right : List Predicate} {composite other : Predicate}
    (conjunction : Conjunction left composite) (otherConjunction : Conjunction right other)
    (same : AskSame left right)
    : SameOutcome (.ok composite) (.ok other) := by
  have asks := conjunction.toAskSame.trans (same.trans otherConjunction.toAskSame.symm)
  constructor
  · apply eq_of_ascending conjunction.ascending otherConjunction.ascending
    intro index
    simpa only [List.mem_singleton, exists_eq_left] using asks.disclosed index
  · intro entry
    simpa only [entries, List.flatMap_singleton] using asks.expected entry

/-- How requests are ordered, nested and repeated does not matter. -/
theorem Composite.sameOutcome {left right : List Composite}
    (filled : (all left).Filled ↔ (all right).Filled)
    (same : AskSame (leavesAll left) (leavesAll right))
    : SameOutcome (all left).build (all right).build := by
  cases built : (all left).build with
  | ok composite =>
      obtain ⟨leftFilled, agree, conjunction⟩ := all_eq_ok built
      obtain ⟨other, otherBuilt⟩ :=
        build_of_consistent (all right) (filled.mp leftFilled) (same.consistent agree)
      obtain ⟨-, -, otherConjunction⟩ := all_eq_ok otherBuilt
      rw [otherBuilt]
      exact conjunction.same otherConjunction same
  | error failure =>
      cases otherBuilt : (all right).build with
      | error otherFailure => exact trivial
      | ok other =>
          obtain ⟨rightFilled, agree, -⟩ := all_eq_ok otherBuilt
          obtain ⟨composite, leftBuilt⟩ :=
            build_of_consistent (all left) (filled.mpr rightFilled) (same.symm.consistent agree)
          rw [built] at leftBuilt
          cases leftBuilt

/-- Both ask for the same; the labels may differ. -/
def Predicate.SameRequest (left right : Predicate) : Prop :=
  (∀ index, index ∈ left.disclose ↔ index ∈ right.disclose)
  ∧ ∀ entry, entry ∈ left.expect ↔ entry ∈ right.expect

/-- Every request of one list is in the other, under some label. -/
def Covers (left right : List Predicate) : Prop :=
  ∀ member ∈ left, ∃ other ∈ right, member.SameRequest other

/-- The same requests, in any order and any number of times. -/
theorem covers_of_subset {left right : List Predicate} (held : ∀ member ∈ left, member ∈ right)
    : Covers left right :=
  fun member here => ⟨member, held member here, fun _ => Iff.rfl, fun _ => Iff.rfl⟩

theorem askSame_of_covers {left right : List Predicate} (there : Covers left right)
    (back : Covers right left)
    : AskSame left right := by
  have indexes {left right : List Predicate} (covers : Covers left right) (index : Number)
      (asked : ∃ member ∈ left, index ∈ member.disclose)
      : ∃ member ∈ right, index ∈ member.disclose := by
    obtain ⟨member, held, shown⟩ := asked
    obtain ⟨other, also, same⟩ := covers member held
    exact ⟨other, also, (same.1 index).mp shown⟩
  have values {left right : List Predicate} (covers : Covers left right)
      (entry : ClaimName × ClaimValue) (asked : entry ∈ entries left)
      : entry ∈ entries right := by
    obtain ⟨member, held, expected⟩ := List.mem_flatMap.mp asked
    obtain ⟨other, also, same⟩ := covers member held
    exact List.mem_flatMap.mpr ⟨other, also, (same.2 entry).mp expected⟩
  exact ⟨fun index => ⟨indexes there index, indexes back index⟩,
    fun entry => ⟨values there entry, values back entry⟩⟩

/-- Two requests conflict over a claim. -/
def Conflict (predicates : List Predicate) : Prop :=
  ∃ left ∈ predicates,
    ∃ right ∈ predicates,
      ∃ name value other,
        (name, value) ∈ left.expect ∧ (name, other) ∈ right.expect ∧ value ≠ other

theorem consistent_entries_iff {predicates : List Predicate}
    : Consistent (entries predicates) ↔ ¬ Conflict predicates := by
  constructor
  · intro agree conflict
    obtain ⟨left, held, right, also, name, value, other, here, there, apart⟩ := conflict
    exact apart (agree name value other (List.mem_flatMap.mpr ⟨left, held, here⟩)
      (List.mem_flatMap.mpr ⟨right, also, there⟩))
  · intro none name value other held also
    obtain ⟨left, first, here⟩ := List.mem_flatMap.mp held
    obtain ⟨right, second, there⟩ := List.mem_flatMap.mp also
    by_contra apart
    exact none ⟨left, first, right, second, name, value, other, here, there, apart⟩

/-- A conjunction throws on nothing and on a conflict, and on nothing else. -/
theorem allOf_throws_iff {predicates : List Predicate}
    : (∃ failure, allOf predicates = .error failure) ↔ predicates = [] ∨ Conflict predicates := by
  have succeeds := @allOf_isOk_iff predicates
  rw [consistent_entries_iff] at succeeds
  constructor
  · intro threw
    obtain ⟨failure, threw⟩ := threw
    by_contra neither
    obtain ⟨composite, built⟩ := succeeds.mpr (not_or.mp neither)
    cases threw.symm.trans built
  · intro reason
    cases built : allOf predicates with
    | error failure => exact ⟨failure, rfl⟩
    | ok composite => exact absurd reason (not_or.mpr (succeeds.mp ⟨composite, built⟩))

-----------------------------------------------------------------------------------------
-- A presentation that passes
-----------------------------------------------------------------------------------------

theorem text_injective : Function.Injective fun name : ClaimName => ofOctets name.text := by
  intro left right same
  have texts := ofOctets_injective same
  revert texts
  cases left <;> cases right <;> decide

/-- A call that the check of a request makes, and that is valid, shows what the request asks
for.
-/
theorem honoured_of_checkPredicate {libraries : VerifierLibraries} {call : VerifyCall}
    {answer : Option BitstringStatusList} {decoded : Decoded} {proof : Proof}
    {predicate : Predicate} {issuerPubKey : Bytes} {expectedBinding : ProofBinding}
    {options : VerifyOptions}
    (checked : checkPredicate proof predicate issuerPubKey expectedBinding options = .ok call)
    (honoured : Honoured libraries call answer decoded)
    : (predicate.disclose.insertionSort fun left right => left ≤ right) = proof.disclosedIndexes
      ∧ Discloses proof decoded
      ∧ ∀ name value, (name, value) ∈ predicate.expect → decoded name = some value := by
  obtain ⟨shape, checked⟩ := failIf_bind_eq_ok.mp checked
  obtain rfl := Except.ok.inj checked
  refine ⟨not_not.mp shape, honoured.disclosed, ?_⟩
  intro name value expected
  obtain ⟨asked, same, shown⟩ := honoured.expected _ rfl
  obtain rfl := Option.some.inj same
  obtain ⟨claim, named, disclosed⟩ :=
    shown (ofOctets name.text) value (List.mem_map_of_mem expected)
  rw [text_injective named]
  exact disclosed

-----------------------------------------------------------------------------------------
-- Allowlists
-----------------------------------------------------------------------------------------

/-- A unit is a letter when its upper case is. -/
theorem isLetter_eq_upper (unit : UInt16)
    : isLetter unit
      = let upper := if 97 ≤ unit && unit ≤ 122 then unit - 32 else unit
        (65 ≤ upper && upper ≤ 90) := by
  unfold isLetter
  split
  case isTrue lower =>
    obtain ⟨least, most⟩ := Bool.and_eq_true_iff.mp lower
    have value : (unit - 32).toNat = unit.toNat - 32 :=
      UInt16.toNat_sub_of_le _ _ (UInt16.le_trans (by decide) (of_decide_eq_true least))
    have from97 : 97 ≤ unit.toNat := UInt16.le_iff_toNat_le.mp (of_decide_eq_true least)
    have to122 : unit.toNat ≤ 122 := UInt16.le_iff_toNat_le.mp (of_decide_eq_true most)
    have from65 : (65 : UInt16) ≤ unit - 32 := by
      rw [UInt16.le_iff_toNat_le, value]
      exact Nat.le_sub_of_add_le from97
    have to90 : unit - 32 ≤ 90 := by
      rw [UInt16.le_iff_toNat_le, value]
      exact Nat.sub_le_of_le_add to122
    rw [lower, Bool.or_true]
    exact (Bool.and_eq_true_iff.mpr ⟨decide_eq_true from65, decide_eq_true to90⟩).symm
  case isFalse other =>
    rw [Bool.eq_false_iff.mpr other, Bool.or_false]

theorem isCountryCode_of_upper {left right : JsString} (same : toUpperCase left = toUpperCase right)
    : isCountryCode left = isCountryCode right := by
  have letters (code : JsString)
      : code.all isLetter
        = (toUpperCase code).all fun upper => 65 ≤ upper && upper ≤ 90 := by
    rw [toUpperCase, List.all_map]
    exact congrArg code.all (funext isLetter_eq_upper)
  have lengths := congrArg List.length same
  rw [toUpperCase, toUpperCase, List.length_map, List.length_map] at lengths
  rw [isCountryCode, isCountryCode, lengths, letters left, letters right, same]

theorem normalizeCountry_eq_ok {code normal : JsString}
    : normalizeCountry code = .ok normal
      ↔ isCountryCode code = true ∧ normal = toUpperCase code := by
  rw [normalizeCountry, failIf_bind_eq_ok, Bool.not_eq_false, Except.ok.injEq,
    eq_comm (b := normal)]

theorem normalizeCountries_eq_ok {list normal : List JsString}
    : normalizeCountries list = .ok normal
      ↔ list ≠ [] ∧ (∀ code ∈ list, isCountryCode code = true) ∧ normal = list.map toUpperCase := by
  have each
      : list.mapM normalizeCountry = .ok normal
        ↔ (∀ code ∈ list, isCountryCode code = true) ∧ normal = list.map toUpperCase := by
    rw [mapM_eq_ok]
    induction list generalizing normal with
    | nil => cases normal <;> simp
    | cons code rest ih =>
        cases normal with
        | nil => simp
        | cons first later =>
            rw [List.map_cons, List.map_cons, List.map_cons, List.cons.injEq, List.cons.injEq,
              normalizeCountry_eq_ok, ih, List.forall_mem_cons]
            exact and_and_and_comm
  rw [normalizeCountries, bind_eq_ok]
  constructor
  · intro written
    obtain ⟨out, mapped, written⟩ := written
    obtain ⟨filled, written⟩ := failIf_bind_eq_ok.mp written
    obtain rfl := Except.ok.inj written
    obtain ⟨codes, rfl⟩ := each.mp mapped
    exact ⟨fun none => filled (List.map_eq_nil_iff.mpr none), codes, rfl⟩
  · intro shape
    obtain ⟨filled, codes, rfl⟩ := shape
    refine ⟨_, each.mpr ⟨codes, rfl⟩, failIf_bind_eq_ok.mpr ⟨?_, rfl⟩⟩
    exact fun none => filled (List.map_eq_nil_iff.mp none)

/-- Which requests for a country are answered. -/
theorem countryAllowed_eq_ok {allowed : List JsString} {issuerPolicy : Option (List JsString)}
    (codes : ∀ code ∈ allowed, isCountryCode code = true)
    : (∃ predicate, countryAllowed allowed issuerPolicy = .ok predicate)
      ↔ issuerPolicy.getD issuerJurisdictionPolicy ≠ []
        ∧ ∀ country ∈ issuerPolicy.getD issuerJurisdictionPolicy,
            ∃ code ∈ allowed, toUpperCase code = toUpperCase country := by
  constructor
  · intro answered
    obtain ⟨predicate, answered⟩ := answered
    obtain ⟨rp, normal, answered⟩ := bind_eq_ok.mp answered
    obtain ⟨issuer, policy, answered⟩ := bind_eq_ok.mp answered
    obtain ⟨none, -⟩ := failIf_bind_eq_ok.mp answered
    obtain ⟨-, -, rfl⟩ := normalizeCountries_eq_ok.mp normal
    obtain ⟨filled, -, rfl⟩ := normalizeCountries_eq_ok.mp policy
    refine ⟨filled, ?_⟩
    intro country held
    have kept :=
      List.filter_eq_nil_iff.mp (not_not.mp none) (toUpperCase country) (List.mem_map_of_mem held)
    rw [Bool.not_eq_true', Bool.not_eq_false, List.elem_iff] at kept
    exact List.mem_map.mp kept
  · intro possible
    obtain ⟨filled, covered⟩ := possible
    have normal : normalizeCountries allowed = .ok (allowed.map toUpperCase) := by
      refine normalizeCountries_eq_ok.mpr ⟨?_, codes, rfl⟩
      obtain ⟨country, held⟩ := List.exists_mem_of_ne_nil _ filled
      obtain ⟨code, member, -⟩ := covered country held
      exact List.ne_nil_of_mem member
    have policy
        : normalizeCountries (issuerPolicy.getD issuerJurisdictionPolicy)
          = .ok ((issuerPolicy.getD issuerJurisdictionPolicy).map toUpperCase) := by
      refine normalizeCountries_eq_ok.mpr ⟨filled, ?_, rfl⟩
      intro country held
      obtain ⟨code, member, same⟩ := covered country held
      rw [← isCountryCode_of_upper same]
      exact codes code member
    have none
        : ((issuerPolicy.getD issuerJurisdictionPolicy).map toUpperCase).filter
            (fun country => !(allowed.map toUpperCase).elem country)
          = [] := by
      apply List.filter_eq_nil_iff.mpr
      intro upper held
      obtain ⟨country, listed, rfl⟩ := List.mem_map.mp held
      rw [Bool.not_eq_true', Bool.not_eq_false, List.elem_iff]
      exact List.mem_map.mpr (covered country listed)
    exact ⟨_, bind_eq_ok.mpr ⟨_, normal, bind_eq_ok.mpr ⟨_, policy,
      failIf_bind_eq_ok.mpr ⟨not_not.mpr none, rfl⟩⟩⟩⟩

-----------------------------------------------------------------------------------------
-- The algebra
-----------------------------------------------------------------------------------------

/-- How requests are ordered, nested, repeated and labelled does not matter to what their
conjunction asks for, which is the union of what they ask for; it throws on nothing and on a
conflict only. A valid presentation shows exactly that. A country allowlist of codes can be
asked for when the issuer has a policy and each of its countries is in the list.
-/
theorem predicate_algebra (libraries : VerifierLibraries) (replayGuard : ReplayGuard)
    (events : List VerifyEvent)
    : (∀ left right : List Composite,
        ((Composite.all left).Filled ↔ (Composite.all right).Filled)
        → Covers (Composite.leavesAll left) (Composite.leavesAll right)
        → Covers (Composite.leavesAll right) (Composite.leavesAll left)
        → SameOutcome (Composite.all left).build (Composite.all right).build)
      ∧ (∀ (predicates : List Predicate) (composite : Predicate),
          allOf predicates = .ok composite
          → (composite.disclose.Pairwise fun left right => left < right)
            ∧ (∀ index,
                index ∈ composite.disclose ↔ ∃ member ∈ predicates, index ∈ member.disclose)
            ∧ (composite.expect.map Prod.fst).Nodup
            ∧ ∀ entry,
                entry ∈ composite.expect ↔ ∃ member ∈ predicates, entry ∈ member.expect)
      ∧ (∀ predicates : List Predicate,
          (∃ failure, allOf predicates = .error failure)
          ↔ predicates = [] ∨ Conflict predicates)
      ∧ (∀ (predicates : List Predicate) (composite : Predicate) (proof : Proof)
            (issuerPubKey : Bytes) (expectedBinding : ProofBinding) (options : VerifyOptions)
            (id : Nat) (progress : Progress) (decoded : Decoded),
          allOf predicates = .ok composite
          → checkPredicate proof composite issuerPubKey expectedBinding options
            = .ok progress.call
          → ((verifyDetailed libraries).run (Verifications.idle replayGuard) events).calls id
            = some progress
          → progress.stage = .settled (.ok decoded)
          → proof.disclosedIndexes = composite.disclose
            ∧ Discloses proof decoded
            ∧ ∀ member ∈ predicates,
                ∀ name value, (name, value) ∈ member.expect → decoded name = some value)
      ∧ ∀ (allowed : List JsString) (issuerPolicy : Option (List JsString)),
          (∀ code ∈ allowed, isCountryCode code = true)
          → ((∃ predicate, countryAllowed allowed issuerPolicy = .ok predicate)
            ↔ issuerPolicy.getD issuerJurisdictionPolicy ≠ []
              ∧ ∀ country ∈ issuerPolicy.getD issuerJurisdictionPolicy,
                  ∃ code ∈ allowed, toUpperCase code = toUpperCase country) := by
  have asked {predicates : List Predicate} {composite : Predicate}
      (conjunction : Conjunction predicates composite) (entry : ClaimName × ClaimValue)
      : entry ∈ composite.expect ↔ ∃ member ∈ predicates, entry ∈ member.expect := by
    have same := conjunction.expected entry
    rw [entries, entries, List.flatMap_singleton, List.mem_flatMap] at same
    exact same
  refine ⟨?_, ?_, ?_, ?_, ?_⟩
  · intro left right filled there back
    exact Composite.sameOutcome filled (askSame_of_covers there back)
  · intro predicates composite built
    obtain ⟨conjunction, -, -⟩ := allOf_eq_ok built
    exact ⟨conjunction.ascending, allOf_disclose built, conjunction.once, asked conjunction⟩
  · intro predicates
    exact allOf_throws_iff
  · intro predicates composite proof issuerPubKey expectedBinding options id progress decoded built
      checked found settled
    have sound :=
      ((SingleUse.preserves libraries replayGuard).run (SingleUse.idle libraries replayGuard)
        events).sound id progress found
    unfold Progress.Sound at sound
    rw [settled] at sound
    obtain ⟨conjunction, -, -⟩ := allOf_eq_ok built
    obtain ⟨shape, discloses, shown⟩ := honoured_of_checkPredicate checked sound
    refine ⟨?_, discloses, ?_⟩
    · rw [← shape]
      exact (conjunction.ascending.imp le_of_lt).insertionSort_eq
    · intro member held name value expected
      exact shown name value ((asked conjunction _).mpr ⟨member, held, expected⟩)
  · intro allowed issuerPolicy codes
    exact countryAllowed_eq_ok codes

/-- A nested conjunction with a repetition, and an allowlist in lower case. -/
theorem predicate_algebra_sample
    : SameOutcome
        (Composite.all
          [
            .all [.one (oneClaim .over18), .one (oneClaim .notPep)],
            .one (oneClaim .over18)
          ]).build
        (Composite.all [.one (oneClaim .notPep), .one (oneClaim .over18)]).build
      ∧ ((∃ predicate,
          countryAllowed [js "us", js "de"] (some [js "US"]) = .ok predicate)
        ↔ [js "US"] ≠ []
          ∧ ∀ country ∈ [js "US"],
              ∃ code ∈ [js "us", js "de"], toUpperCase code = toUpperCase country) := by
  obtain ⟨nested, -, -, -, countries⟩ :=
    predicate_algebra
      {
        sha256 := fun _ => []
        verifyProof := fun _ _ _ _ _ _ => none
        platform := { gzip := id, gunzip := some, maxBufferBytes := 0 }
        timeText := fun _ => []
      }
      { consumed := [] } []
  constructor
  · apply nested
    · refine iff_of_true ?_ ?_
      · exact ⟨List.cons_ne_nil _ _, ⟨List.cons_ne_nil _ _, trivial, trivial, trivial⟩, trivial,
          trivial⟩
      · exact ⟨List.cons_ne_nil _ _, trivial, trivial, trivial⟩
    · exact covers_of_subset (by decide)
    · exact covers_of_subset (by decide)
  · exact countries [js "us", js "de"] (some [js "US"]) (by decide)

/-- An empty policy of the issuer is refused, although any list holds each of its countries. -/
theorem empty_policy_refused
    : ¬ (∀ (allowed : List JsString) (issuerPolicy : Option (List JsString)),
          (∀ code ∈ allowed, isCountryCode code = true)
          → ((∃ predicate, countryAllowed allowed issuerPolicy = .ok predicate)
            ↔ ∀ country ∈ issuerPolicy.getD issuerJurisdictionPolicy,
                ∃ code ∈ allowed, toUpperCase code = toUpperCase country)) := by
  intro answered
  have codes : ∀ code ∈ [js "US"], isCountryCode code = true := by decide
  obtain ⟨predicate, answered⟩ := (answered [js "US"] (some []) codes).mpr (by decide)
  revert answered
  have refused
      : countryAllowed [js "US"] (some [])
        = .error (predicateFailure (js "country allowlist must not be empty")) := by
    decide
  rw [refused]
  exact fun same => nomatch same

end StellarOnramp.Identity
