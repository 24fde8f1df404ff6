import Mathlib.Algebra.BigOperators.Pi
import Mathlib.Algebra.BigOperators.GroupWithZero.Action
import Mathlib.Algebra.Module.BigOperators
import Mathlib.Data.Fintype.BigOperators
import Mathlib.Tactic.Abel
import Mathlib.Tactic.LinearCombination
import Mathlib.Tactic.Module
import Mathlib.Tactic.Ring

/-! BBS signatures over a vector space: what a signature is, the two linear equations of a
disclosure proof, and what two proofs with one commitment reveal. Points are vectors, so the
results hold in every group of prime order.
-/

namespace BbsScheme

variable {F G ι : Type*} [Field F] [AddCommGroup G] [Module F G] [Fintype ι]

-----------------------------------------------------------------------------------------
-- Signatures
-----------------------------------------------------------------------------------------

/-- The public points of the scheme and the domain of one key and header. -/
structure Params (F G ι : Type*) where
  p1 : G
  q1 : G
  h : ι → G
  domain : F

/-- The combination of the message generators. -/
def Params.combine (params : Params F G ι) (scalars : ι → F) : G :=
  ∑ i, scalars i • params.h i

/-- The point that a signature on the messages covers: `P1 + Q1·domain + Σ H_i·m_i`. -/
def Params.base (params : Params F G ι) (messages : ι → F) : G :=
  params.p1 + params.domain • params.q1 + params.combine messages

/-- A signature by the secret key: a point other than the identity and a scalar. -/
structure IsSignature (params : Params F G ι) (sk : F) (point : G) (x : F)
    (messages : ι → F)
    : Prop where
  nonzero : point ≠ 0
  equation : (sk + x) • point = params.base messages

theorem Params.combine_add (params : Params F G ι) (left right : ι → F)
    : params.combine (left + right) = params.combine left + params.combine right := by
  simp only [combine, Pi.add_apply, add_smul, Finset.sum_add_distrib]

theorem Params.combine_smul (params : Params F G ι) (factor : F) (scalars : ι → F)
    : params.combine (factor • scalars) = factor • params.combine scalars := by
  simp only [combine, Pi.smul_apply, smul_eq_mul, mul_smul, Finset.smul_sum]

theorem Params.combine_sub (params : Params F G ι) (left right : ι → F)
    : params.combine (left - right) = params.combine left - params.combine right := by
  simp only [combine, Pi.sub_apply, sub_smul, Finset.sum_sub_distrib]

@[simp]
theorem Params.combine_zero (params : Params F G ι) : params.combine 0 = 0 := by
  simp [combine]

theorem Params.base_sub (params : Params F G ι) (messages scalars : ι → F)
    : params.base (messages - scalars) = params.base messages - params.combine scalars := by
  simp only [base, combine_sub]
  abel

-----------------------------------------------------------------------------------------
-- Disclosure proofs
-----------------------------------------------------------------------------------------

/-- The randomised signature that a proof shows. -/
structure Points (G : Type*) where
  aBar : G
  bBar : G
  d : G

/-- The challenge and the responses; a disclosed message has no response, written `0`. -/
structure Response (F ι : Type*) where
  challenge : F
  eHat : F
  r1Hat : F
  r3Hat : F
  mHat : ι → F

/-- The first recomputed commitment. -/
def Points.t1 (points : Points G) (response : Response F ι) : G :=
  response.challenge • points.bBar + response.eHat • points.aBar + response.r1Hat • points.d

/-- The second recomputed commitment, for the disclosed messages `shown`. -/
def Points.t2 (points : Points G) (params : Params F G ι) (shown : ι → F)
    (response : Response F ι)
    : G :=
  response.challenge • params.base shown + response.r3Hat • points.d
    + params.combine response.mHat

/-- Two proofs over the same points and messages with one commitment and two challenges. -/
structure IsFork (params : Params F G ι) (points : Points G) (shown : ι → F)
    (left right : Response F ι)
    : Prop where
  sameT1 : points.t1 left = points.t1 right
  sameT2 : points.t2 params shown left = points.t2 params shown right
  challenges : left.challenge ≠ right.challenge

-----------------------------------------------------------------------------------------
-- What a fork reveals
-----------------------------------------------------------------------------------------

/-- How far a response moved between the two challenges, for each unit of challenge. -/
def slope (left right : Response F ι) (field : Response F ι → F) : F :=
  (field right - field left) / (left.challenge - right.challenge)

def messageSlopes (left right : Response F ι) : ι → F :=
  fun i => slope left right (fun response => response.mHat i)

section Fork

variable {params : Params F G ι} {points : Points G} {shown : ι → F}
  {left right : Response F ι}

theorem IsFork.delta_ne_zero (fork : IsFork params points shown left right)
    : left.challenge - right.challenge ≠ 0 :=
  sub_ne_zero.mpr fork.challenges

/-- A slope, multiplied out. -/
theorem slope_eq_iff (fork : IsFork params points shown left right)
    (field : Response F ι → F) {value : F}
    : slope left right field = value
      ↔ (left.challenge - right.challenge) * value = field right - field left := by
  rw [slope, div_eq_iff fork.delta_ne_zero, mul_comm, eq_comm]

theorem slope_eq_zero_iff (fork : IsFork params points shown left right)
    (field : Response F ι → F)
    : slope left right field = 0 ↔ field left = field right := by
  rw [slope_eq_iff fork, mul_zero, eq_comm, sub_eq_zero, eq_comm]

omit [Fintype ι] in
theorem messageSlopes_eq_smul (left right : Response F ι)
    : messageSlopes left right
      = (left.challenge - right.challenge)⁻¹ • (right.mHat - left.mHat) := by
  funext i
  simp only [messageSlopes, slope, Pi.smul_apply, Pi.sub_apply, smul_eq_mul, div_eq_inv_mul]

/-- The first equation of a fork. Witness: subtract the commitments and divide by the
difference of the challenges.
-/
theorem IsFork.bBar_eq (fork : IsFork params points shown left right)
    : points.bBar
      = slope left right Response.eHat • points.aBar
        + slope left right Response.r1Hat • points.d := by
  have scaled :=
    calc
      (left.challenge - right.challenge) • points.bBar
          = points.t1 left - points.t1 right
            + ((right.eHat - left.eHat) • points.aBar
              + (right.r1Hat - left.r1Hat) • points.d) := by
        simp only [Points.t1]
        module
      _ = (right.eHat - left.eHat) • points.aBar + (right.r1Hat - left.r1Hat) • points.d := by
        rw [fork.sameT1, sub_self, zero_add]
  rw [← eq_inv_smul_iff₀ fork.delta_ne_zero] at scaled
  simp only [scaled, slope, smul_add, smul_smul, div_eq_inv_mul]

/-- The second equation of a fork: the extracted messages have their base on the line of
`d`. Witness: subtract the commitments and divide.
-/
theorem IsFork.base_eq (fork : IsFork params points shown left right)
    : params.base (shown - messageSlopes left right)
      = slope left right Response.r3Hat • points.d := by
  have scaled :=
    calc
      (left.challenge - right.challenge) • params.base shown
          = points.t2 params shown left - points.t2 params shown right
            + ((right.r3Hat - left.r3Hat) • points.d
              + params.combine (right.mHat - left.mHat)) := by
        simp only [Points.t2, params.combine_sub]
        module
      _ = (right.r3Hat - left.r3Hat) • points.d + params.combine (right.mHat - left.mHat) := by
        rw [fork.sameT2, sub_self, zero_add]
  rw [← eq_inv_smul_iff₀ fork.delta_ne_zero] at scaled
  rw [params.base_sub, scaled, messageSlopes_eq_smul, params.combine_smul, smul_add,
    add_sub_cancel_right, smul_smul, slope, div_eq_inv_mul]

end Fork

-----------------------------------------------------------------------------------------
-- Extraction
-----------------------------------------------------------------------------------------

/-- What a generic-group extractor computes: a point as a combination of the points at
hand, and scalars.
-/
structure Extraction (F ι : Type*) where
  onABar : F
  onBBar : F
  onD : F
  onP1 : F
  onQ1 : F
  onH : ι → F
  x : F
  messages : ι → F
  secretKey : F

def Extraction.point (extraction : Extraction F ι) (params : Params F G ι)
    (points : Points G)
    : G :=
  extraction.onABar • points.aBar + extraction.onBBar • points.bBar
    + extraction.onD • points.d + extraction.onP1 • params.p1
    + extraction.onQ1 • params.q1 + params.combine extraction.onH

/-- The extraction is a signature on messages that agree with the disclosed ones, or it is
the secret key, or it is a relation between the public points.
-/
def Extraction.Reveals (extraction : Extraction F ι) (params : Params F G ι)
    (points : Points G) (Agrees : (ι → F) → Prop) (sk : F)
    : Prop :=
  (IsSignature params sk (extraction.point params points) extraction.x extraction.messages
      ∧ Agrees extraction.messages)
  ∨ extraction.secretKey = sk
  ∨ params.base extraction.messages = 0

/-- Two keys cannot share one signature, since the point would be the identity. -/
theorem IsSignature.key_unique {params : Params F G ι} {sk other x : F} {point : G}
    {messages : ι → F} (signature : IsSignature params sk point x messages)
    (another : IsSignature params other point x messages)
    : sk = other := by
  have same := signature.equation.trans another.equation.symm
  rw [← sub_eq_zero, ← sub_smul, smul_eq_zero] at same
  rcases same with keys | identity
  · linear_combination keys
  · exact absurd identity signature.nonzero

/-- One extraction for three keys can only be a relation. Witness: it names one key, and it
signs for one key.
-/
theorem Extraction.relation_of_reveals {extraction : Extraction F ι} {params : Params F G ι}
    {points : Points G} {Agrees : (ι → F) → Prop} {first second third : F}
    (firstSecond : first ≠ second) (firstThird : first ≠ third) (secondThird : second ≠ third)
    (revealsFirst : extraction.Reveals params points Agrees first)
    (revealsSecond : extraction.Reveals params points Agrees second)
    (revealsThird : extraction.Reveals params points Agrees third)
    : params.base extraction.messages = 0 := by
  rcases revealsFirst with ⟨signFirst, -⟩ | nameFirst | relation
  · rcases revealsSecond with ⟨signSecond, -⟩ | nameSecond | relation
    · exact absurd (signFirst.key_unique signSecond) firstSecond
    · rcases revealsThird with ⟨signThird, -⟩ | nameThird | relation
      · exact absurd (signFirst.key_unique signThird) firstThird
      · exact absurd (nameSecond.symm.trans nameThird) secondThird
      · exact relation
    · exact relation
  · rcases revealsSecond with ⟨signSecond, -⟩ | nameSecond | relation
    · rcases revealsThird with ⟨signThird, -⟩ | nameThird | relation
      · exact absurd (signSecond.key_unique signThird) secondThird
      · exact absurd (nameFirst.symm.trans nameThird) firstThird
      · exact relation
    · exact absurd (nameFirst.symm.trans nameSecond) firstSecond
    · exact relation
  · exact relation

/-- The standard extractor of a fork. -/
def forkExtraction (shown : ι → F) (left right : Response F ι) : Extraction F ι :=
  {
    onABar := slope left right Response.r3Hat / slope left right Response.r1Hat
    onBBar := 0
    onD := 0
    onP1 := 0
    onQ1 := 0
    onH := 0
    x := -slope left right Response.eHat
    messages := shown - messageSlopes left right
    secretKey := slope left right Response.eHat
  }

section Extraction

variable {params : Params F G ι} {points : Points G} {shown : ι → F}
  {left right : Response F ι} {Agrees : (ι → F) → Prop} {sk : F}

@[simp]
theorem forkExtraction_point
    : (forkExtraction shown left right).point params points
      = (slope left right Response.r3Hat / slope left right Response.r1Hat) • points.aBar := by
  simp [forkExtraction, Extraction.point]

omit [Fintype ι] in
/-- A message without a response keeps its disclosed scalar. -/
theorem forkExtraction_messages_of_shown {i : ι} (leftZero : left.mHat i = 0)
    (rightZero : right.mHat i = 0)
    : (forkExtraction shown left right).messages i = shown i := by
  simp [forkExtraction, messageSlopes, slope, leftZero, rightZero]

/-- The first equation of a fork under a key: what is left of `a_bar` lies on the line of
`d`.
-/
theorem IsFork.key_equation (fork : IsFork params points shown left right)
    (keyed : points.bBar = sk • points.aBar)
    : (sk - slope left right Response.eHat) • points.aBar
      = slope left right Response.r1Hat • points.d := by
  rw [sub_smul, ← keyed, fork.bBar_eq, add_sub_cancel_left]

/-- Special soundness with its exact condition: a fork reveals something exactly when
`a_bar` is a point other than the identity, or the second equation is degenerate, or the
key is the slope itself. Witness: divide the fork equations by one another.
-/
theorem IsFork.reveals_iff (fork : IsFork params points shown left right)
    (keyed : points.bBar = sk • points.aBar)
    (agrees : Agrees (forkExtraction shown left right).messages)
    : (forkExtraction shown left right).Reveals params points Agrees sk
      ↔ points.aBar ≠ 0
        ∨ points.d = 0
        ∨ left.r3Hat = right.r3Hat
        ∨ (left.challenge - right.challenge) * sk = right.eHat - left.eHat := by
  rw [← slope_eq_zero_iff fork Response.r3Hat, ← slope_eq_iff fork Response.eHat]
  have keyEquation := fork.key_equation keyed
  constructor
  · rintro (⟨⟨nonzero, -⟩, -⟩ | key | relation)
    · refine Or.inl fun identity => nonzero ?_
      rw [forkExtraction_point, identity, smul_zero]
    · exact Or.inr (Or.inr (Or.inr key))
    · have line := fork.base_eq.symm.trans relation
      rcases smul_eq_zero.mp line with flat | identity
      · exact Or.inr (Or.inr (Or.inl flat))
      · exact Or.inr (Or.inl identity)
  · have relation_of_line (line : slope left right Response.r3Hat • points.d = 0)
        : (forkExtraction shown left right).Reveals params points Agrees sk :=
      Or.inr (Or.inr (fork.base_eq.trans line))
    rintro (genuine | identity | flat | key)
    · by_cases key : slope left right Response.eHat = sk
      · exact Or.inr (Or.inl key)
      by_cases flat : slope left right Response.r3Hat = 0
      · exact relation_of_line (by rw [flat, zero_smul])
      have steep : slope left right Response.r1Hat ≠ 0 := by
        intro level
        rw [level, zero_smul, smul_eq_zero] at keyEquation
        exact keyEquation.elim (fun same => key (sub_eq_zero.mp same).symm) genuine
      refine Or.inl ⟨⟨?_, ?_⟩, agrees⟩
      · rw [forkExtraction_point]
        exact smul_ne_zero (div_ne_zero flat steep) genuine
      · calc
          (sk + (forkExtraction shown left right).x)
                • (forkExtraction shown left right).point params points
              = (slope left right Response.r3Hat / slope left right Response.r1Hat)
                • (sk - slope left right Response.eHat) • points.aBar := by
            rw [forkExtraction_point, smul_comm, sub_eq_add_neg]
            rfl
          _ = slope left right Response.r3Hat • points.d := by
            rw [keyEquation, smul_smul, div_mul_cancel₀ _ steep]
          _ = params.base (forkExtraction shown left right).messages := fork.base_eq.symm
    · exact relation_of_line (by rw [identity, smul_zero])
    · exact relation_of_line (by rw [flat, zero_smul])
    · exact Or.inr (Or.inl key)

end Extraction

end BbsScheme
