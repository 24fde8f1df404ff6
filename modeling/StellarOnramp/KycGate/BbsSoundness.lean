import StellarOnramp.KycGate.BbsForgery

/-! Special soundness of the verifier and where it ends. Two accepted proofs with one
commitment reveal a signature unless they show the identity as `a_bar`, and such proofs can
be made for every disclosure from public data alone.
-/

namespace StellarOnramp.KycGate.Bbs

open Octets ScalarField BbsScheme
open StellarOnramp.Soroban

-----------------------------------------------------------------------------------------
-- Forks of accepted proofs
-----------------------------------------------------------------------------------------

/-- One input of the verifier under a fixed key, header and disclosure. -/
structure Submission where
  presentationHeader : Bytes
  proof : BbsProof

/-- Two accepted proofs that share their points and both recomputed commitments, but not
their challenge.
-/
structure Forks (host : Host) (pkUncompressed : BytesN 192) (header : Bytes)
    (indexes : List UInt32) (messages : List Bytes) (left right : Submission)
    : Prop where
  leftAccepted
    : verifyBbsProof host pkUncompressed header left.presentationHeader indexes messages
          left.proof
        = .ok true
  rightAccepted
    : verifyBbsProof host pkUncompressed header right.presentationHeader indexes messages
          right.proof
        = .ok true
  sameABar : left.proof.aBar = right.proof.aBar
  sameBBar : left.proof.bBar = right.proof.bBar
  sameD : left.proof.d = right.proof.d
  sameT1 : recomputeT1 host left.proof = recomputeT1 host right.proof
  sameT2
    : recomputeT2 host pkUncompressed header indexes messages left.proof
      = recomputeT2 host pkUncompressed header indexes messages right.proof
  challenges
    : Fr.fromBytes left.proof.challenge.val ≠ Fr.fromBytes right.proof.challenge.val

/-- The vector agrees with every disclosed index and message scalar. -/
def AgreesWith (host : Host) (indexes : List UInt32) (messages : List Bytes)
    (vector : Fin 12 → Fr)
    : Prop :=
  ∀ disclosed ∈ indexes.zip (messagesToScalars host messages),
    ∀ i : Fin 12, disclosed.1.toNat = i.val → vector i = disclosed.2

/-- Everything about two submissions that is not a group element. -/
structure ForkView where
  header : Bytes
  indexes : List UInt32
  messageScalars : List Fr
  domain : Fr
  leftHeader : Bytes
  rightHeader : Bytes
  left : Response Fr (Fin 12)
  right : Response Fr (Fin 12)

def forkView (host : Host) (pkUncompressed : BytesN 192) (header : Bytes)
    (indexes : List UInt32) (messages : List Bytes) (left right : Submission)
    : ForkView :=
  {
    header
    indexes
    messageScalars := messagesToScalars host messages
    domain := calculateDomain host pkUncompressed (createGenerators host) header
    leftHeader := left.presentationHeader
    rightHeader := right.presentationHeader
    left := responseOf indexes left.proof
    right := responseOf indexes right.proof
  }

/-- A generic-group extractor: it sees the scalars and combines the points. -/
abbrev Extractor := ForkView → Extraction Fr (Fin 12)

def standardExtractor : Extractor := fun view =>
  forkExtraction (scalarVector (view.indexes.zip view.messageScalars)) view.left view.right

section Soundness

variable {host : Host} {G1 G2 GT : Type} [AddCommGroup G1] [AddCommGroup G2]
  [AddCommGroup GT] [Module Fr G1] [Module Fr G2] [Module Fr GT]
  {pkUncompressed : BytesN 192} {header : Bytes} {indexes : List UInt32}
  {messages : List Bytes} {left right : Submission} {sk : Fr}

/-- An accepted proof satisfies the equations of the scheme under the key. -/
theorem Realisation.accepted_equations (groups : Realisation host G1 G2 GT)
    (keyed : groups.decodeG2 pkUncompressed = some (sk • groups.p2)) {ph : Bytes}
    {proof : BbsProof}
    (accepted : verifyBbsProof host pkUncompressed header ph indexes messages proof = .ok true)
    : groups.Shows proof (groups.points proof)
      ∧ (groups.points proof).bBar = sk • (groups.points proof).aBar := by
  obtain ⟨-, t1, t2, first, -, -, paired⟩ := verifyBbsProof_true_iff.mp accepted
  obtain ⟨points, shows, -⟩ := (groups.recomputeT1_ok_iff indexes).mp first
  obtain rfl := shows.eq_points
  exact ⟨shows, (groups.pairingCheck_ok_iff keyed shows).mp paired⟩

/-- A fork of accepted proofs is a fork of the scheme. Witness: the encodings of the
commitments decode to the two sides of each equation.
-/
theorem Forks.isFork (forks : Forks host pkUncompressed header indexes messages left right)
    (groups : Realisation host G1 G2 GT)
    (keyed : groups.decodeG2 pkUncompressed = some (sk • groups.p2))
    : IsFork (groups.params pkUncompressed header) (groups.points left.proof)
        (shownVector host indexes messages) (responseOf indexes left.proof)
        (responseOf indexes right.proof) := by
  have shows := (groups.accepted_equations keyed forks.leftAccepted).1
  have showsRight := (groups.accepted_equations keyed forks.rightAccepted).1
  have samePoints : groups.points right.proof = groups.points left.proof := by
    simp only [Realisation.points, forks.sameABar, forks.sameBBar, forks.sameD]
  rw [samePoints] at showsRight
  have encode_injective {p q : G1} (same : groups.encodeG1 p = groups.encodeG1 q) : p = q := by
    have decoded := congrArg groups.decodeG1 same
    rw [groups.decode_encode, groups.decode_encode] at decoded
    exact Option.some.inj decoded
  obtain ⟨-, t1, t2, first, second, -, -⟩ := verifyBbsProof_true_iff.mp forks.leftAccepted
  have firstRight := forks.sameT1.symm.trans first
  have secondRight := forks.sameT2.symm.trans second
  refine ⟨encode_injective ?_, encode_injective ?_, forks.challenges⟩
  · obtain ⟨points, shown, value⟩ := (groups.recomputeT1_ok_iff indexes).mp first
    obtain ⟨pointsRight, shownRight, valueRight⟩ :=
      (groups.recomputeT1_ok_iff indexes).mp firstRight
    obtain rfl := shown.eq_points
    obtain rfl := shownRight.eq_points
    rw [samePoints] at valueRight
    exact value.symm.trans valueRight
  · exact ((groups.recomputeT2_ok_iff shows).mp second).2.2.symm.trans
      ((groups.recomputeT2_ok_iff showsRight).mp secondRight).2.2

/-- The standard extractor keeps every disclosed message. -/
theorem Forks.standardExtractor_agrees
    (forks : Forks host pkUncompressed header indexes messages left right)
    (distinct : indexes.Nodup)
    : AgreesWith host indexes messages
        (standardExtractor
          (forkView host pkUncompressed header indexes messages left right)).messages := by
  intro disclosed member i here
  have inside := (List.of_mem_zip member).1
  have silent (mHat : List Fr) : responseVector indexes mHat i = 0 :=
    responseVector_of_disclosed ⟨disclosed.1, inside, here⟩
  have parallel : indexes.length = messages.length :=
    (verifyBbsProof_true_iff.mp forks.leftAccepted).1
  have keys : ((indexes.zip (messagesToScalars host messages)).map Prod.fst).Nodup := by
    rw [List.map_fst_zip (by simp [messagesToScalars, parallel])]
    exact distinct
  apply (forkExtraction_messages_of_shown (silent _) (silent _)).trans
  exact scalarVector_of_mem keys here member

end Soundness

-----------------------------------------------------------------------------------------
-- A fork that reveals nothing
-----------------------------------------------------------------------------------------

namespace Sample

def submission (h sk : Fr) (octet : UInt8) : Submission :=
  { presentationHeader := [octet], proof := forgery h sk octet }

/-- Two forgeries are a fork: both commitments are the identity in both. -/
theorem forks (h sk : Fr)
    : Forks (host h) (key sk) [] [] [] (submission h sk 1) (submission h sk 2) :=
  {
    leftAccepted := forgery_accepted h sk 1
    rightAccepted := forgery_accepted h sk 2
    sameABar := rfl
    sameBBar := rfl
    sameD := rfl
    sameT1 :=
      ((groups h).recomputeT1_craftedProof _).trans
        ((groups h).recomputeT1_craftedProof _).symm
    sameT2 :=
      ((groups h).recomputeT2_craftedProof _ (List.forall_mem_nil _)).trans
        ((groups h).recomputeT2_craftedProof _ (List.forall_mem_nil _)).symm
    challenges := by
      simpa [submission, forgery, craftedProof] using octetScalar_one_ne_two
  }

/-- What an extractor sees of the fork, whatever the curve hash and the key. -/
def view : ForkView :=
  {
    header := []
    indexes := []
    messageScalars := []
    domain := 0
    leftHeader := [1]
    rightHeader := [2]
    left :=
      { challenge := octetScalar 1, eHat := 0, r1Hat := 0, r3Hat := -octetScalar 1, mHat := 0 }
    right :=
      { challenge := octetScalar 2, eHat := 0, r1Hat := 0, r3Hat := -octetScalar 2, mHat := 0 }
  }

theorem forkView_eq (h sk : Fr)
    : forkView (host h) (key sk) [] [] [] (submission h sk 1) (submission h sk 2) = view := by
  simp only [forkView, calculateDomain_nil, submission, forgery, responseOf_craftedProof,
    messagesToScalars, List.map_nil, view]

/-- The public points: `P1` is `1`, and every generator is `h`. -/
theorem params_eq (h sk : Fr)
    : (groups h).params (key sk) [] = { p1 := 1, q1 := h, h := fun _ => h, domain := 0 } := by
  have generator (position : Nat) (bound : position < 13)
      : (groups h).generator position = h := by
    have inside : position < (createGenerators (host h)).length := by simpa using bound
    have found := List.getElem?_eq_getElem inside
    obtain ⟨msg, hashed⟩ := hashed_of_mem_generatorsFrom (List.getElem_mem inside)
    have decoded := (groups h).decode_generator found
    rw [hashed] at decoded
    exact Option.some.inj (decoded.symm.trans (congrArg some (decodeAs_encodeAs_p1 h)))
  rw [Realisation.params, calculateDomain_nil, generator 0 (by omega)]
  congr 1
  funext i
  exact generator (i.val + 1) (by omega)

/-- The points of the fork: the identity twice, and the base of the empty disclosure. -/
theorem points_eq (h sk : Fr) (octet : UInt8)
    : (groups h).points (forgery h sk octet) = { aBar := 0, bBar := 0, d := 1 } := by
  have shows
      : (groups h).Shows (forgery h sk octet)
          {
            aBar := 0
            bBar := 0
            d := ((groups h).params (key sk) []).base (shownVector (host h) [] [])
          } :=
    (groups h).shows_craftedProof _
  have base : ((groups h).params (key sk) []).base (shownVector (host h) [] []) = 1 := by
    rw [params_eq]
    simp [Params.base, shownVector, disclosedScalars, scalarVector]
  rw [← shows.eq_points, base]

end Sample

-----------------------------------------------------------------------------------------
-- Special soundness
-----------------------------------------------------------------------------------------

/-- An extractor is right about every fork of every realised host. -/
def Extractor.SpeciallySound (extract : Extractor) : Prop :=
  ∀ {host : Host} {G1 G2 GT : Type} [AddCommGroup G1] [AddCommGroup G2] [AddCommGroup GT]
    [Module Fr G1] [Module Fr G2] [Module Fr GT] (groups : Realisation host G1 G2 GT)
    {pkUncompressed : BytesN 192} {header : Bytes} {indexes : List UInt32}
    {messages : List Bytes} {left right : Submission} {sk : Fr},
    groups.decodeG2 pkUncompressed = some (sk • groups.p2)
    → sk • groups.p2 ≠ 0
    → indexes.Nodup
    → (∀ index ∈ indexes, index.toNat < 12)
    → Forks host pkUncompressed header indexes messages left right
    → (extract (forkView host pkUncompressed header indexes messages left right)).Reveals
        (groups.params pkUncompressed header) (groups.points left.proof)
        (AgreesWith host indexes messages) sk

/-- No extractor is right about every fork. Witness: forgeries under three keys look alike,
so it would have to find a relation, and forgeries over two curve hashes look alike too, so
the relation would have to hold for both.
-/
theorem no_extractor_is_speciallySound : ¬ ∃ extract : Extractor, extract.SpeciallySound := by
  rintro ⟨extract, sound⟩
  have reveals (h sk : Fr) (nonzero : sk ≠ 0)
      : (extract Sample.view).Reveals { p1 := 1, q1 := h, h := fun _ => h, domain := 0 }
          { aBar := 0, bBar := 0, d := 1 } (AgreesWith (Sample.host h) [] []) sk := by
    have revealed := sound (Sample.groups h) (Sample.keyed h sk)
      (smul_ne_zero nonzero one_ne_zero) List.nodup_nil (List.forall_mem_nil _) (Sample.forks h sk)
    rw [Sample.forkView_eq, Sample.params_eq] at revealed
    rw [Sample.submission, Sample.points_eq] at revealed
    exact revealed
  have relation (h : Fr) :=
    Extraction.relation_of_reveals (by decide) (by decide) (by decide)
      (reveals h 1 (by decide)) (reveals h 2 (by decide)) (reveals h 3 (by decide))
  have atOne := relation 1
  have atTwo := relation 2
  simp only [Params.base, Params.combine, smul_eq_mul, ← Finset.sum_mul] at atOne atTwo
  have vanish : (1 : Fr) = 0 := by linear_combination 2 * atOne - atTwo
  exact one_ne_zero vanish

section

variable {host : Host} {G1 G2 GT : Type} [AddCommGroup G1] [AddCommGroup G2]
  [AddCommGroup GT] [Module Fr G1] [Module Fr G2] [Module Fr GT]
  {pkUncompressed : BytesN 192} {header : Bytes} {indexes : List UInt32}
  {messages : List Bytes} {left right : Submission} {sk : Fr}

/-- Two accepted proofs with one commitment reveal a signature on the disclosed messages,
the secret key or a relation between the public points exactly when `a_bar` is a point other
than the identity, `d` is the identity, the `r3_hat` responses coincide, or the `e_hat`
responses spell the key. Witness: a fork of the verifier is a fork of the scheme.
-/
theorem fork_reveals_iff (groups : Realisation host G1 G2 GT)
    (keyed : groups.decodeG2 pkUncompressed = some (sk • groups.p2))
    (distinct : indexes.Nodup)
    (forks : Forks host pkUncompressed header indexes messages left right)
    : (standardExtractor
          (forkView host pkUncompressed header indexes messages left right)).Reveals
        (groups.params pkUncompressed header) (groups.points left.proof)
        (AgreesWith host indexes messages) sk
      ↔ groups.point left.proof.aBar ≠ 0
        ∨ groups.point left.proof.d = 0
        ∨ Fr.fromBytes left.proof.r3Hat.val = Fr.fromBytes right.proof.r3Hat.val
        ∨ (Fr.fromBytes left.proof.challenge.val - Fr.fromBytes right.proof.challenge.val) * sk
          = Fr.fromBytes right.proof.eHat.val - Fr.fromBytes left.proof.eHat.val :=
  (forks.isFork groups keyed).reveals_iff
    (groups.accepted_equations keyed forks.leftAccepted).2
    (forks.standardExtractor_agrees distinct)

end

/-- Two forgeries under the key `2` reveal nothing to the standard extractor. -/
theorem fork_reveals_iff_forged
    : ¬ (standardExtractor
            (forkView (Sample.host 1) (Sample.key 2) [] [] [] (Sample.submission 1 2 1)
              (Sample.submission 1 2 2))).Reveals
          ((Sample.groups 1).params (Sample.key 2) [])
          ((Sample.groups 1).points (Sample.forgery 1 2 1))
          (AgreesWith (Sample.host 1) [] []) 2 := by
  intro revealed
  obtain ⟨identity, -, base⟩ := Points.mk.inj (Sample.points_eq 1 2 1)
  rcases (fork_reveals_iff (Sample.groups 1) (Sample.keyed 1 2) List.nodup_nil
    (Sample.forks 1 2)).mp revealed with genuine | degenerate | flat | named
  · simp only [Sample.submission] at genuine
    exact genuine identity
  · simp only [Sample.submission] at degenerate
    exact one_ne_zero (base.symm.trans degenerate)
  · simp only [Sample.submission, Sample.forgery, craftedProof, Fr.fromBytes_toBytes,
      neg_inj] at flat
    exact Sample.octetScalar_one_ne_two flat
  · simp only [Sample.submission, Sample.forgery, craftedProof, Fr.fromBytes_toBytes,
      fromBytes_zeroBytes, sub_self, mul_eq_zero] at named
    rcases named with same | zero
    · exact Sample.octetScalar_one_ne_two (sub_eq_zero.mp same)
    · exact absurd zero (by decide)

end StellarOnramp.KycGate.Bbs
