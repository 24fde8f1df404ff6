import StellarOnramp.KycGate.BbsForgery
import Mathlib.Data.List.Nodup

/-! The lists of a disclosure and the twelve message generators. The verifier pairs responses
with hidden indexes in order and looks at no response that is left over, so an accepted
proof need not share the generators out.
-/

namespace StellarOnramp.KycGate.Bbs

open Attempts Octets ScalarField BbsScheme
open StellarOnramp.Soroban

-----------------------------------------------------------------------------------------
-- Hidden indexes
-----------------------------------------------------------------------------------------

/-- The schema indexes that a disclosure leaves hidden, in ascending order. -/
def hiddenIndexes (indexes : List UInt32) : List UInt32 :=
  schemaIndexes.filter (fun index => !indexes.contains index)

/-- The responses are paired in order, and the surplus is dropped; by induction on the
remaining indexes.
-/
theorem hiddenResponses_eq_ok_iff {indexes remaining : List UInt32} {mHat : List Fr}
    {hidden : List (UInt32 × Fr)}
    : hiddenResponses indexes remaining mHat = .ok hidden
      ↔ (remaining.filter (fun index => !indexes.contains index)).length ≤ mHat.length
        ∧ hidden = (remaining.filter (fun index => !indexes.contains index)).zip mHat := by
  induction remaining generalizing mHat hidden with
  | nil => simp [hiddenResponses, eq_comm]
  | cons index rest ih =>
      unfold hiddenResponses
      split
      case isTrue disclosed =>
        rw [ih, List.filter_cons_of_neg (by simpa using disclosed)]
      case isFalse undisclosed =>
        rw [List.filter_cons_of_pos (by simpa using undisclosed)]
        cases mHat with
        | nil => simp
        | cons response mHat =>
            rw [bind_ok_eq_ok, List.length_cons, List.length_cons, Nat.add_le_add_iff_right,
              List.zip_cons_cons]
            constructor
            · intro paired
              obtain ⟨later, pairedLater, rfl⟩ := paired
              obtain ⟨enough, rfl⟩ := ih.mp pairedLater
              exact ⟨enough, rfl⟩
            · intro enough
              obtain ⟨enough, rfl⟩ := enough
              exact ⟨_, ih.mpr ⟨enough, rfl⟩, rfl⟩

/-- The verifier gets through its hidden indexes exactly if there are enough responses. -/
theorem schemaResponses_eq_ok_iff {indexes : List UInt32} {mHat : List Fr}
    {hidden : List (UInt32 × Fr)}
    : hiddenResponses indexes schemaIndexes mHat = .ok hidden
      ↔ (hiddenIndexes indexes).length ≤ mHat.length
        ∧ hidden = (hiddenIndexes indexes).zip mHat :=
  hiddenResponses_eq_ok_iff

theorem schemaIndexes_nodup : schemaIndexes.Nodup := by decide

theorem mem_schemaIndexes {index : UInt32} : index ∈ schemaIndexes ↔ index.toNat < 12 := by
  constructor
  · exact schemaIndexes_lt
  · intro bound
    exact List.mem_map.mpr ⟨index.toNat, List.mem_range.mpr bound, UInt32.ofNat_toNat⟩

/-- Distinct indexes of the schema and the hidden ones make up the schema. Witness: filtering
by membership and by its negation splits a list.
-/
theorem perm_hiddenIndexes {indexes : List UInt32} (distinct : indexes.Nodup)
    (inRange : ∀ index ∈ indexes, index.toNat < 12)
    : (indexes ++ hiddenIndexes indexes).Perm schemaIndexes := by
  have shown : indexes.Perm (schemaIndexes.filter (fun index => indexes.contains index)) := by
    rw [List.perm_ext_iff_of_nodup distinct (schemaIndexes_nodup.filter _)]
    intro index
    rw [List.mem_filter, mem_schemaIndexes, List.contains_iff_mem]
    exact ⟨fun member => ⟨inRange index member, member⟩, And.right⟩
  exact (shown.append_right _).trans (List.filter_append_perm _ schemaIndexes)

theorem length_hiddenIndexes {indexes : List UInt32} (distinct : indexes.Nodup)
    (inRange : ∀ index ∈ indexes, index.toNat < 12)
    : indexes.length + (hiddenIndexes indexes).length = 12 := by
  have total := (perm_hiddenIndexes distinct inRange).length_eq
  rw [List.length_append] at total
  exact total

-----------------------------------------------------------------------------------------
-- Sharing out the generators
-----------------------------------------------------------------------------------------

/-- The lists have the shape that the off-chain verifier demands. -/
structure SharesOut (indexes : List UInt32) (responses : Nat) : Prop where
  distinct : indexes.Nodup
  inRange : ∀ index ∈ indexes, index.toNat < 12
  count : responses = 12 - indexes.length

/-- The message generators are partitioned. Each disclosed index enters `Bv` with its message
and each hidden one enters `T2` with its response, together they are the schema, and no
message and no response is left out.
-/
structure Partitioned (host : Host) (indexes : List UInt32) (messages : List Bytes)
    (proof : BbsProof)
    : Prop where
  shares : SharesOut indexes proof.mHat.length
  generators
    : ∃ hidden,
        hiddenResponses indexes schemaIndexes
            (proof.mHat.map (fun response => Fr.fromBytes response.val))
          = .ok hidden
        ∧ ((disclosedScalars host indexes messages).map Prod.fst ++ hidden.map Prod.fst).Perm
          schemaIndexes
        ∧ (disclosedScalars host indexes messages).map Prod.snd
          = messagesToScalars host messages
        ∧ hidden.map Prod.snd
          = proof.mHat.map (fun response => Fr.fromBytes response.val)

/-- Lists of the right shape partition the generators. -/
theorem SharesOut.partitioned {host : Host} {indexes : List UInt32} {messages : List Bytes}
    {proof : BbsProof} (shares : SharesOut indexes proof.mHat.length)
    (parallel : indexes.length = messages.length)
    : Partitioned host indexes messages proof := by
  have total := length_hiddenIndexes shares.distinct shares.inRange
  have count := shares.count
  have scalars : (messagesToScalars host messages).length = messages.length := by
    simp [messagesToScalars]
  have responses
      : (proof.mHat.map (fun response => Fr.fromBytes response.val)).length
        = (hiddenIndexes indexes).length := by
    rw [List.length_map]
    omega
  refine ⟨shares, _, schemaResponses_eq_ok_iff.mpr ⟨responses.ge, rfl⟩, ?_, ?_, ?_⟩
  · rw [disclosedScalars, List.map_fst_zip (by omega), List.map_fst_zip responses.ge]
    exact perm_hiddenIndexes shares.distinct shares.inRange
  · rw [disclosedScalars, List.map_snd_zip (by omega)]
  · rw [List.map_snd_zip responses.le]

/-- The verifier answers, and it accepts only lists that partition the generators. -/
def PartitionChecked (host : Host) (pkUncompressed : BytesN 192) (header ph : Bytes)
    (indexes : List UInt32) (messages : List Bytes) (proof : BbsProof)
    : Prop :=
  ∃ verdict,
    verifyBbsProof host pkUncompressed header ph indexes messages proof = .ok verdict
    ∧ (verdict = true → Partitioned host indexes messages proof)

-----------------------------------------------------------------------------------------
-- Surplus responses
-----------------------------------------------------------------------------------------

/-- The proof with more responses behind its own. -/
def withSurplus (proof : BbsProof) (surplus : List (BytesN 32)) : BbsProof :=
  { proof with mHat := proof.mHat ++ surplus }

/-- Responses behind enough of them are not looked at, by induction on the remaining
indexes.
-/
theorem hiddenResponses_append {indexes remaining : List UInt32} {mHat : List Fr}
    {hidden : List (UInt32 × Fr)} (surplus : List Fr)
    (paired : hiddenResponses indexes remaining mHat = .ok hidden)
    : hiddenResponses indexes remaining (mHat ++ surplus) = .ok hidden := by
  induction remaining generalizing mHat hidden with
  | nil => exact paired
  | cons index rest ih =>
      unfold hiddenResponses at paired ⊢
      split at paired
      case isTrue disclosed => rw [if_pos disclosed, ih paired]
      case isFalse undisclosed =>
        cases mHat with
        | nil => cases paired
        | cons response mHat =>
            obtain ⟨later, pairedLater, paired⟩ := bind_eq_ok.mp paired
            cases paired
            rw [if_neg undisclosed]
            exact bind_eq_ok.mpr ⟨later, ih pairedLater, rfl⟩

/-- Whatever the verifier says of a proof with enough responses, it says of the proof with a
surplus: the responses that are left over enter no equation and no transcript.
-/
theorem verifyBbsProof_withSurplus {host : Host} {pkUncompressed : BytesN 192}
    {header ph : Bytes} {indexes : List UInt32} {messages : List Bytes} {proof : BbsProof}
    (surplus : List (BytesN 32))
    (enough : (hiddenIndexes indexes).length ≤ proof.mHat.length)
    : verifyBbsProof host pkUncompressed header ph indexes messages (withSurplus proof surplus)
      = verifyBbsProof host pkUncompressed header ph indexes messages proof := by
  have paired
      : hiddenResponses indexes schemaIndexes
            (proof.mHat.map (fun response => Fr.fromBytes response.val))
          = .ok
              ((hiddenIndexes indexes).zip
                (proof.mHat.map (fun response => Fr.fromBytes response.val))) :=
    schemaResponses_eq_ok_iff.mpr ⟨enough.trans_eq (List.length_map _).symm, rfl⟩
  have pairedMore := hiddenResponses_append
    (surplus.map (fun response => Fr.fromBytes response.val)) paired
  rw [← List.map_append] at pairedMore
  have second
      : recomputeT2 host pkUncompressed header indexes messages (withSurplus proof surplus)
        = recomputeT2 host pkUncompressed header indexes messages proof := by
    simp only [recomputeT2, withSurplus, paired, pairedMore]
  rw [verifyBbsProof, second]
  rfl

-----------------------------------------------------------------------------------------
-- When the verifier answers
-----------------------------------------------------------------------------------------

section

variable {host : Host} {G1 G2 GT : Type} [AddCommGroup G1] [AddCommGroup G2]
  [AddCommGroup GT] [Module Fr G1] [Module Fr G2] [Module Fr GT]
  (groups : Realisation host G1 G2 GT) {pkUncompressed : BytesN 192} {header ph : Bytes}
  {indexes : List UInt32} {messages : List Bytes} {proof : BbsProof}

/-- The pairing check answers on valid points, and traps on the others and on malformed
lists.
-/
def Realisation.PairingAnswers : Prop :=
  ∀ {vp1 vp2},
    (∃ verdict, host.pairingCheck vp1 vp2 = .ok verdict)
    ↔ vp1 ≠ []
      ∧ vp1.length = vp2.length
      ∧ (∃ left, Decodes groups.decodeG1 vp1 left)
      ∧ ∃ right, Decodes groups.decodeG2 vp2 right

/-- The challenge of a proof is the hash of the transcript that its points and scalars give. -/
def Realisation.Consistent (pkUncompressed : BytesN 192) (header ph : Bytes)
    (indexes : List UInt32) (messages : List Bytes) (proof : BbsProof) (points : Points G1)
    : Prop :=
  NamesChallenge host pkUncompressed header ph indexes messages proof
    (groups.encodeG1 (points.t1 (responseOf indexes proof)))
    (groups.encodeG1
      (points.t2 (groups.params pkUncompressed header) (shownVector host indexes messages)
        (responseOf indexes proof)))

/-- The pairing check answers exactly if the key is a valid point. -/
theorem Realisation.pairingCheck_answers_iff (answers : groups.PairingAnswers)
    {points : Points G1} (shows : groups.Shows proof points)
    : (∃ verdict,
          host.pairingCheck [proof.aBar, proof.bBar]
              [pkUncompressed, host.negG2 p2Uncompressed]
            = .ok verdict)
      ↔ ∃ w, groups.decodeG2 pkUncompressed = some w := by
  rw [answers]
  constructor
  · intro valid
    obtain ⟨-, -, -, right, decoded⟩ := valid
    cases decoded with
    | cons keyed _ => exact ⟨_, keyed⟩
  · intro keyed
    obtain ⟨w, keyed⟩ := keyed
    exact ⟨by simp, rfl, ⟨_, .cons shows.aBar (.cons shows.bBar .nil)⟩, _,
      .cons keyed (.cons (groups.negG2_eq groups.decode_p2) .nil)⟩

/-- The indexes of the disclosed scalars are the disclosed indexes. -/
theorem inRange_disclosedScalars_iff (parallel : indexes.length = messages.length)
    : (∀ pair ∈ disclosedScalars host indexes messages, pair.1.toNat < 12)
      ↔ ∀ index ∈ indexes, index.toNat < 12 := by
  have shown : (disclosedScalars host indexes messages).map Prod.fst = indexes := by
    rw [disclosedScalars, List.map_fst_zip (by simp [messagesToScalars, parallel])]
  have mapped
      : (∀ index ∈ (disclosedScalars host indexes messages).map Prod.fst, index.toNat < 12)
        ↔ ∀ pair ∈ disclosedScalars host indexes messages, pair.1.toNat < 12 :=
    List.forall_mem_map
  rw [shown] at mapped
  exact mapped.symm

/-- The verifier recomputes both commitments exactly if the points are valid, the indexes are
in range and no response is missing.
-/
theorem Realisation.commitments_iff (parallel : indexes.length = messages.length)
    {t1 t2 : BytesN 96}
    : recomputeT1 host proof = .ok t1
        ∧ recomputeT2 host pkUncompressed header indexes messages proof = .ok t2
      ↔ ∃ points,
          groups.Shows proof points
          ∧ (∀ index ∈ indexes, index.toNat < 12)
          ∧ (hiddenIndexes indexes).length ≤ proof.mHat.length
          ∧ t1 = groups.encodeG1 (points.t1 (responseOf indexes proof))
          ∧ t2
            = groups.encodeG1
                (points.t2 (groups.params pkUncompressed header)
                  (shownVector host indexes messages) (responseOf indexes proof)) := by
  have enough
      : (∃ hidden,
            hiddenResponses indexes schemaIndexes
                (proof.mHat.map (fun response => Fr.fromBytes response.val))
              = .ok hidden)
          ↔ (hiddenIndexes indexes).length ≤ proof.mHat.length := by
    simp only [schemaResponses_eq_ok_iff, List.length_map, exists_and_left, exists_eq, and_true]
  constructor
  · intro recomputed
    obtain ⟨first, second⟩ := recomputed
    obtain ⟨points, shows, rfl⟩ := (groups.recomputeT1_ok_iff indexes).mp first
    obtain ⟨inRange, paired, rfl⟩ := (groups.recomputeT2_ok_iff shows).mp second
    exact ⟨points, shows, (inRange_disclosedScalars_iff parallel).mp inRange, enough.mp paired,
      rfl, rfl⟩
  · intro valid
    obtain ⟨points, shows, inRange, paired, rfl, rfl⟩ := valid
    exact ⟨(groups.recomputeT1_ok_iff indexes).mpr ⟨points, shows, rfl⟩,
      (groups.recomputeT2_ok_iff shows).mpr
        ⟨(inRange_disclosedScalars_iff parallel).mpr inRange, enough.mpr paired, rfl⟩⟩

end

-----------------------------------------------------------------------------------------
-- Accepted lists of the small host
-----------------------------------------------------------------------------------------

namespace Sample

/-- Every encoding is a point, so the pairing check of the small host answers on every pair
of lists that are not empty and not of different lengths.
-/
theorem pairingAnswers (h : Fr) : (groups h).PairingAnswers := by
  intro vp1 vp2
  have left : ∃ left, Decodes (groups h).decodeG1 vp1 left := ⟨_, decodes_total _ vp1⟩
  have right : ∃ right, Decodes (groups h).decodeG2 vp2 right := ⟨_, decodes_total _ vp2⟩
  simp only [left, right, and_true, host]
  split
  case isTrue malformed => simpa [← or_iff_not_imp_left] using malformed
  case isFalse wellFormed =>
    obtain ⟨nonempty, sameLength⟩ := not_or.mp wellFormed
    exact ⟨fun _ => ⟨nonempty, not_not.mp sameLength⟩, fun _ => ⟨_, rfl⟩⟩

/-- The forgery that discloses one message twice, with two values. -/
def repeatedForgery : BbsProof :=
  craftedProof (encodeAs 96 0)
    ((groups 1).encodedBase (key 2) [] [6, 6] [ascii "over18=true", ascii "over18=false"])
    (octetScalar 1)

theorem repeatedForgery_accepted
    : verifyBbsProof (host 1) (key 2) [] [1] [6, 6]
          [ascii "over18=true", ascii "over18=false"] repeatedForgery
        = .ok true := by
  have challenge
      : (groups 1).forgedChallenge (key 2) [] [1] [6, 6]
            [ascii "over18=true", ascii "over18=false"]
          = octetScalar 1 :=
    proofChallenge_snoc 1 _ _ _ _ _ _ _ _ 1
  have inRange : ∀ index ∈ ([6, 6] : List UInt32), index.toNat < 12 := by
    rw [List.forall_mem_cons, List.forall_mem_singleton]
    exact ⟨by decide, by decide⟩
  rw [repeatedForgery, ← challenge]
  exact (groups 1).craftedProof_accepted (keyed 1 2) rfl inRange

/-- A proof that discloses nothing has a response for every message. -/
theorem enough_forgery : (hiddenIndexes []).length ≤ (forgery 1 2 1).mHat.length := by
  rw [forgery, craftedProof, List.length_replicate]
  decide

theorem surplusForgery_accepted
    : verifyBbsProof (host 1) (key 2) [] [1] [] []
          (withSurplus (forgery 1 2 1) [zeroBytes 32])
        = .ok true := by
  rw [verifyBbsProof_withSurplus [zeroBytes 32] enough_forgery]
  exact forgery_accepted 1 2 1

end Sample

-----------------------------------------------------------------------------------------
-- When the generators are partitioned
-----------------------------------------------------------------------------------------

section

variable {host : Host} {G1 G2 GT : Type} [AddCommGroup G1] [AddCommGroup G2]
  [AddCommGroup GT] [Module Fr G1] [Module Fr G2] [Module Fr GT]
  (groups : Realisation host G1 G2 GT) {pkUncompressed : BytesN 192} {header ph : Bytes}
  {indexes : List UInt32} {messages : List Bytes} {proof : BbsProof}

/-- Valid points with indexes in range and enough responses are answered, if a proof that names
its challenge comes with a valid key; they partition the generators if the pairing equation only
holds for lists of the right shape.
-/
theorem Realisation.partitionChecked_of_points (answers : groups.PairingAnswers)
    (parallel : indexes.length = messages.length) {points : Points G1}
    (shows : groups.Shows proof points) (inRange : ∀ index ∈ indexes, index.toNat < 12)
    (enough : (hiddenIndexes indexes).length ≤ proof.mHat.length)
    (decides
      : groups.Consistent pkUncompressed header ph indexes messages proof points
        → ∃ w,
            groups.decodeG2 pkUncompressed = some w
            ∧ (groups.pairing points.aBar w = groups.pairing points.bBar groups.p2
              → SharesOut indexes proof.mHat.length))
    : PartitionChecked host pkUncompressed header ph indexes messages proof := by
  obtain ⟨first, second⟩ :=
    (groups.commitments_iff parallel).mpr ⟨points, shows, inRange, enough, rfl, rfl⟩
  by_cases names : groups.Consistent pkUncompressed header ph indexes messages proof points
  case neg =>
    refine ⟨false, ?_, fun accepted => by cases accepted⟩
    exact (verifyBbsProof_eq_ok_iff parallel).mpr ⟨_, _, first, second, .inl ⟨names, rfl⟩⟩
  case pos =>
    obtain ⟨w, keyed, shares⟩ := decides names
    obtain ⟨verdict, decided⟩ := (groups.pairingCheck_answers_iff answers shows).mpr ⟨w, keyed⟩
    refine ⟨verdict, ?_, ?_⟩
    · exact (verifyBbsProof_eq_ok_iff parallel).mpr
        ⟨_, _, first, second, .inr ⟨names, decided⟩⟩
    · intro accepted
      subst accepted
      exact (shares ((groups.pairingCheck_true_iff keyed shows).mp decided)).partitioned
        parallel

/-- Valid points under a valid key, with lists of the shape that the off-chain verifier demands,
are answered and partition the generators.
-/
theorem Realisation.partitionChecked_of_sharesOut (answers : groups.PairingAnswers)
    (parallel : indexes.length = messages.length) {points : Points G1}
    (shows : groups.Shows proof points) {w : G2}
    (keyed : groups.decodeG2 pkUncompressed = some w)
    (shares : SharesOut indexes proof.mHat.length)
    : PartitionChecked host pkUncompressed header ph indexes messages proof := by
  have total := length_hiddenIndexes shares.distinct shares.inRange
  have enough : (hiddenIndexes indexes).length ≤ proof.mHat.length := by
    rw [shares.count]
    omega
  exact
    groups.partitionChecked_of_points answers parallel shows shares.inRange enough
      (fun _ => ⟨w, keyed, fun _ => shares⟩)

/-- The verifier answers, and accepts only lists that partition the generators, exactly if
the lists differ in length, or the points are valid, the indexes are in range, no response
is missing, and a proof that names its challenge comes with a valid key and satisfies the
pairing equation only with distinct indexes and one response for each hidden message.
-/
theorem Realisation.partitionChecked_iff (answers : groups.PairingAnswers)
    : PartitionChecked host pkUncompressed header ph indexes messages proof
      ↔ indexes.length ≠ messages.length
        ∨ ∃ points,
            groups.Shows proof points
            ∧ (∀ index ∈ indexes, index.toNat < 12)
            ∧ (hiddenIndexes indexes).length ≤ proof.mHat.length
            ∧ (groups.Consistent pkUncompressed header ph indexes messages proof points
              → ∃ w,
                  groups.decodeG2 pkUncompressed = some w
                  ∧ (groups.pairing points.aBar w = groups.pairing points.bBar groups.p2
                    → SharesOut indexes proof.mHat.length)) := by
  by_cases parallel : indexes.length = messages.length
  case neg =>
    refine ⟨fun _ => .inl parallel, fun _ => ⟨false, ?_, fun accepted => by cases accepted⟩⟩
    exact if_pos parallel
  rw [or_iff_right (not_not.mpr parallel)]
  constructor
  · intro checked
    obtain ⟨verdict, answered, shares⟩ := checked
    obtain ⟨t1, t2, first, second, decided⟩ := (verifyBbsProof_eq_ok_iff parallel).mp answered
    obtain ⟨points, shows, inRange, enough, rfl, rfl⟩ :=
      (groups.commitments_iff parallel).mp ⟨first, second⟩
    refine ⟨points, shows, inRange, enough, fun names => ?_⟩
    rcases decided with ⟨other, -⟩ | ⟨-, decided⟩
    · exact absurd names other
    · obtain ⟨w, keyed⟩ := (groups.pairingCheck_answers_iff answers shows).mp ⟨verdict, decided⟩
      refine ⟨w, keyed, fun paired => (shares ?_).shares⟩
      have accepted := (groups.pairingCheck_true_iff keyed shows).mpr paired
      exact Except.ok.inj (decided.symm.trans accepted)
  · intro valid
    obtain ⟨points, shows, inRange, enough, decides⟩ := valid
    exact groups.partitionChecked_of_points answers parallel shows inRange enough decides

end

/-- A proof of the small host with one response for each of the twelve messages. -/
theorem Realisation.partitionChecked_forgery
    : PartitionChecked (Sample.host 1) (Sample.key 2) [] [1] [] [] (Sample.forgery 1 2 1) := by
  refine ((Sample.groups 1).partitionChecked_iff (Sample.pairingAnswers 1)).mpr
    (.inr ⟨_, (Sample.groups 1).shows_craftedProof _, List.forall_mem_nil _,
      Sample.enough_forgery, fun _ => ⟨_, Sample.keyed 1 2, fun _ => ?_⟩⟩)
  exact ⟨List.nodup_nil, List.forall_mem_nil _, rfl⟩

/-- A thirteenth response is accepted, and so is one index disclosed twice. -/
theorem unshared_lists_are_accepted
    : ¬ PartitionChecked (Sample.host 1) (Sample.key 2) [] [1] [] []
          (withSurplus (Sample.forgery 1 2 1) [zeroBytes 32])
      ∧ ¬ PartitionChecked (Sample.host 1) (Sample.key 2) [] [1] [6, 6]
          [ascii "over18=true", ascii "over18=false"] Sample.repeatedForgery := by
  constructor
  · intro checked
    obtain ⟨verdict, answered, shares⟩ := checked
    rw [Sample.surplusForgery_accepted] at answered
    have count := (shares (Except.ok.inj answered).symm).shares.count
    cases count
  · intro checked
    obtain ⟨verdict, answered, shares⟩ := checked
    rw [Sample.repeatedForgery_accepted] at answered
    have distinct := (shares (Except.ok.inj answered).symm).shares.distinct
    exact absurd distinct (by decide)

end StellarOnramp.KycGate.Bbs
