import StellarOnramp.KycGate.PointEncodings

/-! The octets that the verifier hashes can be read back: two different challenges or domains
never hash the same octets.
-/

namespace StellarOnramp.KycGate.Bbs

open Octets ScalarField

-----------------------------------------------------------------------------------------
-- The challenge
-----------------------------------------------------------------------------------------

/-- The octets that the challenge hashes. -/
def challengeOctets (disclosedIndexes : List UInt32) (msgScalars : List Fr)
    (abar bbar d t1 t2 : BytesN 96) (domain : Fr) (ph : Bytes)
    : Bytes :=
  beBytes 8 disclosedIndexes.length
    ++ (disclosedIndexes.zip msgScalars).flatMap
      (fun (index, scalar) => beBytes 8 index.toNat ++ scalar.toBytes.val)
    ++ g1Compress abar ++ g1Compress bbar ++ g1Compress d
    ++ g1Compress t1 ++ g1Compress t2
    ++ domain.toBytes.val
    ++ beBytes 8 ph.length ++ ph

theorem proofChallenge_eq (host : Host) (disclosedIndexes : List UInt32) (msgScalars : List Fr)
    (abar bbar d t1 t2 : BytesN 96) (domain : Fr) (ph : Bytes)
    : proofChallenge host disclosedIndexes msgScalars abar bbar d t1 t2 domain ph
      = hashToScalar host
          (challengeOctets disclosedIndexes msgScalars abar bbar d t1 t2 domain ph) h2sDst := by
  simp only [proofChallenge, challengeOctets, List.append_assoc]

/-- All that a challenge is about. A vector of the host counts its elements in 32 bits. -/
@[ext]
structure ChallengeTranscript where
  disclosed : List (UInt32 × Fr)
  counted : disclosed.length < 2 ^ 32
  abar : G1Point
  bbar : G1Point
  d : G1Point
  t1 : G1Point
  t2 : G1Point
  domain : Fr
  ph : Bytes

def ChallengeTranscript.octets (transcript : ChallengeTranscript) : Bytes :=
  challengeOctets (transcript.disclosed.map Prod.fst) (transcript.disclosed.map Prod.snd)
    transcript.abar.val transcript.bbar.val transcript.d.val transcript.t1.val
    transcript.t2.val transcript.domain transcript.ph

theorem toBytes_injective : Function.Injective fun scalar : Fr => scalar.toBytes.val := by
  intro left right same
  dsimp only at same
  rw [← Fr.fromBytes_toBytes left, same, Fr.fromBytes_toBytes]

/-- A disclosed index and its scalar as the challenge hashes them. -/
def disclosedOctets (item : UInt32 × Fr) : Bytes :=
  beBytes 8 item.1.toNat ++ item.2.toBytes.val

theorem disclosedOctets_length (item : UInt32 × Fr) : (disclosedOctets item).length = 40 := by
  rw [disclosedOctets, List.length_append, beBytes_length, item.2.toBytes.property]

theorem disclosedOctets_injective : Function.Injective disclosedOctets := by
  intro left right same
  obtain ⟨indexes, scalars⟩ := List.append_inj same (by rw [beBytes_length, beBytes_length])
  have small (index : UInt32) : index.toNat < 256 ^ 8 :=
    index.toNat_lt.trans (by decide)
  apply Prod.ext
  · exact UInt32.toNat_inj.mp (beBytes_inj (small _) (small _) indexes)
  · exact toBytes_injective scalars

/-- The octets of a challenge, as fields in front of each other. -/
theorem ChallengeTranscript.octets_eq (transcript : ChallengeTranscript)
    : transcript.octets
      = beBytes 8 transcript.disclosed.length
          ++ (transcript.disclosed.flatMap disclosedOctets
            ++ (g1Compress transcript.abar.val
              ++ (g1Compress transcript.bbar.val
                ++ (g1Compress transcript.d.val
                  ++ (g1Compress transcript.t1.val
                    ++ (g1Compress transcript.t2.val
                      ++ (transcript.domain.toBytes.val
                        ++ (beBytes 8 transcript.ph.length ++ transcript.ph)))))))) := by
  have zipped
      : (transcript.disclosed.map Prod.fst).zip (transcript.disclosed.map Prod.snd)
        = transcript.disclosed :=
    List.zip_map'.trans (List.map_id _)
  rw [octets, challengeOctets, zipped, List.length_map]
  simp only [List.append_assoc]
  rfl

/-- Different challenges hash different octets: each field in turn is read back at its width. -/
theorem ChallengeTranscript.octets_injective : Function.Injective ChallengeTranscript.octets := by
  intro left right same
  rw [octets_eq, octets_eq] at same
  have width (p q : G1Point) : (g1Compress p.val).length = (g1Compress q.val).length :=
    (g1Compress_length _).trans (g1Compress_length _).symm
  obtain ⟨counts, same⟩ := List.append_inj same (by rw [beBytes_length, beBytes_length])
  have count : left.disclosed.length = right.disclosed.length :=
    beBytes_inj (left.counted.trans (by decide)) (right.counted.trans (by decide)) counts
  obtain ⟨disclosed, same⟩ :=
    flatMap_append_inj disclosedOctets_length disclosedOctets_injective count same
  obtain ⟨abar, same⟩ := List.append_inj same (width _ _)
  obtain ⟨bbar, same⟩ := List.append_inj same (width _ _)
  obtain ⟨d, same⟩ := List.append_inj same (width _ _)
  obtain ⟨t1, same⟩ := List.append_inj same (width _ _)
  obtain ⟨t2, same⟩ := List.append_inj same (width _ _)
  obtain ⟨domain, same⟩ :=
    List.append_inj same (left.domain.toBytes.property.trans right.domain.toBytes.property.symm)
  obtain ⟨-, ph⟩ := List.append_inj same (by rw [beBytes_length, beBytes_length])
  exact ChallengeTranscript.ext disclosed (g1Compress_injective abar) (g1Compress_injective bbar)
    (g1Compress_injective d) (g1Compress_injective t1) (g1Compress_injective t2)
    (toBytes_injective domain) ph

-----------------------------------------------------------------------------------------
-- The domain
-----------------------------------------------------------------------------------------

/-- The octets that the domain hashes. -/
def domainOctets (pkUncompressed : BytesN 192) (generators : List (BytesN 96)) (header : Bytes)
    : Bytes :=
  g2Compress pkUncompressed
    ++ (beBytes 8 schemaMessageCount ++ generators.flatMap g1Compress ++ apiId)
    ++ beBytes 8 header.length ++ header

theorem calculateDomain_eq (host : Host) (pkUncompressed : BytesN 192)
    (generators : List (BytesN 96)) (header : Bytes)
    : calculateDomain host pkUncompressed generators header
      = hashToScalar host (domainOctets pkUncompressed generators header) h2sDst :=
  rfl

/-- All that a domain is about: `Q_1` and the twelve message generators beside the key. -/
@[ext]
structure DomainTranscript where
  pk : G2Point
  generators : List G1Point
  thirteen : generators.length = schemaMessageCount + 1
  header : Bytes

def DomainTranscript.octets (transcript : DomainTranscript) : Bytes :=
  domainOctets transcript.pk.val (transcript.generators.map Subtype.val) transcript.header

/-- Different domains hash different octets. -/
theorem DomainTranscript.octets_injective : Function.Injective DomainTranscript.octets := by
  intro left right same
  simp only [octets, domainOctets, List.flatMap_map, List.append_assoc] at same
  have width : (g2Compress left.pk.val).length = (g2Compress right.pk.val).length :=
    (g2Compress_length _).trans (g2Compress_length _).symm
  obtain ⟨pk, same⟩ := List.append_inj same width
  have same := List.append_cancel_left same
  obtain ⟨generators, same⟩ :=
    flatMap_append_inj (fun generator : G1Point => g1Compress_length generator.val)
      g1Compress_injective (left.thirteen.trans right.thirteen.symm) same
  have same := List.append_cancel_left same
  obtain ⟨-, header⟩ := List.append_inj same (by rw [beBytes_length, beBytes_length])
  exact DomainTranscript.ext (g2Compress_injective pk) generators header

-----------------------------------------------------------------------------------------
-- The whole transcript
-----------------------------------------------------------------------------------------

/-- Points, challenges and domains are determined by what is hashed for them, and this is what
the verifier hashes.
-/
theorem transcripts_unambiguous
    : (Function.Injective fun p : G1Point => g1Compress p.val)
      ∧ (Function.Injective fun p : G2Point => g2Compress p.val)
      ∧ Function.Injective ChallengeTranscript.octets
      ∧ Function.Injective DomainTranscript.octets
      ∧ (∀ (host : Host) (transcript : ChallengeTranscript),
          proofChallenge host (transcript.disclosed.map Prod.fst)
              (transcript.disclosed.map Prod.snd) transcript.abar.val transcript.bbar.val
              transcript.d.val transcript.t1.val transcript.t2.val transcript.domain
              transcript.ph
            = hashToScalar host transcript.octets h2sDst)
      ∧ ∀ (host : Host) (transcript : DomainTranscript),
          calculateDomain host transcript.pk.val (transcript.generators.map Subtype.val)
              transcript.header
            = hashToScalar host transcript.octets h2sDst := by
  refine ⟨g1Compress_injective, g2Compress_injective, ChallengeTranscript.octets_injective,
    DomainTranscript.octets_injective, ?_, ?_⟩
  · intro host transcript
    exact proofChallenge_eq host _ _ _ _ _ _ _ _ _
  · intro host transcript
    exact calculateDomain_eq host _ _ _

end StellarOnramp.KycGate.Bbs
