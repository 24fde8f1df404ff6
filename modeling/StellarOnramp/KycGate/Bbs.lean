import StellarOnramp.KycGate.Contract
import StellarOnramp.Library.ScalarField

/-! The on-chain verifier of BBS disclosure proofs, over the host's hash and curve functions.
Points stay in the uncompressed wire form and are compressed only for the transcripts.
-/

namespace StellarOnramp.KycGate.Bbs

open Octets ScalarField
open StellarOnramp.Soroban

-----------------------------------------------------------------------------------------
-- The host
-----------------------------------------------------------------------------------------

/-- The host functions that the verifier calls. The curve functions validate their points
and trap on an invalid one.
-/
structure Host where
  sha256 : Bytes → BytesN 32
  hashToG1 : (msg dst : Bytes) → BytesN 96
  g1Msm : (points : List (BytesN 96)) → (scalars : List Fr) → Except Trap (BytesN 96)
  negG2 : BytesN 192 → BytesN 192
  pairingCheck : (vp1 : List (BytesN 96)) → (vp2 : List (BytesN 192)) → Except Trap Bool

-----------------------------------------------------------------------------------------
-- Constants
-----------------------------------------------------------------------------------------

def apiId : Bytes := ascii "BBS_BLS12381G1_XMD:SHA-256_SSWU_RO_H2G_HM2S_"

def generatorSeed : Bytes :=
  ascii "BBS_BLS12381G1_XMD:SHA-256_SSWU_RO_H2G_HM2S_MESSAGE_GENERATOR_SEED"

def seedDst : Bytes :=
  ascii "BBS_BLS12381G1_XMD:SHA-256_SSWU_RO_H2G_HM2S_SIG_GENERATOR_SEED_"

def generatorDst : Bytes :=
  ascii "BBS_BLS12381G1_XMD:SHA-256_SSWU_RO_H2G_HM2S_SIG_GENERATOR_DST_"

def mapDst : Bytes :=
  ascii "BBS_BLS12381G1_XMD:SHA-256_SSWU_RO_H2G_HM2S_MAP_MSG_TO_SCALAR_AS_HASH_"

def h2sDst : Bytes := ascii "BBS_BLS12381G1_XMD:SHA-256_SSWU_RO_H2G_HM2S_H2S_"

/-- The fixed generator `P1` of the ciphersuite, uncompressed. -/
def p1Uncompressed : BytesN 96 :=
  ⟨
    [
      0x08, 0xce, 0x25, 0x61, 0x02, 0x84, 0x08, 0x21, 0xa3, 0xe9, 0x4e, 0xa9, 0x02, 0x5e,
      0x46, 0x62, 0xb2, 0x05, 0x76, 0x2f, 0x97, 0x76, 0xb3, 0xa7, 0x66, 0xc8, 0x72, 0xb9,
      0x48, 0xf1, 0xfd, 0x22, 0x5e, 0x7c, 0x59, 0x69, 0x85, 0x88, 0xe7, 0x0d, 0x11, 0x40,
      0x6d, 0x16, 0x1b, 0x4e, 0x28, 0xc9, 0x10, 0xa7, 0x11, 0xac, 0xd1, 0x6f, 0xf4, 0x3e,
      0x30, 0xb3, 0x37, 0x3b, 0x7b, 0x6a, 0x92, 0x33, 0x94, 0x5e, 0xc7, 0x4a, 0xdf, 0x00,
      0xb0, 0x48, 0x1f, 0xbc, 0xd5, 0xe3, 0xb1, 0xe3, 0x42, 0xe7, 0xa1, 0x05, 0xb4, 0x96,
      0x61, 0x95, 0xe6, 0xa6, 0x78, 0x85, 0x7a, 0x0e, 0x04, 0x93, 0xd5, 0xb1
    ],
    rfl
  ⟩

/-- The generator of G2, uncompressed. -/
def p2Uncompressed : BytesN 192 :=
  ⟨
    [
      0x13, 0xe0, 0x2b, 0x60, 0x52, 0x71, 0x9f, 0x60, 0x7d, 0xac, 0xd3, 0xa0, 0x88, 0x27,
      0x4f, 0x65, 0x59, 0x6b, 0xd0, 0xd0, 0x99, 0x20, 0xb6, 0x1a, 0xb5, 0xda, 0x61, 0xbb,
      0xdc, 0x7f, 0x50, 0x49, 0x33, 0x4c, 0xf1, 0x12, 0x13, 0x94, 0x5d, 0x57, 0xe5, 0xac,
      0x7d, 0x05, 0x5d, 0x04, 0x2b, 0x7e, 0x02, 0x4a, 0xa2, 0xb2, 0xf0, 0x8f, 0x0a, 0x91,
      0x26, 0x08, 0x05, 0x27, 0x2d, 0xc5, 0x10, 0x51, 0xc6, 0xe4, 0x7a, 0xd4, 0xfa, 0x40,
      0x3b, 0x02, 0xb4, 0x51, 0x0b, 0x64, 0x7a, 0xe3, 0xd1, 0x77, 0x0b, 0xac, 0x03, 0x26,
      0xa8, 0x05, 0xbb, 0xef, 0xd4, 0x80, 0x56, 0xc8, 0xc1, 0x21, 0xbd, 0xb8, 0x06, 0x06,
      0xc4, 0xa0, 0x2e, 0xa7, 0x34, 0xcc, 0x32, 0xac, 0xd2, 0xb0, 0x2b, 0xc2, 0x8b, 0x99,
      0xcb, 0x3e, 0x28, 0x7e, 0x85, 0xa7, 0x63, 0xaf, 0x26, 0x74, 0x92, 0xab, 0x57, 0x2e,
      0x99, 0xab, 0x3f, 0x37, 0x0d, 0x27, 0x5c, 0xec, 0x1d, 0xa1, 0xaa, 0xa9, 0x07, 0x5f,
      0xf0, 0x5f, 0x79, 0xbe, 0x0c, 0xe5, 0xd5, 0x27, 0x72, 0x7d, 0x6e, 0x11, 0x8c, 0xc9,
      0xcd, 0xc6, 0xda, 0x2e, 0x35, 0x1a, 0xad, 0xfd, 0x9b, 0xaa, 0x8c, 0xbd, 0xd3, 0xa7,
      0x6d, 0x42, 0x9a, 0x69, 0x51, 0x60, 0xd1, 0x2c, 0x92, 0x3a, 0xc9, 0xcc, 0x3b, 0xac,
      0xa2, 0x89, 0xe1, 0x93, 0x54, 0x86, 0x08, 0xb8, 0x28, 0x01
    ],
    rfl
  ⟩

/-- `2^256` modulo the scalar order. -/
def c256ModR : BytesN 32 :=
  ⟨
    [
      0x18, 0x24, 0xb1, 0x59, 0xac, 0xc5, 0x05, 0x6f, 0x99, 0x8c, 0x4f, 0xef, 0xec, 0xbc,
      0x4f, 0xf5, 0x58, 0x84, 0xb7, 0xfa, 0x00, 0x03, 0x48, 0x02, 0x00, 0x00, 0x00, 0x01,
      0xff, 0xff, 0xff, 0xfe
    ],
    rfl
  ⟩

/-- `(p-1)/2` for the base field: a coordinate above it sets the sort bit. -/
def halfPBe : BytesN 48 :=
  ⟨
    [
      0x0d, 0x00, 0x88, 0xf5, 0x1c, 0xbf, 0xf3, 0x4d, 0x25, 0x8d, 0xd3, 0xdb, 0x21, 0xa5,
      0xd6, 0x6b, 0xb2, 0x3b, 0xa5, 0xc2, 0x79, 0xc2, 0x89, 0x5f, 0xb3, 0x98, 0x69, 0x50,
      0x7b, 0x58, 0x7b, 0x12, 0x0f, 0x55, 0xff, 0xff, 0x58, 0xa9, 0xff, 0xff, 0xdc, 0xff,
      0x7f, 0xff, 0xff, 0xff, 0xd5, 0x55
    ],
    rfl
  ⟩

def schemaMessageCount : Nat := 12

-----------------------------------------------------------------------------------------
-- Hashing to scalars
-----------------------------------------------------------------------------------------

/-- RFC 9380 `expand_message_xmd` with SHA-256 for 48 output octets. -/
def expandMessageXmd48 (host : Host) (msg dst : Bytes) : BytesN 48 :=
  let dstPrime := dst ++ [UInt8.ofNat dst.length]
  let b0 := host.sha256 (List.replicate 64 0 ++ msg ++ [0x00, 0x30] ++ [0] ++ dstPrime)
  let b1 := host.sha256 (b0.val ++ [1] ++ dstPrime)
  let xor := List.zipWith (fun left right => left ^^^ right) b0.val b1.val
  let b2 := host.sha256 (xor ++ [2] ++ dstPrime)
  ⟨b1.val ++ b2.val.take 16, by simp [b1.property, b2.property]⟩

/-- Two limbs recombined with `2^256 mod r`, since a scalar is read from 32 octets. -/
def hashToScalar (host : Host) (msg dst : Bytes) : Fr :=
  let uniform := (expandMessageXmd48 host msg dst).val
  let hi := Fr.fromBytes (List.replicate 16 0 ++ uniform.take 16)
  let lo := Fr.fromBytes (uniform.drop 16)
  let c256 := Fr.fromBytes c256ModR.val
  hi * c256 + lo

-----------------------------------------------------------------------------------------
-- Compressed points
-----------------------------------------------------------------------------------------

def isZero (bytes : Bytes) : Bool :=
  bytes.all (fun byte => byte == 0)

/-- Lexicographic order of two strings of one length. -/
def gtBe : Bytes → Bytes → Bool
  | a :: as, b :: bs => if b < a then true else if a < b then false else gtBe as bs
  | _, _ => false

/-- Set the compression bit, and the sort bit when asked, in the first octet. -/
def setFlags (sort : Bool) : Bytes → Bytes
  | [] => []
  | first :: rest => (if sort then first ||| 0x80 ||| 0x20 else first ||| 0x80) :: rest

def g1Compress (p : BytesN 96) : Bytes :=
  let sort := gtBe (p.val.drop 48) halfPBe.val
  setFlags sort (p.val.take 48)

def g2Compress (p : BytesN 192) : Bytes :=
  let yC1 := (p.val.drop 96).take 48
  let yC0 := p.val.drop 144
  let sort := if isZero yC1 then gtBe yC0 halfPBe.val else gtBe yC1 halfPBe.val
  setFlags sort (p.val.take 96)

-----------------------------------------------------------------------------------------
-- Generators, messages and domain
-----------------------------------------------------------------------------------------

/-- The generators for the counters still to come, from the expander state `v`. -/
def generatorsFrom (host : Host) (v : Bytes) : List Nat → List (BytesN 96)
  | [] => []
  | i :: rest =>
      let v := (expandMessageXmd48 host (v ++ beBytes 8 i) seedDst).val
      host.hashToG1 v generatorDst :: generatorsFrom host v rest

/-- `Q_1` and the twelve message generators; no input of a caller reaches them. -/
def createGenerators (host : Host) : List (BytesN 96) :=
  let v := (expandMessageXmd48 host generatorSeed seedDst).val
  generatorsFrom host v (List.range' 1 (schemaMessageCount + 1))

def messagesToScalars (host : Host) (messages : List Bytes) : List Fr :=
  messages.map (fun msg => hashToScalar host msg mapDst)

def calculateDomain (host : Host) (pkUncompressed : BytesN 192)
    (generators : List (BytesN 96)) (header : Bytes)
    : Fr :=
  let domOcts := beBytes 8 schemaMessageCount
  let domOcts := domOcts ++ generators.flatMap g1Compress
  let domOcts := domOcts ++ apiId
  let domInput := g2Compress pkUncompressed ++ domOcts
  let domInput := domInput ++ beBytes 8 header.length ++ header
  hashToScalar host domInput h2sDst

-----------------------------------------------------------------------------------------
-- The proof
-----------------------------------------------------------------------------------------

/-- The transcript is hashed with every point compressed and every scalar in 32 octets. -/
def proofChallenge (host : Host) (disclosedIndexes : List UInt32) (msgScalars : List Fr)
    (abar bbar d t1 t2 : BytesN 96) (domain : Fr) (ph : Bytes)
    : Fr :=
  let cOcts := beBytes 8 disclosedIndexes.length
  let cOcts :=
    cOcts
      ++ (disclosedIndexes.zip msgScalars).flatMap
        (fun (index, scalar) => beBytes 8 index.toNat ++ scalar.toBytes.val)
  let cOcts := cOcts ++ g1Compress abar ++ g1Compress bbar ++ g1Compress d
  let cOcts := cOcts ++ g1Compress t1 ++ g1Compress t2
  let cOcts := cOcts ++ domain.toBytes.val
  let cOcts := cOcts ++ beBytes 8 ph.length ++ ph
  hashToScalar host cOcts h2sDst

/-- The generators of the indexed scalars. An index past the schema traps, and so does the
largest one, whose successor overflows.
-/
def indexedPoints (generators : List (BytesN 96)) (scalars : List (UInt32 × Fr))
    : Except Trap (List (BytesN 96)) :=
  scalars.mapM (fun (index, _) =>
    match generators[index.toNat + 1]? with
    | some g => .ok g
    | none => .error .trap)

/-- Pair each schema index that is not disclosed with the next response; extra responses
are left over, and a missing one traps.
-/
def hiddenResponses (disclosedIndexes : List UInt32)
    : List UInt32 → List Fr → Except Trap (List (UInt32 × Fr))
  | [], _ => .ok []
  | hiddenIdx :: rest, mHat =>
      if disclosedIndexes.contains hiddenIdx then
        hiddenResponses disclosedIndexes rest mHat
      else
        match mHat with
        | [] => .error .trap
        | response :: mHat => do
            let later ← hiddenResponses disclosedIndexes rest mHat
            .ok ((hiddenIdx, response) :: later)

def schemaIndexes : List UInt32 := (List.range schemaMessageCount).map UInt32.ofNat

/-- `T1 = Bbar·c + Abar·ê + D·r1̂`. -/
def recomputeT1 (host : Host) (proof : BbsProof) : Except Trap (BytesN 96) :=
  host.g1Msm [proof.bBar, proof.aBar, proof.d]
    [
      Fr.fromBytes proof.challenge.val,
      Fr.fromBytes proof.eHat.val,
      Fr.fromBytes proof.r1Hat.val
    ]

/-- `Bv = P1 + Q_1·domain + Σ H_i·msg_i` over the disclosed messages. -/
def disclosedBase (host : Host) (generators : List (BytesN 96)) (domain : Fr)
    (disclosed : List (UInt32 × Fr))
    : Except Trap (BytesN 96) :=
  match generators with
  | [] => .error .trap
  | q1 :: _ => do
      let points ← indexedPoints generators disclosed
      host.g1Msm (p1Uncompressed :: q1 :: points) (1 :: domain :: disclosed.map Prod.snd)

/-- `T2 = Bv·c + D·r3̂ + Σ H_j·m̂_j` over the hidden messages. -/
def recomputeT2 (host : Host) (pkUncompressed : BytesN 192) (header : Bytes)
    (disclosedIndexes : List UInt32) (disclosedMessages : List Bytes) (proof : BbsProof)
    : Except Trap (BytesN 96) := do
  let generators := createGenerators host
  let msgScalars := messagesToScalars host disclosedMessages
  let domain := calculateDomain host pkUncompressed generators header
  let bv ← disclosedBase host generators domain (disclosedIndexes.zip msgScalars)
  let mHat := proof.mHat.map (fun response => Fr.fromBytes response.val)
  let hidden ← hiddenResponses disclosedIndexes schemaIndexes mHat
  let points ← indexedPoints generators hidden
  host.g1Msm (bv :: proof.d :: points)
    (Fr.fromBytes proof.challenge.val :: Fr.fromBytes proof.r3Hat.val :: hidden.map Prod.snd)

/-- Whether the recomputed challenge is the proof's, and `e(Abar, W) · e(Bbar, -P2) = 1`. -/
def verifyBbsProof (host : Host) (pkUncompressed : BytesN 192) (header ph : Bytes)
    (disclosedIndexes : List UInt32) (disclosedMessages : List Bytes) (proof : BbsProof)
    : Except Trap Bool :=
  if disclosedIndexes.length ≠ disclosedMessages.length then
    .ok false
  else do
    let t1 ← recomputeT1 host proof
    let t2 ← recomputeT2 host pkUncompressed header disclosedIndexes disclosedMessages proof
    let msgScalars := messagesToScalars host disclosedMessages
    let domain := calculateDomain host pkUncompressed (createGenerators host) header
    let recomputed :=
      proofChallenge host disclosedIndexes msgScalars proof.aBar proof.bBar proof.d t1 t2
        domain ph
    if recomputed ≠ Fr.fromBytes proof.challenge.val then
      .ok false
    else
      host.pairingCheck [proof.aBar, proof.bBar]
        [pkUncompressed, host.negG2 p2Uncompressed]

end StellarOnramp.KycGate.Bbs
