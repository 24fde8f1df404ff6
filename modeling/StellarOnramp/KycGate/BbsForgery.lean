import StellarOnramp.KycGate.Acceptance
import StellarOnramp.KycGate.BbsGroups

/-! A forgery against the verifier. It accepts the identity for `a_bar` and `b_bar`, and then
every check can be met from public data; a small host shows the forgery run.
-/

namespace StellarOnramp.KycGate.Bbs

open Attempts Octets ScalarField BbsScheme
open StellarOnramp.Soroban

-----------------------------------------------------------------------------------------
-- Forgery from public data
-----------------------------------------------------------------------------------------

/-- A proof without a signature: the identity twice and the base of the disclosure. -/
def craftedProof (identity base : BytesN 96) (challenge : Fr) : BbsProof :=
  {
    aBar := identity
    bBar := identity
    d := base
    eHat := zeroBytes 32
    r1Hat := zeroBytes 32
    r3Hat := (-challenge).toBytes
    mHat := List.replicate 12 (zeroBytes 32)
    challenge := challenge.toBytes
  }

/-- A forger that uses public data only. The identity makes the pairing check and the first
commitment trivial, and `r3_hat = -c` cancels the second one whatever the challenge will be.
-/
def forgedProof (host : Host) (identity : BytesN 96) (pkUncompressed : BytesN 192)
    (header ph : Bytes) (indexes : List UInt32) (messages : List Bytes)
    : Except Trap BbsProof := do
  let msgScalars := messagesToScalars host messages
  let domain := calculateDomain host pkUncompressed (createGenerators host) header
  let base ← disclosedBase host (createGenerators host) domain (indexes.zip msgScalars)
  let challenge :=
    proofChallenge host indexes msgScalars identity identity base identity identity domain ph
  .ok (craftedProof identity base challenge)

@[simp]
theorem fromBytes_zeroBytes : Fr.fromBytes (zeroBytes 32).val = 0 := by
  have zero := beNat_replicate_zero 32 []
  rw [List.append_nil] at zero
  rw [Fr.fromBytes, zeroBytes, zero]
  exact Nat.cast_zero

/-- The scalars of a crafted proof do not depend on its points. -/
theorem responseOf_craftedProof (indexes : List UInt32) (identity base : BytesN 96)
    (challenge : Fr)
    : responseOf indexes (craftedProof identity base challenge)
      = { challenge, eHat := 0, r1Hat := 0, r3Hat := -challenge, mHat := 0 } := by
  have silent
      : responseVector indexes
            ((List.replicate 12 (zeroBytes 32)).map (fun response => Fr.fromBytes response.val))
          = 0 := by
    refine responseVector_of_zero indexes fun response member => ?_
    rw [List.map_replicate, fromBytes_zeroBytes] at member
    exact List.eq_of_mem_replicate member
  simp only [responseOf, craftedProof, silent, fromBytes_zeroBytes, Fr.fromBytes_toBytes]

section Forgery

variable {host : Host} {G1 G2 GT : Type} [AddCommGroup G1] [AddCommGroup G2]
  [AddCommGroup GT] [Module Fr G1] [Module Fr G2] [Module Fr GT]
  (groups : Realisation host G1 G2 GT) {pkUncompressed : BytesN 192} {header ph : Bytes}
  {indexes : List UInt32} {messages : List Bytes} {sk : Fr}

/-- The base of the disclosure, encoded. -/
def Realisation.encodedBase (pkUncompressed : BytesN 192) (header : Bytes)
    (indexes : List UInt32) (messages : List Bytes)
    : BytesN 96 :=
  groups.encodeG1
    ((groups.params pkUncompressed header).base (shownVector host indexes messages))

/-- The challenge when both commitments are the identity. -/
def Realisation.forgedChallenge (pkUncompressed : BytesN 192) (header ph : Bytes)
    (indexes : List UInt32) (messages : List Bytes)
    : Fr :=
  proofChallenge host indexes (messagesToScalars host messages) (groups.encodeG1 0)
    (groups.encodeG1 0) (groups.encodedBase pkUncompressed header indexes messages)
    (groups.encodeG1 0) (groups.encodeG1 0)
    (calculateDomain host pkUncompressed (createGenerators host) header) ph

/-- The forger succeeds on every disclosure with indexes in range. -/
theorem Realisation.forgedProof_eq (inRange : ∀ index ∈ indexes, index.toNat < 12)
    : forgedProof host (groups.encodeG1 0) pkUncompressed header ph indexes messages
      = .ok
          (craftedProof (groups.encodeG1 0)
            (groups.encodedBase pkUncompressed header indexes messages)
            (groups.forgedChallenge pkUncompressed header ph indexes messages)) := by
  refine bind_eq_ok.mpr ⟨_, groups.disclosedBase_ok_iff.mpr ⟨?_, rfl⟩, rfl⟩
  exact fun pair member => inRange pair.1 (List.of_mem_zip member).1

section Crafted

variable (challenge : Fr)

/-- The points of a crafted proof. -/
theorem Realisation.shows_craftedProof
    : groups.Shows
        (craftedProof (groups.encodeG1 0)
          (groups.encodedBase pkUncompressed header indexes messages) challenge)
        {
          aBar := 0
          bBar := 0
          d := (groups.params pkUncompressed header).base (shownVector host indexes messages)
        } :=
  ⟨groups.decode_encode _, groups.decode_encode _, groups.decode_encode _⟩

/-- Both commitments of a crafted proof are the identity, whatever its challenge. -/
theorem Realisation.recomputeT1_craftedProof
    : recomputeT1 host
          (craftedProof (groups.encodeG1 0)
            (groups.encodedBase pkUncompressed header indexes messages) challenge)
        = .ok (groups.encodeG1 0) := by
  refine (groups.recomputeT1_ok_iff indexes).mpr ⟨_, groups.shows_craftedProof challenge, ?_⟩
  rw [responseOf_craftedProof]
  simp [Points.t1]

theorem Realisation.recomputeT2_craftedProof
    (inRange : ∀ index ∈ indexes, index.toNat < 12)
    : recomputeT2 host pkUncompressed header indexes messages
          (craftedProof (groups.encodeG1 0)
            (groups.encodedBase pkUncompressed header indexes messages) challenge)
        = .ok (groups.encodeG1 0) := by
  refine (groups.recomputeT2_ok_iff (groups.shows_craftedProof challenge)).mpr
    ⟨fun pair member => inRange pair.1 (List.of_mem_zip member).1, ?_, ?_⟩
  · exact exists_hiddenResponses indexes
      (by simp [craftedProof, schemaIndexes, schemaMessageCount])
  · rw [responseOf_craftedProof]
    simp [Points.t2]

end Crafted

/-- A crafted proof is accepted once it names the challenge. Witness: all four checks are
trivial by construction.
-/
theorem Realisation.craftedProof_accepted
    (keyed : groups.decodeG2 pkUncompressed = some (sk • groups.p2))
    (parallel : indexes.length = messages.length)
    (inRange : ∀ index ∈ indexes, index.toNat < 12)
    : verifyBbsProof host pkUncompressed header ph indexes messages
          (craftedProof (groups.encodeG1 0)
            (groups.encodedBase pkUncompressed header indexes messages)
            (groups.forgedChallenge pkUncompressed header ph indexes messages))
        = .ok true := by
  refine verifyBbsProof_true_iff.mpr ⟨parallel, _, _, groups.recomputeT1_craftedProof _,
    groups.recomputeT2_craftedProof _ inRange, (Fr.fromBytes_toBytes _).symm, ?_⟩
  exact (groups.pairingCheck_ok_iff keyed (groups.shows_craftedProof _)).mpr
    (smul_zero sk).symm

/-- Universal forgery: under every key, header, disclosure and presentation header, the
forger's proof is accepted.
-/
theorem Realisation.forgedProof_accepted (header ph : Bytes)
    (keyed : groups.decodeG2 pkUncompressed = some (sk • groups.p2))
    (parallel : indexes.length = messages.length)
    (inRange : ∀ index ∈ indexes, index.toNat < 12)
    : ∃ proof,
        forgedProof host (groups.encodeG1 0) pkUncompressed header ph indexes messages
          = .ok proof
        ∧ verifyBbsProof host pkUncompressed header ph indexes messages proof = .ok true :=
  ⟨_, groups.forgedProof_eq inRange, groups.craftedProof_accepted keyed parallel inRange⟩

/-- The gate as it would be if it verified nothing. -/
def withoutVerifier (env : Env) : Env :=
  { env with verifyBbsProof := fun _ _ _ _ _ _ => .ok true }

/-- Over this verifier the gate checks no credential: a call that passes every other check
is accepted with a forged proof.
-/
theorem Realisation.forged_call_accepted {env : Env}
    (deployed : env.verifyBbsProof = verifyBbsProof host) {ledger : Ledger}
    {activeKey : RegistryView} {state : State} {args : AttestArgs}
    (keys
      : ∀ registry issuerId key,
          activeKey registry issuerId = some key
          → ∃ sk : Fr, groups.decodeG2 key = some (sk • groups.p2))
    (inRange : ∀ index ∈ args.disclosedIndexes, index.toNat < 12)
    (accepts : Accepts (withoutVerifier env) ledger activeKey state args)
    : ∃ proof, Accepts env ledger activeKey state { args with proof } := by
  obtain ⟨key, ⟨registry, registered, active⟩, flags, -⟩ := accepts.verified
  obtain ⟨sk, keyed⟩ := keys registry args.issuerId key active
  obtain ⟨proof, -, accepted⟩ :=
    groups.forgedProof_accepted args.header
      (presentationHeader env args.subject args.nonce args.ledgerExpiry) keyed
      accepts.parallel inRange
  rw [← deployed] at accepted
  exact ⟨proof,
    { accepts with verified := ⟨key, ⟨registry, registered, active⟩, flags, accepted⟩ }⟩

end Forgery

-----------------------------------------------------------------------------------------
-- A small host
-----------------------------------------------------------------------------------------

namespace Sample

/-- A digest that repeats the octet in front of the last 52. -/
def sha256 (data : Bytes) : BytesN 32 :=
  ⟨List.replicate 32 (data.reverse.getD 52 0), List.length_replicate⟩

/-- The scalar an encoding stands for, with the given encoding of the generator. -/
def decodeAs {width : Nat} (generator encoding : BytesN width) : Fr :=
  if encoding = generator then 1 else Fr.fromBytes encoding.val

def encodeAs (width : Nat) (scalar : Fr) : BytesN width :=
  ⟨beBytes width scalar.val, beBytes_length width _⟩

/-- The scalar field as all three groups, with one hash `h` to the curve. -/
def host (h : Fr) : Host :=
  {
    sha256
    hashToG1 _ _ := encodeAs 96 h
    g1Msm points scalars :=
      if points = [] ∨ points.length ≠ scalars.length then
        .error .trap
      else
        .ok
          (encodeAs 96
            (List.zipWith (fun scalar point => scalar • point) scalars
              (points.map (decodeAs p1Uncompressed))).sum)
    negG2 encoding := encodeAs 192 (-decodeAs p2Uncompressed encoding)
    pairingCheck vp1 vp2 :=
      if vp1 = [] ∨ vp1.length ≠ vp2.length then
        .error .trap
      else
        .ok
          (decide
            ((List.zipWith (fun p q => p * q) (vp1.map (decodeAs p1Uncompressed))
                (vp2.map (decodeAs p2Uncompressed))).sum
              = 0))
  }

/-- An encoded scalar is shorter than a generator's encoding, so it reads back. -/
theorem decodeAs_encodeAs {width : Nat} {generator : BytesN width} (wide : 32 ≤ width)
    (large : scalarOrder ≤ beNat generator.val) (scalar : Fr)
    : decodeAs generator (encodeAs width scalar) = scalar := by
  have small : scalar.val < scalarOrder := ZMod.val_lt scalar
  have read : beNat (beBytes width scalar.val) = scalar.val :=
    beNat_beBytes_of_lt (Fr.val_lt_pow.trans_le (Nat.pow_le_pow_right (by omega) wide))
  have other : encodeAs width scalar ≠ generator := by
    rintro rfl
    rw [encodeAs, read] at large
    omega
  rw [decodeAs, if_neg other, Fr.fromBytes, encodeAs, read, ZMod.natCast_zmod_val]

theorem decodes_total {Encoding Point : Type} (decode : Encoding → Point)
    (encodings : List Encoding)
    : Decodes (fun encoding => some (decode encoding)) encodings (encodings.map decode) := by
  induction encodings with
  | nil => exact .nil
  | cons encoding rest ih => exact .cons rfl ih

/-- A total decoder leaves no choice of points, by induction on the decoding. -/
theorem eq_map_of_decodes {Encoding Point : Type} {decode : Encoding → Point}
    {encodings : List Encoding} {points : List Point}
    (decoded : Decodes (fun encoding => some (decode encoding)) encodings points)
    : points = encodings.map decode :=
  decoded.unique (decodes_total decode encodings)

theorem decodeAs_encodeAs_p1 (scalar : Fr)
    : decodeAs p1Uncompressed (encodeAs 96 scalar) = scalar :=
  decodeAs_encodeAs (by decide) (by decide +kernel) scalar

theorem decodeAs_encodeAs_p2 (scalar : Fr)
    : decodeAs p2Uncompressed (encodeAs 192 scalar) = scalar :=
  decodeAs_encodeAs (by decide) (by decide +kernel) scalar

/-- The scalar field realises the host: its pairing is the product. -/
def groups (h : Fr) : Realisation (host h) Fr Fr Fr where
  decodeG1 encoding := some (decodeAs p1Uncompressed encoding)
  encodeG1 := encodeAs 96
  decodeG2 encoding := some (decodeAs p2Uncompressed encoding)
  pairing := LinearMap.mul Fr Fr
  p1 := 1
  p2 := 1
  decode_encode point := congrArg some (decodeAs_encodeAs_p1 point)
  decode_p1 := congrArg some (if_pos rfl)
  decode_p2 := congrArg some (if_pos rfl)
  hashToG1_valid _ _ := rfl
  negG2_eq decoded := by
    rw [← Option.some.inj decoded]
    exact congrArg some (decodeAs_encodeAs_p2 _)
  g1Msm_ok := by
    intro points scalars sum
    simp only [host]
    split
    case isTrue malformed =>
      simp only [reduceCtorEq, false_iff, not_and]
      intro nonempty sameLength
      exact absurd malformed (by simp [nonempty, sameLength])
    case isFalse wellFormed =>
      obtain ⟨nonempty, sameLength⟩ := not_or.mp wellFormed
      rw [Except.ok.injEq]
      constructor
      · rintro rfl
        exact ⟨nonempty, not_not.mp sameLength, _, decodes_total _ _, rfl⟩
      · rintro ⟨-, -, decoded, all, rfl⟩
        rw [eq_map_of_decodes all]
  pairingCheck_ok := by
    intro vp1 vp2
    simp only [host]
    split
    case isTrue malformed =>
      simp only [reduceCtorEq, false_iff, not_and]
      intro nonempty sameLength
      exact absurd malformed (by simp [nonempty, sameLength])
    case isFalse wellFormed =>
      obtain ⟨nonempty, sameLength⟩ := not_or.mp wellFormed
      rw [Except.ok.injEq, decide_eq_true_iff]
      constructor
      · intro zero
        exact ⟨nonempty, not_not.mp sameLength, _, _, decodes_total _ _, decodes_total _ _, zero⟩
      · rintro ⟨-, -, left, right, decodedLeft, decodedRight, zero⟩
        rw [eq_map_of_decodes decodedLeft, eq_map_of_decodes decodedRight] at zero
        exact zero
  nondegenerate zero := by simpa using zero

def key (sk : Fr) : BytesN 192 := encodeAs 192 sk

theorem keyed (h sk : Fr) : (groups h).decodeG2 (key sk) = some (sk • (groups h).p2) := by
  have one : sk • (groups h).p2 = sk := mul_one sk
  rw [one]
  exact congrArg some (decodeAs_encodeAs_p2 sk)

-----------------------------------------------------------------------------------------
-- Its hash to scalars
-----------------------------------------------------------------------------------------

/-- The digest of data with a 52-octet tail is the octet in front of the tail. -/
theorem sha256_append (front tail : Bytes) (octet : UInt8) (long : tail.length = 52)
    : sha256 (front ++ octet :: tail) = ⟨List.replicate 32 octet, List.length_replicate⟩ := by
  have found : (front ++ octet :: tail).reverse.getD 52 0 = octet := by
    simp [List.getD_eq_getElem?_getD, long]
  exact Subtype.ext (congrArg (List.replicate 32) found)

/-- The scalar that a string hashes to is decided by its last octet. -/
def octetScalar (octet : UInt8) : Fr := hashToScalar (host 0) [octet] h2sDst

theorem hashToScalar_snoc (h : Fr) (msg : Bytes) (octet : UInt8)
    : hashToScalar (host h) (msg ++ [octet]) h2sDst = octetScalar octet := by
  have digest (front : Bytes)
      : sha256 (List.replicate 64 0 ++ (front ++ [octet]) ++ [0x00, 0x30] ++ [0]
            ++ (h2sDst ++ [UInt8.ofNat h2sDst.length]))
          = ⟨List.replicate 32 octet, List.length_replicate⟩ := by
    have shape
        : List.replicate 64 0 ++ (front ++ [octet]) ++ [0x00, 0x30] ++ [0]
              ++ (h2sDst ++ [UInt8.ofNat h2sDst.length])
            = (List.replicate 64 0 ++ front)
              ++ octet :: ([0x00, 0x30, 0] ++ (h2sDst ++ [UInt8.ofNat h2sDst.length])) := by
      simp only [List.append_assoc, List.cons_append, List.nil_append]
    rw [shape]
    exact sha256_append _ _ _ rfl
  have expanded
      : expandMessageXmd48 (host h) (msg ++ [octet]) h2sDst
          = expandMessageXmd48 (host 0) [octet] h2sDst := by
    have left := digest msg
    have right := digest []
    rw [List.nil_append] at right
    simp only [expandMessageXmd48, host, left, right]
  simp only [octetScalar, hashToScalar, expanded]

theorem octetScalar_zero : octetScalar 0 = 0 := by decide +kernel

theorem octetScalar_one_ne_two : octetScalar 1 ≠ octetScalar 2 := by decide +kernel

/-- The domain of the empty header is `0`. Witness: its input ends in a zero length. -/
theorem calculateDomain_nil (h : Fr) (pkUncompressed : BytesN 192)
    (generators : List (BytesN 96))
    : calculateDomain (host h) pkUncompressed generators [] = 0 := by
  have tail : beBytes 8 0 = beBytes 7 0 ++ [0] := rfl
  rw [calculateDomain, List.append_nil, List.length_nil, tail, ← List.append_assoc,
    hashToScalar_snoc, octetScalar_zero]

/-- The challenge is decided by the last octet of the presentation header. -/
theorem proofChallenge_snoc (h : Fr) (indexes : List UInt32) (msgScalars : List Fr)
    (abar bbar d t1 t2 : BytesN 96) (domain : Fr) (octet : UInt8)
    : proofChallenge (host h) indexes msgScalars abar bbar d t1 t2 domain [octet]
      = octetScalar octet :=
  hashToScalar_snoc h _ octet

-----------------------------------------------------------------------------------------
-- A forgery run
-----------------------------------------------------------------------------------------

/-- The forgery that discloses nothing, for a presentation header of one octet. -/
def forgery (h sk : Fr) (octet : UInt8) : BbsProof :=
  craftedProof (encodeAs 96 0) ((groups h).encodedBase (key sk) [] [] []) (octetScalar octet)

/-- The forgery is the forger's and it is accepted. -/
theorem forgery_accepted (h sk : Fr) (octet : UInt8)
    : verifyBbsProof (host h) (key sk) [] [octet] [] [] (forgery h sk octet) = .ok true := by
  have challenge : (groups h).forgedChallenge (key sk) [] [octet] [] [] = octetScalar octet :=
    proofChallenge_snoc h _ _ _ _ _ _ _ _ octet
  rw [forgery, ← challenge]
  exact (groups h).craftedProof_accepted (keyed h sk) rfl (List.forall_mem_nil _)

end Sample

end StellarOnramp.KycGate.Bbs
