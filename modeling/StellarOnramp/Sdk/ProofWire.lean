import StellarOnramp.KycGate.Bbs
import StellarOnramp.Sdk.AttestArgs

/-! The wire form of a proof is converted without loss: its points can be recompressed, its
length and its number of responses determine each other, and the contract's map holds every
field under the contract's own name.
-/

namespace StellarOnramp.Sdk

open Attempts JsText Octets
open StellarOnramp.Identity
open StellarOnramp.KycGate.Bbs (g1Compress p1Uncompressed)
open StellarOnramp.Soroban

-----------------------------------------------------------------------------------------
-- Recompression
-----------------------------------------------------------------------------------------

/-- The curve library writes a point back as the octets that it read. -/
structure WritesBack (curves : CurveLibrary) (writer : G1Writer) : Prop where
  back : ∀ compressed x y, curves.g1 compressed = some (x, y) → writer x.val y.val = some compressed

theorem beToBigint_eq (bytes : Bytes) : beToBigint bytes = beNat bytes := by
  induction bytes using List.reverseRecOn with
  | nil => rfl
  | append_singleton front last ih =>
      rw [beNat_snoc, ← ih, beToBigint, List.foldl_append]
      exact (Nat.shiftLeft_add_eq_or_of_lt last.toNat_lt _).symm.trans
        (by rw [Nat.shiftLeft_eq]; rfl)

theorem beToBigint_beBytes (x : Fp) : beToBigint (beBytes 48 x.val) = x.val := by
  rw [beToBigint_eq]
  exact beNat_beBytes_of_lt (Fp.val_lt x)

/-- Compressing what was decompressed gives back the octets. -/
theorem compressG1_decompressG1 {curves : CurveLibrary} {writer : G1Writer}
    (inverse : WritesBack curves writer) {compressed point : Bytes}
    (decompressed : decompressG1 curves compressed = .ok point)
    : compressG1 writer point = .ok compressed := by
  obtain ⟨-, decompressed⟩ := failIf_bind_eq_ok.mp decompressed
  split at decompressed
  case h_1 => cases decompressed
  case h_2 x y parsed =>
    simp only [fpToBe_fp, bind, Except.bind, Except.ok.injEq] at decompressed
    subst decompressed
    have width : (beBytes 48 x.val).length = fpBytes := beBytes_length 48 _
    refine failIf_bind_eq_ok.mpr ⟨by simp [g1UncompressedBytes], ?_⟩
    dsimp only
    rw [List.take_left' width, List.drop_left' width, beToBigint_beBytes, beToBigint_beBytes,
      throwing_eq_ok]
    exact inverse.back compressed x y parsed

/-- The cursor splits the octets at the point that it took. -/
theorem takePoint_recompressed {curves : CurveLibrary} {writer : G1Writer}
    (inverse : WritesBack curves writer) {octets point rest : Bytes}
    (taken : takePoint curves octets = .ok (point, rest))
    : ∃ compressed, compressG1 writer point = .ok compressed ∧ octets = compressed ++ rest := by
  obtain ⟨uncompressed, decompressed, taken⟩ := bind_eq_ok.mp taken
  cases taken
  exact ⟨_, compressG1_decompressG1 inverse decompressed, (List.take_append_drop _ _).symm⟩

/-- The scalars that the cursor took stand in front of the rest, by induction on their number. -/
theorem takeScalars_join (count : Nat) (octets : Bytes)
    : (takeScalars count octets).1.flatten ++ (takeScalars count octets).2 = octets := by
  induction count generalizing octets with
  | zero => rfl
  | succ count ih =>
      have rest := ih (takeScalar octets).2
      simp only [takeScalars, List.flatten_cons, List.append_assoc]
      rw [rest]
      exact List.take_append_drop _ _

/-- The last scalar stands behind the others, by induction on their number. -/
theorem takeScalars_snoc (count : Nat) (octets : Bytes)
    : (takeScalars (count + 1) octets).1
      = (takeScalars count octets).1 ++ [(takeScalar (takeScalars count octets).2).1] := by
  induction count generalizing octets with
  | zero => rfl
  | succ count ih =>
      rw [takeScalars]
      simp only [takeScalars, List.cons_append, ← ih]

/-- The octets behind the points are the three scalars, the responses and the challenge. -/
theorem takeScalars_fields {u : Nat} {octets : Bytes} (whole : octets.length = 32 * (u + 4))
    : let (eHat, rest) := takeScalar octets
      let (r1Hat, rest) := takeScalar rest
      let (r3Hat, rest) := takeScalar rest
      let (mHat, rest) := takeScalars u rest
      let (challenge, _) := takeScalar rest
      octets = eHat ++ r1Hat ++ r3Hat ++ mHat.flatten ++ challenge ∧ mHat.length = u := by
  obtain ⟨⟨scalars, many, taken⟩, left⟩ := takeScalars_length (u + 1 + 3) octets whole.ge
  have none : (takeScalars (u + 1 + 3) octets).2 = [] :=
    List.length_eq_zero_iff.mp (by omega)
  have join := takeScalars_join (u + 1 + 3) octets
  have count : (takeScalars (u + 1 + 3) octets).1.length = u + 1 + 3 := by
    rw [taken, List.length_map, many]
  rw [none, List.append_nil] at join
  let rest := (takeScalar (takeScalar (takeScalar octets).2).2).2
  have fields
      : (takeScalars (u + 1 + 3) octets).1
        = (takeScalar octets).1 :: (takeScalar (takeScalar octets).2).1
          :: (takeScalar (takeScalar (takeScalar octets).2).2).1
          :: (takeScalars (u + 1) rest).1 :=
    rfl
  rw [fields, takeScalars_snoc] at join count
  constructor
  · refine join.symm.trans ?_
    simp only [List.flatten_cons, List.flatten_append, List.flatten_nil, List.append_nil,
      List.append_assoc]
    rfl
  · have hidden : (takeScalars u rest).1.length = u := by
      simp only [List.length_cons, List.length_append, List.length_nil] at count
      omega
    exact hidden

/-- The octets of a proof, put together again. -/
structure Recompresses (writer : G1Writer) (octets : Bytes) (proof : SorobanProof) : Prop where
  points
    : ∃ abar bbar d,
        compressG1 writer proof.abar = .ok abar
        ∧ compressG1 writer proof.bbar = .ok bbar
        ∧ compressG1 writer proof.d = .ok d
        ∧ octets
          = abar ++ bbar ++ d ++ proof.eHat ++ proof.r1Hat ++ proof.r3Hat ++ proof.mHat.flatten
            ++ proof.challenge
  responses : proof.mHat.length = (octets.length - 272) / 32
  undisclosedCount : proof.undisclosedCount = proof.mHat.length

/-- Splitting drops nothing. Witness: the octets behind the points are exactly the scalars. -/
theorem splitProof_recompresses {curves : CurveLibrary} {writer : G1Writer}
    (inverse : WritesBack curves writer) {octets : Bytes} {proof : SorobanProof}
    (split : splitProof curves octets = .ok proof)
    : Recompresses writer octets proof := by
  obtain ⟨u, counted, split⟩ := bind_eq_ok.mp split
  obtain ⟨⟨abar, afterAbar⟩, first, split⟩ := bind_eq_ok.mp split
  obtain ⟨⟨bbar, afterBbar⟩, second, split⟩ := bind_eq_ok.mp split
  obtain ⟨⟨d, afterD⟩, third, split⟩ := bind_eq_ok.mp split
  obtain ⟨length, -⟩ := of_undisclosedCountFromProofBytes counted
  obtain ⟨-, abarLeft⟩ := takePoint_eq_ok first
  obtain ⟨-, bbarLeft⟩ := takePoint_eq_ok second
  obtain ⟨-, dLeft⟩ := takePoint_eq_ok third
  obtain ⟨abarOctets, abarBack, abarJoin⟩ := takePoint_recompressed inverse first
  obtain ⟨bbarOctets, bbarBack, bbarJoin⟩ := takePoint_recompressed inverse second
  obtain ⟨dOctets, dBack, dJoin⟩ := takePoint_recompressed inverse third
  obtain ⟨scalars, many⟩ := @takeScalars_fields u afterD (by omega)
  obtain rfl := Except.ok.inj split
  constructor
  · refine ⟨abarOctets, bbarOctets, dOctets, abarBack, bbarBack, dBack, ?_⟩
    rw [abarJoin, bbarJoin, dJoin]
    conv_lhs => rw [scalars]
    simp only [List.append_assoc]
  · rw [length]
    exact many.trans (by omega)
  · exact many.symm

-----------------------------------------------------------------------------------------
-- Lengths
-----------------------------------------------------------------------------------------

/-- A number of responses and the length of its proofs determine each other. -/
theorem expectedProofBytes_inverse {count : Number} {length : Nat}
    : expectedProofBytes count = .ok length
      ↔ ∃ u : Nat, count = u ∧ undisclosedCountFromProofBytes length = .ok u := by
  constructor
  · intro expected
    obtain ⟨natural, expected⟩ := failIf_bind_eq_ok.mp expected
    obtain ⟨_, bounded, expected⟩ := bind_eq_ok.mp expected
    cases expected
    obtain ⟨u, rfl⟩ := Int.eq_ofNat_of_zero_le (not_lt.mp natural)
    have known : u ≤ maxSchemaAttributes := not_lt.mp (failIf_eq_ok.mp bounded)
    have shape : 144 + scalarBytes * (4 + u) = 272 + 32 * u := by
      rw [scalarBytes]
      omega
    exact ⟨u, rfl, shape ▸ undisclosedCountFromProofBytes_eq_ok known⟩
  · rintro ⟨u, rfl, counted⟩
    obtain ⟨rfl, bounded⟩ := of_undisclosedCountFromProofBytes counted
    have shape : 144 + scalarBytes * (4 + u) = 272 + 32 * u := by
      rw [scalarBytes]
      omega
    refine failIf_bind_eq_ok.mpr ⟨not_lt.mpr (Int.natCast_nonneg u), ?_⟩
    refine bind_eq_ok.mpr ⟨(), failIf_eq_ok.mpr (not_lt.mpr bounded), ?_⟩
    exact congrArg Except.ok shape

/-- Chunks that fill the rest of an array are written one behind another, by induction on
them.
-/
theorem setChunks_eq_ok (front : Bytes) {blank : Bytes} {chunks : List Bytes}
    (fills : blank.length = chunks.flatten.length)
    : setChunks (front ++ blank) front.length chunks = .ok (front ++ chunks.flatten) := by
  induction chunks generalizing front blank with
  | nil =>
      obtain rfl := List.length_eq_zero_iff.mp fills
      rfl
  | cons chunk rest ih =>
      rw [List.flatten_cons, List.length_append] at fills
      have room : ¬ (front ++ blank).length < front.length + chunk.length := by
        rw [List.length_append]
        omega
      have start : (front ++ blank).take front.length = front := List.take_left
      have behind : (front ++ blank).drop (front.length + chunk.length)
          = blank.drop chunk.length := by
        rw [← List.drop_drop, List.drop_left]
      refine bind_eq_ok.mpr ⟨_, failIf_bind_eq_ok.mpr ⟨room, rfl⟩, ?_⟩
      have fits : (blank.drop chunk.length).length = rest.flatten.length := by
        rw [List.length_drop]
        omega
      have later := ih (front ++ chunk) fits
      rwa [start, behind, ← List.length_append, List.flatten_cons, ← List.append_assoc]

/-- The flat form is the three points and the scalars, one behind another. -/
theorem flattenSorobanProof_ofProof (proof : KycGate.BbsProof)
    : ∃ scalars,
        flattenSorobanProof (SorobanProof.ofProof proof)
          = .ok (proof.aBar.val ++ proof.bBar.val ++ proof.d.val ++ scalars)
        ∧ (proof.aBar.val ++ proof.bBar.val ++ proof.d.val ++ scalars).length
          = 288 + 32 * (4 + proof.mHat.length) := by
  let p := SorobanProof.ofProof proof
  let chunks := [p.abar, p.bbar, p.d, p.eHat, p.r1Hat, p.r3Hat] ++ p.mHat ++ [p.challenge]
  let scalars :=
    proof.eHat.val ++ proof.r1Hat.val ++ proof.r3Hat.val
      ++ (proof.mHat.map Subtype.val).flatten ++ proof.challenge.val
  have layout : chunks.flatten = proof.aBar.val ++ proof.bBar.val ++ proof.d.val ++ scalars := by
    simp [chunks, scalars, p, SorobanProof.ofProof]
  have count : chunks.flatten.length = 288 + 32 * (4 + proof.mHat.length) := by
    rw [layout]
    simp only [scalars, List.length_append, proof.aBar.property, proof.bBar.property,
      proof.d.property, proof.eHat.property, proof.r1Hat.property, proof.r3Hat.property,
      flatten_scalars_length, proof.challenge.property]
    omega
  rw [layout] at count
  refine ⟨scalars, ?_, count⟩
  rw [← layout]
  apply setChunks_eq_ok []
  rw [layout, count, List.length_replicate]
  rfl

-----------------------------------------------------------------------------------------
-- The contract's map
-----------------------------------------------------------------------------------------

/-- The value that a map holds under a symbol. -/
def fieldOf (name : Bytes) : ScVal → Option ScVal
  | .map entries => (entries.find? (fun entry => entry.1.toSymbol == some name)).map Prod.snd
  | _ => none

/-- The fields of a proof, each under its name in the contract's structure. -/
structure StoresFields (value : ScVal) (proof : SorobanProof) : Prop where
  aBar : fieldOf (ascii "a_bar") value = some (.bytes proof.abar)
  bBar : fieldOf (ascii "b_bar") value = some (.bytes proof.bbar)
  d : fieldOf (ascii "d") value = some (.bytes proof.d)
  eHat : fieldOf (ascii "e_hat") value = some (.bytes proof.eHat)
  r1Hat : fieldOf (ascii "r1_hat") value = some (.bytes proof.r1Hat)
  r3Hat : fieldOf (ascii "r3_hat") value = some (.bytes proof.r3Hat)
  mHat : fieldOf (ascii "m_hat") value = some (.vec (proof.mHat.map ScVal.bytes))
  challenge : fieldOf (ascii "challenge") value = some (.bytes proof.challenge)

/-- Sorting the map moves no field to another name. -/
theorem bbsProofScVal_stores (proof : SorobanProof)
    : ∃ value, bbsProofScVal proof = .ok value ∧ StoresFields value proof :=
  ⟨_, rfl, rfl, rfl, rfl, rfl, rfl, rfl, rfl, rfl⟩

-----------------------------------------------------------------------------------------
-- The whole conversion
-----------------------------------------------------------------------------------------

/-- What becomes of the octets of a proof. -/
structure Converts (writer : G1Writer) (octets : Bytes) (proof : SorobanProof) : Prop where
  recompressed : Recompresses writer octets proof
  points : proof.abar.length = 96 ∧ proof.bbar.length = 96 ∧ proof.d.length = 96
  flattened
    : ∃ scalars,
        flattenSorobanProof proof = .ok (proof.abar ++ proof.bbar ++ proof.d ++ scalars)
        ∧ (proof.abar ++ proof.bbar ++ proof.d ++ scalars).length
          = 288 + 32 * (4 + proof.undisclosedCount)
  stored
    : ∃ value sized,
        bbsProofScVal proof = .ok value
        ∧ StoresFields value proof
        ∧ KycGate.BbsProof.fromScVal value = some sized
        ∧ SorobanProof.ofProof sized = proof

/-- A proof that is split loses nothing: its octets can be put together again, its flat form
starts with the points, and the contract reads its fields as they are. The length of a proof and
its number of responses determine each other.
-/
theorem proof_wire_converts {curves : CurveLibrary} {writer : G1Writer}
    (inverse : WritesBack curves writer)
    : (∀ octets proof, splitProof curves octets = .ok proof → Converts writer octets proof)
      ∧ ∀ count length,
          expectedProofBytes count = .ok length
          ↔ ∃ u : Nat, count = u ∧ undisclosedCountFromProofBytes length = .ok u := by
  refine ⟨fun octets proof split => ?_, fun count length => expectedProofBytes_inverse⟩
  have recompressed := splitProof_recompresses inverse split
  obtain ⟨sized, rfl⟩ := exists_ofProof split
  obtain ⟨value, written, stores⟩ := bbsProofScVal_stores (SorobanProof.ofProof sized)
  refine {
    recompressed
    points := ⟨sized.aBar.property, sized.bBar.property, sized.d.property⟩
    flattened := flattenSorobanProof_ofProof sized
    stored := ⟨value, sized, written, stores, ?_, rfl⟩
  }
  cases (bbsProofScVal_ofProof sized).symm.trans written
  exact KycGate.BbsProof.fromScVal_toScVal sized

namespace Sample

/-- The curve library on the generator of the first group. -/
def generatorCurves : CurveLibrary where
  g1 compressed :=
    if compressed = g1Compress p1Uncompressed then
      some
        (⟨beNat (p1Uncompressed.val.take 48), by decide +kernel⟩,
          ⟨beNat (p1Uncompressed.val.drop 48), by decide +kernel⟩)
    else
      none
  g2 _ := none

def generatorWriter : G1Writer := fun x y =>
  some
    (g1Compress
      ⟨beBytes 48 x ++ beBytes 48 y, by rw [List.length_append, beBytes_length, beBytes_length]⟩)

theorem generator_writesBack : WritesBack generatorCurves generatorWriter := by
  constructor
  intro compressed x y parsed
  unfold generatorCurves at parsed
  dsimp only at parsed
  split at parsed
  case isTrue same =>
    cases parsed
    rw [same]
    decide +kernel
  case isFalse => cases parsed

/-- Three times the generator, three scalars, one response and the challenge. -/
def generatorOctets : Bytes :=
  let point := g1Compress p1Uncompressed
  point ++ point ++ point ++ (List.range 5).flatMap (beBytes 32)

end Sample

theorem proof_wire_converts_generator
    : ∃ proof,
        splitProof Sample.generatorCurves Sample.generatorOctets = .ok proof
        ∧ Converts Sample.generatorWriter Sample.generatorOctets proof := by
  have accepted
      : (splitProof Sample.generatorCurves Sample.generatorOctets).toOption.isSome = true := by
    decide +kernel
  cases split : splitProof Sample.generatorCurves Sample.generatorOctets with
  | error failure =>
      rw [split] at accepted
      cases accepted
  | ok proof =>
      exact ⟨proof, rfl, (proof_wire_converts Sample.generator_writesBack).1 _ _ split⟩

end StellarOnramp.Sdk
