import StellarOnramp.Identity.Schema
import StellarOnramp.KycGate.Contract

/-! From the octets of a BBS proof, with compressed points, to the uncompressed form that
the gate receives.
-/

namespace StellarOnramp.Identity

open Attempts JsText Octets
open StellarOnramp.KycGate (BbsProof)

def g1CompressedBytes : Nat := 48
def g1UncompressedBytes : Nat := 96
def g2CompressedBytes : Nat := 96
def scalarBytes : Nat := 32
def fpBytes : Nat := 48

/-- The modulus of the base field. -/
def fieldModulus : Nat :=
  0x1a0111ea397fe69a4b1ba7b6434bacd764774b84f38512bf6730d2a0f6b0f6241eabfffeb153ffffb9feffffffffaaab

abbrev Fp := Fin fieldModulus

structure Fp2 where
  c0 : Fp
  c1 : Fp

/-- The curve library: the affine coordinates of a compressed point, `none` where parsing or
the validity check throws.
-/
structure CurveLibrary where
  g1 : Bytes → Option (Fp × Fp)
  g2 : Bytes → Option (Fp2 × Fp2)

def pointFailure (message : JsString) : Failure :=
  { kind := .point, message }

def fpToBe (x : Nat) : Attempt Bytes :=
  if x < 256 ^ fpBytes then
    .ok (beBytes fpBytes x)
  else
    .error (pointFailure (js "Fp coordinate exceeds 48 bytes"))

/-- `be(X) ‖ be(Y)`. -/
def decompressG1 (curves : CurveLibrary) (compressed : Bytes) : Attempt Bytes := do
  failIf (compressed.length ≠ g1CompressedBytes)
    (pointFailure (js "G1 compressed point must be 48 bytes"))
  match curves.g1 compressed with
  | none => .error libraryFailure
  | some (x, y) => do
      let x ← fpToBe x.val
      let y ← fpToBe y.val
      .ok (x ++ y)

/-- `be(X_c1) ‖ be(X_c0) ‖ be(Y_c1) ‖ be(Y_c0)`. -/
def decompressG2 (curves : CurveLibrary) (compressed : Bytes) : Attempt Bytes := do
  failIf (compressed.length ≠ g2CompressedBytes)
    (pointFailure (js "G2 compressed point must be 96 bytes"))
  match curves.g2 compressed with
  | none => .error libraryFailure
  | some (x, y) => do
      let xC1 ← fpToBe x.c1.val
      let xC0 ← fpToBe x.c0.val
      let yC1 ← fpToBe y.c1.val
      let yC0 ← fpToBe y.c0.val
      .ok (xC1 ++ xC0 ++ yC1 ++ yC0)

def beToBigint (bytes : Bytes) : Nat :=
  bytes.foldl (fun v b => v <<< 8 ||| b.toNat) 0

/-- The curve library's writer: the compressed form of affine coordinates, `none` where it
throws.
-/
abbrev G1Writer := Nat → Nat → Option Bytes

/-- The inverse of `decompressG1`. -/
def compressG1 (writer : G1Writer) (uncompressed : Bytes) : Attempt Bytes := do
  failIf (uncompressed.length ≠ g1UncompressedBytes)
    (pointFailure (js "G1 uncompressed point must be 96 bytes"))
  let x := beToBigint (uncompressed.take fpBytes)
  let y := beToBigint (uncompressed.drop fpBytes)
  throwing (writer x y)

/-- The modulus has 381 bits. -/
theorem fieldModulus_lt : fieldModulus < 2 ^ 381 := by
  decide +kernel

/-- A field element fits its 48 octets. -/
theorem Fp.val_lt (x : Fp) : x.val < 256 ^ fpBytes := by
  have width : 2 ^ 381 ≤ 256 ^ fpBytes := by decide +kernel
  exact (x.isLt.trans fieldModulus_lt).trans_le width

theorem fpToBe_fp (x : Fp) : fpToBe x.val = .ok (beBytes 48 x.val) :=
  if_pos (Fp.val_lt x)

/-- The top three bits of a written field element are clear: a number of 381 bits leaves five
bits for its first octet.
-/
theorem fpToBe_flags (x : Fp) : (beBytes 48 x.val).headD 0 &&& 0xE0 = 0 := by
  have table : ∀ octet : Fin 32, UInt8.ofNat octet.val &&& 0xE0 = 0 := by decide
  have top : x.val / 256 ^ 47 < 32 := by
    have width : 2 ^ 381 = 256 ^ 47 * 32 := by decide +kernel
    exact Nat.div_lt_of_lt_mul (width ▸ x.isLt.trans fieldModulus_lt)
  rw [beBytes_succ, List.headD_cons]
  exact table ⟨x.val / 256 ^ 47, top⟩

/-- An uncompressed key has 192 octets, and no flag bit is set in the first. -/
theorem decompressG2_eq_ok {curves : CurveLibrary} {compressed key : Bytes}
    (decompressed : decompressG2 curves compressed = .ok key)
    : key.length = 192 ∧ key.headD 0 &&& 0xE0 = 0 := by
  obtain ⟨-, decompressed⟩ := failIf_bind_eq_ok.mp decompressed
  split at decompressed
  case h_1 => cases decompressed
  case h_2 x y parsed =>
    simp only [fpToBe_fp, bind, Except.bind, Except.ok.injEq] at decompressed
    subst decompressed
    constructor
    · simp
    · rw [List.append_assoc, List.append_assoc, beBytes_succ, List.cons_append,
        List.headD_cons]
      have flags := fpToBe_flags x.c1
      rwa [beBytes_succ, List.headD_cons] at flags

-----------------------------------------------------------------------------------------
-- Proofs
-----------------------------------------------------------------------------------------

def signatureBytes : Nat := g1CompressedBytes + scalarBytes

def assertUndisclosedCountInRange (u : Nat) (what : JsString) : Attempt Unit :=
  failIf (u > maxSchemaAttributes)
    (pointFailure
      (what ++ js ": U=" ++ numberText u ++ js " exceeds MAX_SCHEMA_ATTRIBUTES 39. "
        ++ js "A schema that large costs more than 100M instructions to verify on chain, so no "
        ++ js "proof over it can be attested."))

/-- The octets of a proof with `undisclosedCount` hidden messages. -/
def expectedProofBytes (undisclosedCount : Number) : Attempt Nat := do
  failIf (undisclosedCount < 0)
    (pointFailure (js "undisclosedCount must be a non-negative integer"))
  assertUndisclosedCountInRange undisclosedCount.toNat (js "expectedProofBytes")
  .ok (144 + scalarBytes * (4 + undisclosedCount.toNat))

/-- The number of hidden messages that the length of a proof implies. -/
def undisclosedCountFromProofBytes (length : Nat) : Attempt Nat := do
  let floor := 3 * g1CompressedBytes + 4 * scalarBytes
  failIf (length < floor ∨ (length - floor) % scalarBytes ≠ 0)
    (pointFailure (js "invalid BBS+ proof length " ++ numberText length))
  let u := (length - floor) / scalarBytes
  assertUndisclosedCountInRange u (js "invalid BBS+ proof length " ++ numberText length)
  .ok u

/-- A proof, decomposed and decompressed. -/
structure SorobanProof where
  abar : Bytes
  bbar : Bytes
  d : Bytes
  eHat : Bytes
  r1Hat : Bytes
  r3Hat : Bytes
  /-- In ascending hidden-index order. -/
  mHat : List Bytes
  challenge : Bytes
  undisclosedCount : Nat
  deriving DecidableEq

/-- Decompress the point at the cursor and advance. -/
def takePoint (curves : CurveLibrary) (rest : Bytes) : Attempt (Bytes × Bytes) := do
  let point ← decompressG1 curves (rest.take g1CompressedBytes)
  .ok (point, rest.drop g1CompressedBytes)

def takeScalar (rest : Bytes) : Bytes × Bytes :=
  (rest.take scalarBytes, rest.drop scalarBytes)

def takeScalars : Nat → Bytes → List Bytes × Bytes
  | 0, rest => ([], rest)
  | count + 1, rest =>
      let (scalar, rest) := takeScalar rest
      let (scalars, rest) := takeScalars count rest
      (scalar :: scalars, rest)

/-- The challenge is last, after the responses of the hidden messages. -/
def splitProof (curves : CurveLibrary) (proof : Bytes) : Attempt SorobanProof := do
  let u ← undisclosedCountFromProofBytes proof.length
  let (abar, rest) ← takePoint curves proof
  let (bbar, rest) ← takePoint curves rest
  let (d, rest) ← takePoint curves rest
  let (eHat, rest) := takeScalar rest
  let (r1Hat, rest) := takeScalar rest
  let (r3Hat, rest) := takeScalar rest
  let (mHat, rest) := takeScalars u rest
  let (challenge, _) := takeScalar rest
  .ok { abar, bbar, d, eHat, r1Hat, r3Hat, mHat, challenge, undisclosedCount := u }

/-- `Uint8Array.set`, which throws when the chunk does not fit. -/
def setChunk (out : Bytes) (off : Nat) (chunk : Bytes) : Attempt Bytes := do
  failIf (out.length < off + chunk.length) libraryFailure
  .ok (out.take off ++ chunk ++ out.drop (off + chunk.length))

/-- Write the chunks one behind another. -/
def setChunks (out : Bytes) (off : Nat) : List Bytes → Attempt Bytes
  | [] => .ok out
  | chunk :: rest => do
      let out ← setChunk out off chunk
      setChunks out (off + chunk.length) rest

/-- The three points uncompressed, then the scalars in wire order. -/
def flattenSorobanProof (p : SorobanProof) : Attempt Bytes :=
  let out :=
    List.replicate (3 * g1UncompressedBytes + scalarBytes * (4 + p.undisclosedCount)) 0
  setChunks out 0 ([p.abar, p.bbar, p.d, p.eHat, p.r1Hat, p.r3Hat] ++ p.mHat ++ [p.challenge])

-----------------------------------------------------------------------------------------
-- The octet layout of a proof
-----------------------------------------------------------------------------------------

/-- A compressed point and its uncompressed form. -/
structure Decompresses (curves : CurveLibrary) (compressed : BytesN 48)
    (uncompressed : BytesN 96)
    : Prop where
  coordinates
    : ∃ x y,
        curves.g1 compressed.val = some (x, y)
        ∧ uncompressed.val = beBytes 48 x.val ++ beBytes 48 y.val

/-- The layout that the BBS ciphersuite gives a proof: three compressed points, then the
scalars with the challenge last.
-/
structure IsWireForm (curves : CurveLibrary) (octets : Bytes) (proof : BbsProof) : Prop where
  layout
    : ∃ abar bbar d : BytesN 48,
        Decompresses curves abar proof.aBar
        ∧ Decompresses curves bbar proof.bBar
        ∧ Decompresses curves d proof.d
        ∧ octets
          = abar.val ++ bbar.val ++ d.val ++ proof.eHat.val ++ proof.r1Hat.val
            ++ proof.r3Hat.val ++ (proof.mHat.map Subtype.val).flatten ++ proof.challenge.val

/-- The split form of a proof. -/
def SorobanProof.ofProof (proof : BbsProof) : SorobanProof :=
  {
    abar := proof.aBar.val
    bbar := proof.bBar.val
    d := proof.d.val
    eHat := proof.eHat.val
    r1Hat := proof.r1Hat.val
    r3Hat := proof.r3Hat.val
    mHat := proof.mHat.map Subtype.val
    challenge := proof.challenge.val
    undisclosedCount := proof.mHat.length
  }

theorem decompressG1_eq_ok {curves : CurveLibrary} {compressed : BytesN 48}
    {uncompressed : BytesN 96} (decompresses : Decompresses curves compressed uncompressed)
    : decompressG1 curves compressed.val = .ok uncompressed.val := by
  obtain ⟨x, y, parsed, written⟩ := decompresses.coordinates
  refine failIf_bind_eq_ok.mpr ⟨not_not.mpr compressed.property, ?_⟩
  simp only [parsed, fpToBe_fp, written]
  rfl

/-- The cursor takes a compressed point off the front. -/
theorem takePoint_append {curves : CurveLibrary} {compressed : BytesN 48}
    {uncompressed : BytesN 96} (decompresses : Decompresses curves compressed uncompressed)
    (rest : Bytes)
    : takePoint curves (compressed.val ++ rest) = .ok (uncompressed.val, rest) := by
  have front : (compressed.val ++ rest).take g1CompressedBytes = compressed.val :=
    List.take_left' compressed.property
  have back : (compressed.val ++ rest).drop g1CompressedBytes = rest :=
    List.drop_left' compressed.property
  rw [takePoint, front, back, decompressG1_eq_ok decompresses]
  rfl

theorem takeScalar_append (scalar : BytesN 32) (rest : Bytes)
    : takeScalar (scalar.val ++ rest) = (scalar.val, rest) :=
  Prod.ext (List.take_left' scalar.property) (List.drop_left' scalar.property)

/-- The cursor takes a list of scalars off the front, by list induction. -/
theorem takeScalars_append (scalars : List (BytesN 32)) (rest : Bytes)
    : takeScalars scalars.length ((scalars.map Subtype.val).flatten ++ rest)
      = (scalars.map Subtype.val, rest) := by
  induction scalars with
  | nil => rfl
  | cons scalar scalars ih =>
      rw [List.length_cons, List.map_cons, List.flatten_cons, List.append_assoc, takeScalars]
      simp only [takeScalar_append, ih]

theorem flatten_scalars_length (scalars : List (BytesN 32))
    : (scalars.map Subtype.val).flatten.length = 32 * scalars.length := by
  induction scalars with
  | nil => rfl
  | cons scalar scalars ih =>
      rw [List.map_cons, List.flatten_cons, List.length_append, ih, scalar.property,
        List.length_cons]
      omega

/-- The length of a proof in the wire layout. -/
theorem IsWireForm.length {curves : CurveLibrary} {octets : Bytes} {proof : BbsProof}
    (form : IsWireForm curves octets proof)
    : octets.length = 272 + 32 * proof.mHat.length := by
  obtain ⟨abar, bbar, d, -, -, -, rfl⟩ := form.layout
  simp only [List.length_append, abar.property, bbar.property, d.property,
    proof.eHat.property, proof.r1Hat.property, proof.r3Hat.property, flatten_scalars_length,
    proof.challenge.property]
  omega

theorem undisclosedCountFromProofBytes_eq_ok {u : Nat} (bounded : u ≤ maxSchemaAttributes)
    : undisclosedCountFromProofBytes (272 + 32 * u) = .ok u := by
  have count : (272 + 32 * u - 272) / 32 = u := by omega
  refine failIf_bind_eq_ok.mpr ⟨?_, ?_⟩
  · change ¬ (272 + 32 * u < 272 ∨ (272 + 32 * u - 272) % 32 ≠ 0)
    omega
  · change (assertUndisclosedCountInRange ((272 + 32 * u - 272) / 32) _ >>= fun _ =>
      Except.ok ((272 + 32 * u - 272) / 32)) = _
    rw [count]
    exact failIf_bind_eq_ok.mpr ⟨Nat.not_lt.mpr bounded, rfl⟩

/-- Splitting reads the wire layout back field by field. Witness: the cursor takes each
field off the front.
-/
theorem splitProof_eq_ok {curves : CurveLibrary} {octets : Bytes} {proof : BbsProof}
    (form : IsWireForm curves octets proof)
    (bounded : proof.mHat.length ≤ maxSchemaAttributes)
    : splitProof curves octets = .ok (SorobanProof.ofProof proof) := by
  have length := form.length
  obtain ⟨abar, bbar, d, first, second, third, layout⟩ := form.layout
  rw [splitProof, length, undisclosedCountFromProofBytes_eq_ok bounded, layout]
  simp only [List.append_assoc]
  refine bind_eq_ok.mpr ⟨_, rfl, ?_⟩
  refine bind_eq_ok.mpr ⟨_, takePoint_append first _, ?_⟩
  refine bind_eq_ok.mpr ⟨_, takePoint_append second _, ?_⟩
  refine bind_eq_ok.mpr ⟨_, takePoint_append third _, ?_⟩
  have last : takeScalar proof.challenge.val = (proof.challenge.val, []) := by
    rw [← takeScalar_append, List.append_nil]
  simp only [takeScalar_append, takeScalars_append, last]
  rfl

-----------------------------------------------------------------------------------------
-- What splitting answers
-----------------------------------------------------------------------------------------

/-- The cursor moves over the compressed point that it decompressed. -/
theorem takePoint_eq_ok {curves : CurveLibrary} {octets point rest : Bytes}
    (taken : takePoint curves octets = .ok (point, rest))
    : point.length = 96 ∧ rest.length + 48 = octets.length := by
  rcases bind_eq_ok.mp taken with ⟨uncompressed, decompressed, taken⟩
  cases taken
  rcases failIf_bind_eq_ok.mp decompressed with ⟨sized, decompressed⟩
  constructor
  · split at decompressed
    case h_1 => cases decompressed
    case h_2 x y parsed =>
      simp only [fpToBe_fp, bind, Except.bind, Except.ok.injEq] at decompressed
      simp [← decompressed]
  · have enough := not_not.mp sized
    simp only [List.length_take, List.length_drop, g1CompressedBytes] at enough ⊢
    omega

theorem takeScalar_length (octets : Bytes) (enough : 32 ≤ octets.length)
    : (takeScalar octets).1.length = 32
      ∧ (takeScalar octets).2.length + 32 = octets.length := by
  simp only [takeScalar, scalarBytes, List.length_take, List.length_drop]
  omega

/-- Every scalar is full when the octets are enough for all of them, by induction on the
count.
-/
theorem takeScalars_length (count : Nat) (octets : Bytes)
    (enough : 32 * count ≤ octets.length)
    : (∃ scalars : List (BytesN 32),
          scalars.length = count ∧ (takeScalars count octets).1 = scalars.map Subtype.val)
      ∧ (takeScalars count octets).2.length + 32 * count = octets.length := by
  induction count generalizing octets with
  | zero => exact ⟨⟨[], rfl, rfl⟩, rfl⟩
  | succ count ih =>
      obtain ⟨full, left⟩ := takeScalar_length octets (by omega)
      obtain ⟨⟨scalars, counted, taken⟩, later⟩ := ih (takeScalar octets).2 (by omega)
      constructor
      · refine ⟨⟨(takeScalar octets).1, full⟩ :: scalars, congrArg Nat.succ counted, ?_⟩
        rw [List.map_cons, ← taken]
        rfl
      · change (takeScalars count (takeScalar octets).2).2.length + 32 * (count + 1) = _
        omega

/-- The count that a length law answers. -/
theorem of_undisclosedCountFromProofBytes {length u : Nat}
    (counted : undisclosedCountFromProofBytes length = .ok u)
    : length = 272 + 32 * u ∧ u ≤ maxSchemaAttributes := by
  rcases failIf_bind_eq_ok.mp counted with ⟨whole, counted⟩
  rcases bind_eq_ok.mp counted with ⟨_, bounded, counted⟩
  cases counted
  refine ⟨?_, Nat.not_lt.mp (failIf_eq_ok.mp bounded)⟩
  simp only [g1CompressedBytes, scalarBytes] at whole ⊢
  omega

/-- The split form of a proof has the sizes that the gate declares. Witness: the length law
leaves the cursor enough octets for each field.
-/
theorem exists_ofProof {curves : CurveLibrary} {octets : Bytes} {proof : SorobanProof}
    (split : splitProof curves octets = .ok proof)
    : ∃ sized : BbsProof, proof = SorobanProof.ofProof sized := by
  rcases bind_eq_ok.mp split with ⟨u, counted, split⟩
  rcases bind_eq_ok.mp split with ⟨⟨abar, afterAbar⟩, first, split⟩
  rcases bind_eq_ok.mp split with ⟨⟨bbar, afterBbar⟩, second, split⟩
  rcases bind_eq_ok.mp split with ⟨⟨d, afterD⟩, third, split⟩
  obtain ⟨length, -⟩ := of_undisclosedCountFromProofBytes counted
  obtain ⟨abarSized, abarLeft⟩ := takePoint_eq_ok first
  obtain ⟨bbarSized, bbarLeft⟩ := takePoint_eq_ok second
  obtain ⟨dSized, dLeft⟩ := takePoint_eq_ok third
  obtain ⟨eHatSized, eHatLeft⟩ := takeScalar_length afterD (by omega)
  obtain ⟨r1HatSized, r1HatLeft⟩ :=
    takeScalar_length (takeScalar afterD).2 (by omega)
  obtain ⟨r3HatSized, r3HatLeft⟩ :=
    takeScalar_length (takeScalar (takeScalar afterD).2).2 (by omega)
  obtain ⟨⟨mHat, responses, mHatSized⟩, mHatLeft⟩ :=
    takeScalars_length u (takeScalar (takeScalar (takeScalar afterD).2).2).2 (by omega)
  obtain ⟨challengeSized, -⟩ :=
    takeScalar_length (takeScalars u (takeScalar (takeScalar (takeScalar afterD).2).2).2).2
      (by omega)
  refine ⟨{
    aBar := ⟨abar, abarSized⟩
    bBar := ⟨bbar, bbarSized⟩
    d := ⟨d, dSized⟩
    eHat := ⟨_, eHatSized⟩
    r1Hat := ⟨_, r1HatSized⟩
    r3Hat := ⟨_, r3HatSized⟩
    mHat
    challenge := ⟨_, challengeSized⟩
  }, ?_⟩
  rw [SorobanProof.ofProof, ← mHatSized, responses]
  exact (Except.ok.inj split).symm

/-- The octets of a proof determine its wire form. -/
theorem ofProof_injective : Function.Injective SorobanProof.ofProof := by
  intro left right same
  simp only [SorobanProof.ofProof, SorobanProof.mk.injEq] at same
  obtain ⟨aBar, bBar, d, eHat, r1Hat, r3Hat, mHat, challenge, -⟩ := same
  cases left
  cases right
  simp only [KycGate.BbsProof.mk.injEq]
  exact ⟨Subtype.ext aBar, Subtype.ext bBar, Subtype.ext d, Subtype.ext eHat,
    Subtype.ext r1Hat, Subtype.ext r3Hat, Subtype.val_injective.list_map mHat,
    Subtype.ext challenge⟩

/-- A proof in the layout of the ciphersuite is the one that splitting reads. -/
theorem IsWireForm.eq_of_split {curves : CurveLibrary} {octets : Bytes}
    {proof other : BbsProof}
    (form : IsWireForm curves octets proof)
    (split : splitProof curves octets = .ok (SorobanProof.ofProof other))
    : other = proof := by
  rcases bind_eq_ok.mp split with ⟨u, counted, -⟩
  obtain ⟨length, bounded⟩ := of_undisclosedCountFromProofBytes counted
  rw [form.length] at length
  have hidden : proof.mHat.length = u := by omega
  have same := (splitProof_eq_ok form (hidden ▸ bounded)).symm.trans split
  exact (ofProof_injective (Except.ok.inj same)).symm

end StellarOnramp.Identity
