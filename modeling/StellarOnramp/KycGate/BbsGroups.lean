import StellarOnramp.KycGate.Bbs
import StellarOnramp.Library.Attempts
import StellarOnramp.Library.BbsScheme
import Mathlib.Data.List.Forall2

/-! The verifier over a host whose curve functions are the operations of three groups with a
pairing. The recomputed commitments are then the two equations of the abstract scheme, and
an accepted proof is a transcript of it.
-/

namespace StellarOnramp.KycGate.Bbs

open Attempts Octets ScalarField BbsScheme
open StellarOnramp.Soroban

-----------------------------------------------------------------------------------------
-- The groups behind the host
-----------------------------------------------------------------------------------------

/-- Encodings that decode to a list of points, one by one. -/
abbrev Decodes {Encoding Point : Type} (decode : Encoding → Option Point) :=
  List.Forall₂ (fun encoding point => decode encoding = some point)

/-- The decoded points of a list of encodings are unique. -/
theorem Decodes.unique {Encoding Point : Type} {decode : Encoding → Option Point}
    {encodings : List Encoding} {left right : List Point}
    (decodedLeft : Decodes decode encodings left)
    (decodedRight : Decodes decode encodings right)
    : left = right :=
  List.right_unique_forall₂'
    (fun _ _ _ first second => Option.some.inj (first.symm.trans second))
    decodedLeft decodedRight

/-- The documented meaning of the host's curve functions over groups of the scalar order,
written as vector spaces over the scalars: valid encodings stand for points, the identity
included, and an invalid encoding or an empty or unequal pair of lists traps.
-/
structure Realisation (host : Host) (G1 G2 GT : Type) [AddCommGroup G1] [AddCommGroup G2]
    [AddCommGroup GT] [Module Fr G1] [Module Fr G2] [Module Fr GT] where
  decodeG1 : BytesN 96 → Option G1
  encodeG1 : G1 → BytesN 96
  decodeG2 : BytesN 192 → Option G2
  pairing : G1 →ₗ[Fr] G2 →ₗ[Fr] GT
  p1 : G1
  p2 : G2
  decode_encode : ∀ point, decodeG1 (encodeG1 point) = some point
  decode_p1 : decodeG1 p1Uncompressed = some p1
  decode_p2 : decodeG2 p2Uncompressed = some p2
  hashToG1_valid : ∀ msg dst, (decodeG1 (host.hashToG1 msg dst)).isSome
  negG2_eq
    : ∀ {encoding point},
        decodeG2 encoding = some point → decodeG2 (host.negG2 encoding) = some (-point)
  g1Msm_ok
    : ∀ {points scalars sum},
        host.g1Msm points scalars = .ok sum
        ↔ points ≠ []
          ∧ points.length = scalars.length
          ∧ ∃ decoded,
              Decodes decodeG1 points decoded
              ∧ sum
                = encodeG1 (List.zipWith (fun scalar point => scalar • point) scalars decoded).sum
  pairingCheck_ok
    : ∀ {vp1 vp2},
        host.pairingCheck vp1 vp2 = .ok true
        ↔ vp1 ≠ []
          ∧ vp1.length = vp2.length
          ∧ ∃ left right,
              Decodes decodeG1 vp1 left
              ∧ Decodes decodeG2 vp2 right
              ∧ (List.zipWith (fun p q => pairing p q) left right).sum = 0
  nondegenerate : ∀ {point}, pairing point p2 = 0 → point = 0

-----------------------------------------------------------------------------------------
-- Indexed scalars as vectors
-----------------------------------------------------------------------------------------

/-- The scalars at each schema index, added up. -/
def scalarVector : List (UInt32 × Fr) → Fin 12 → Fr
  | [] => 0
  | (index, scalar) :: rest =>
      (fun i => if index.toNat = i.val then scalar else 0) + scalarVector rest

theorem scalarVector_of_not_mem {scalars : List (UInt32 × Fr)} {i : Fin 12}
    (absent : ∀ pair ∈ scalars, pair.1.toNat ≠ i.val)
    : scalarVector scalars i = 0 := by
  induction scalars with
  | nil => rfl
  | cons pair rest ih =>
      have other := absent pair List.mem_cons_self
      have later := ih (fun pair member => absent pair (List.mem_cons_of_mem _ member))
      simp [scalarVector, other, later]

theorem scalarVector_of_zero {scalars : List (UInt32 × Fr)}
    (zero : ∀ pair ∈ scalars, pair.2 = 0)
    : scalarVector scalars = 0 := by
  induction scalars with
  | nil => rfl
  | cons pair rest ih =>
      have later := ih (fun pair member => zero pair (List.mem_cons_of_mem _ member))
      simp only [scalarVector, zero pair List.mem_cons_self, ite_self, later, add_zero]
      rfl

/-- A scalar whose index occurs once is the vector's entry there, by list induction. -/
theorem scalarVector_of_mem {scalars : List (UInt32 × Fr)} {index : UInt32} {scalar : Fr}
    {i : Fin 12} (distinct : (scalars.map Prod.fst).Nodup) (here : index.toNat = i.val)
    (member : (index, scalar) ∈ scalars)
    : scalarVector scalars i = scalar := by
  induction scalars with
  | nil => cases member
  | cons pair rest ih =>
      rw [List.map_cons, List.nodup_cons] at distinct
      rcases List.mem_cons.mp member with rfl | member
      · have absent : scalarVector rest i = 0 := by
          refine scalarVector_of_not_mem fun other member same => distinct.1 ?_
          exact List.mem_map.mpr
            ⟨other, member, UInt32.toNat_inj.mp (same.trans here.symm)⟩
        simp [scalarVector, here, absent]
      · have other : pair.1.toNat ≠ i.val := by
          intro same
          refine distinct.1 (List.mem_map.mpr ⟨(index, scalar), member, ?_⟩)
          exact UInt32.toNat_inj.mp (here.trans same.symm)
        simp [scalarVector, other, ih distinct.2 member]

/-- Combining generators along a list is combining them along its vector, by list
induction.
-/
theorem combine_scalarVector {G1 : Type} [AddCommGroup G1] [Module Fr G1]
    (params : Params Fr G1 (Fin 12)) (generator : Nat → G1)
    (same : ∀ i : Fin 12, params.h i = generator (i.val + 1)) (scalars : List (UInt32 × Fr))
    (inRange : ∀ pair ∈ scalars, pair.1.toNat < 12)
    : params.combine (scalarVector scalars)
      = (scalars.map (fun pair => pair.2 • generator (pair.1.toNat + 1))).sum := by
  induction scalars with
  | nil => exact params.combine_zero
  | cons pair rest ih =>
      have bound := inRange pair List.mem_cons_self
      have single
          : params.combine (fun i => if pair.1.toNat = i.val then pair.2 else 0)
            = pair.2 • generator (pair.1.toNat + 1) := by
        rw [Params.combine, Finset.sum_eq_single (⟨pair.1.toNat, bound⟩ : Fin 12)]
        · simp [same]
        · intro i _ other
          rw [if_neg (fun here => other (Fin.ext here.symm)), zero_smul]
        · simp
      rw [scalarVector, params.combine_add, single,
        ih (fun pair member => inRange pair (List.mem_cons_of_mem _ member)),
        List.map_cons, List.sum_cons]

-----------------------------------------------------------------------------------------
-- Generators
-----------------------------------------------------------------------------------------

/-- Every generator is a hash to the curve, by induction on the counters. -/
theorem hashed_of_mem_generatorsFrom {host : Host} {v : Bytes} {counters : List Nat}
    {generator : BytesN 96} (member : generator ∈ generatorsFrom host v counters)
    : ∃ msg, generator = host.hashToG1 msg generatorDst := by
  induction counters generalizing v with
  | nil => cases member
  | cons counter rest ih =>
      rcases List.mem_cons.mp member with here | later
      · exact ⟨_, here⟩
      · exact ih later

theorem generatorsFrom_length (host : Host) (v : Bytes) (counters : List Nat)
    : (generatorsFrom host v counters).length = counters.length := by
  induction counters generalizing v with
  | nil => rfl
  | cons counter rest ih => simp [generatorsFrom, ih]

@[simp]
theorem createGenerators_length (host : Host) : (createGenerators host).length = 13 := by
  simp [createGenerators, generatorsFrom_length, schemaMessageCount]

/-- Indexes in range are fetched, by list induction. -/
theorem exists_indexedPoints (host : Host) {scalars : List (UInt32 × Fr)}
    (inRange : ∀ pair ∈ scalars, pair.1.toNat < 12)
    : ∃ points, indexedPoints (createGenerators host) scalars = .ok points := by
  induction scalars with
  | nil => exact ⟨[], rfl⟩
  | cons pair rest ih =>
      obtain ⟨later, fetchedLater⟩ :=
        ih (fun other member => inRange other (List.mem_cons_of_mem _ member))
      have bound : pair.1.toNat + 1 < (createGenerators host).length := by
        have := inRange pair List.mem_cons_self
        rw [createGenerators_length]
        omega
      refine ⟨(createGenerators host)[pair.1.toNat + 1] :: later, ?_⟩
      rw [indexedPoints, List.mapM_cons]
      refine bind_eq_ok.mpr ⟨_, ?_, bind_eq_ok.mpr ⟨_, fetchedLater, rfl⟩⟩
      simp only [List.getElem?_eq_getElem bound]

-----------------------------------------------------------------------------------------
-- Transcripts
-----------------------------------------------------------------------------------------

/-- Responses are paired with the remaining indexes that are not disclosed, by induction on
the remaining indexes.
-/
theorem mem_hiddenResponses {indexes remaining : List UInt32} {mHat : List Fr}
    {hidden : List (UInt32 × Fr)}
    (paired : hiddenResponses indexes remaining mHat = .ok hidden) {pair : UInt32 × Fr}
    (member : pair ∈ hidden)
    : pair.1 ∈ remaining ∧ pair.1 ∉ indexes ∧ pair.2 ∈ mHat := by
  induction remaining generalizing mHat hidden with
  | nil =>
      cases paired
      cases member
  | cons index rest ih =>
      unfold hiddenResponses at paired
      split at paired
      case isTrue =>
        obtain ⟨inside, other⟩ := ih paired member
        exact ⟨List.mem_cons_of_mem _ inside, other⟩
      case isFalse undisclosed =>
        cases mHat with
        | nil => cases paired
        | cons response mHat =>
            obtain ⟨later, pairedLater, paired⟩ := bind_eq_ok.mp paired
            cases paired
            rcases List.mem_cons.mp member with rfl | member
            · exact ⟨List.mem_cons_self, by simpa using undisclosed, List.mem_cons_self⟩
            · obtain ⟨inside, outside, given⟩ := ih pairedLater member
              exact ⟨List.mem_cons_of_mem _ inside, outside, List.mem_cons_of_mem _ given⟩

theorem schemaIndexes_lt {index : UInt32} (member : index ∈ schemaIndexes)
    : index.toNat < 12 := by
  obtain ⟨value, inside, rfl⟩ := List.mem_map.mp member
  have small : value < 12 := List.mem_range.mp inside
  rw [UInt32.toNat_ofNat']
  omega

/-- A response for every schema index is enough, by induction on the remaining indexes. -/
theorem exists_hiddenResponses (indexes : List UInt32) {remaining : List UInt32}
    {mHat : List Fr} (enough : remaining.length ≤ mHat.length)
    : ∃ hidden, hiddenResponses indexes remaining mHat = .ok hidden := by
  induction remaining generalizing mHat with
  | nil => exact ⟨[], rfl⟩
  | cons index rest ih =>
      rw [List.length_cons] at enough
      unfold hiddenResponses
      split
      case isTrue => exact ih (by omega)
      case isFalse =>
        cases mHat with
        | nil => simp at enough
        | cons response mHat =>
            obtain ⟨later, paired⟩ := ih (by simpa using enough)
            exact ⟨_, bind_eq_ok.mpr ⟨later, paired, rfl⟩⟩

/-- The indexed scalars of the disclosed messages. -/
def disclosedScalars (host : Host) (indexes : List UInt32) (messages : List Bytes)
    : List (UInt32 × Fr) :=
  indexes.zip (messagesToScalars host messages)

/-- The disclosed messages as a vector; a hidden message is `0`. -/
def shownVector (host : Host) (indexes : List UInt32) (messages : List Bytes) : Fin 12 → Fr :=
  scalarVector (disclosedScalars host indexes messages)

/-- The responses of the hidden messages as a vector; a disclosed message has none. -/
def responseVector (indexes : List UInt32) (mHat : List Fr) : Fin 12 → Fr :=
  match hiddenResponses indexes schemaIndexes mHat with
  | .ok hidden => scalarVector hidden
  | .error .trap => 0

/-- The scalars of a proof. -/
def responseOf (indexes : List UInt32) (proof : BbsProof) : Response Fr (Fin 12) :=
  {
    challenge := Fr.fromBytes proof.challenge.val
    eHat := Fr.fromBytes proof.eHat.val
    r1Hat := Fr.fromBytes proof.r1Hat.val
    r3Hat := Fr.fromBytes proof.r3Hat.val
    mHat := responseVector indexes (proof.mHat.map (fun response => Fr.fromBytes response.val))
  }

/-- A disclosed message has no response. -/
theorem responseVector_of_disclosed {indexes : List UInt32} {mHat : List Fr} {i : Fin 12}
    (disclosed : ∃ index ∈ indexes, index.toNat = i.val)
    : responseVector indexes mHat i = 0 := by
  obtain ⟨index, member, here⟩ := disclosed
  unfold responseVector
  cases paired : hiddenResponses indexes schemaIndexes mHat with
  | error failure => cases failure; rfl
  | ok hidden =>
      refine scalarVector_of_not_mem fun pair inside same => ?_
      have outside := (mem_hiddenResponses paired inside).2.1
      rw [UInt32.toNat_inj.mp (same.trans here.symm)] at outside
      exact outside member

/-- Responses that are all zero make the zero vector. -/
theorem responseVector_of_zero (indexes : List UInt32) {mHat : List Fr}
    (zero : ∀ response ∈ mHat, response = 0)
    : responseVector indexes mHat = 0 := by
  unfold responseVector
  cases paired : hiddenResponses indexes schemaIndexes mHat with
  | error failure => cases failure; rfl
  | ok hidden =>
      exact scalarVector_of_zero fun pair member =>
        zero pair.2 (mem_hiddenResponses paired member).2.2

namespace Realisation

variable {host : Host} {G1 G2 GT : Type} [AddCommGroup G1] [AddCommGroup G2]
  [AddCommGroup GT] [Module Fr G1] [Module Fr G2] [Module Fr GT]
  (groups : Realisation host G1 G2 GT)

/-- The point of the generator at a position of `create_generators`. -/
def generator (position : Nat) : G1 :=
  ((createGenerators host)[position]?.bind groups.decodeG1).getD 0

/-- The public points of the scheme, with the domain of a key and a header. -/
def params (pkUncompressed : BytesN 192) (header : Bytes) : Params Fr G1 (Fin 12) :=
  {
    p1 := groups.p1
    q1 := groups.generator 0
    h i := groups.generator (i.val + 1)
    domain := calculateDomain host pkUncompressed (createGenerators host) header
  }

/-- Every generator is a valid encoding of its point. -/
theorem decode_generator {position : Nat} {encoding : BytesN 96}
    (found : (createGenerators host)[position]? = some encoding)
    : groups.decodeG1 encoding = some (groups.generator position) := by
  obtain ⟨msg, rfl⟩ := hashed_of_mem_generatorsFrom (List.mem_of_getElem? found)
  obtain ⟨point, decoded⟩ := Option.isSome_iff_exists.mp (groups.hashToG1_valid msg generatorDst)
  simp [generator, found, decoded]

/-- The points fetched for indexed scalars are the generators at the indexes, all of which
are in range; by list induction.
-/
theorem decodes_indexedPoints {scalars : List (UInt32 × Fr)} {points : List (BytesN 96)}
    (fetched : indexedPoints (createGenerators host) scalars = .ok points)
    : (∀ pair ∈ scalars, pair.1.toNat < 12)
      ∧ Decodes groups.decodeG1 points
          (scalars.map (fun pair => groups.generator (pair.1.toNat + 1))) := by
  induction scalars generalizing points with
  | nil =>
      cases fetched
      exact ⟨by simp, .nil⟩
  | cons pair rest ih =>
      rw [indexedPoints, List.mapM_cons] at fetched
      obtain ⟨encoding, here, fetched⟩ := bind_eq_ok.mp fetched
      obtain ⟨later, fetchedLater, fetched⟩ := bind_eq_ok.mp fetched
      cases fetched
      cases found : (createGenerators host)[pair.1.toNat + 1]? with
      | none => simp [found] at here
      | some generator =>
          simp only [found, Except.ok.injEq] at here
          subst here
          obtain ⟨inRange, decoded⟩ := ih fetchedLater
          have bound := (List.getElem?_eq_some_iff.mp found).1
          rw [createGenerators_length] at bound
          refine ⟨?_, .cons (groups.decode_generator found) decoded⟩
          intro other member
          rcases List.mem_cons.mp member with rfl | member
          · omega
          · exact inRange other member

/-- A combination of two points and of indexed generators, as the verifier asks for it. -/
theorem g1Msm_cons_cons_iff (pkUncompressed : BytesN 192) (header : Bytes) (a b : Fr)
    {first second : BytesN 96} {p q : G1} {scalars : List (UInt32 × Fr)}
    {points : List (BytesN 96)} (sum : BytesN 96) (decodedFirst : groups.decodeG1 first = some p)
    (decodedSecond : groups.decodeG1 second = some q)
    (fetched : indexedPoints (createGenerators host) scalars = .ok points)
    : host.g1Msm (first :: second :: points) (a :: b :: scalars.map Prod.snd) = .ok sum
      ↔ sum
        = groups.encodeG1
            (a • p + b • q
              + (groups.params pkUncompressed header).combine (scalarVector scalars)) := by
  obtain ⟨inRange, decoded⟩ := groups.decodes_indexedPoints fetched
  have all
      : Decodes groups.decodeG1 (first :: second :: points)
          (p :: q :: scalars.map (fun pair => groups.generator (pair.1.toNat + 1))) :=
    .cons decodedFirst (.cons decodedSecond decoded)
  have sameLength := decoded.length_eq
  have value
      : (List.zipWith (fun scalar point => scalar • point) (a :: b :: scalars.map Prod.snd)
            (p :: q :: scalars.map (fun pair => groups.generator (pair.1.toNat + 1)))).sum
        = a • p + b • q
          + (groups.params pkUncompressed header).combine (scalarVector scalars) := by
    rw [combine_scalarVector _ groups.generator (fun _ => rfl) scalars inRange]
    simp [List.zipWith_map, List.zipWith_self, add_assoc]
  rw [groups.g1Msm_ok]
  constructor
  · rintro ⟨-, -, other, decodedOther, rfl⟩
    rw [← all.unique decodedOther, value]
  · rintro rfl
    refine ⟨by simp, by simpa using sameLength, _, all, by rw [value]⟩

/-- The point of an encoding; an invalid one counts as the identity. -/
def point (encoding : BytesN 96) : G1 :=
  (groups.decodeG1 encoding).getD 0

/-- The randomised signature of a proof. -/
def points (proof : BbsProof) : Points G1 :=
  {
    aBar := groups.point proof.aBar
    bBar := groups.point proof.bBar
    d := groups.point proof.d
  }

/-- The points of a proof decode. -/
structure Shows (proof : BbsProof) (points : Points G1) : Prop where
  aBar : groups.decodeG1 proof.aBar = some points.aBar
  bBar : groups.decodeG1 proof.bBar = some points.bBar
  d : groups.decodeG1 proof.d = some points.d

theorem Shows.eq_points {proof : BbsProof} {points : Points G1}
    (shows : groups.Shows proof points)
    : points = groups.points proof := by
  simp [Realisation.points, point, shows.aBar, shows.bBar, shows.d]

/-- The first recomputed commitment is the first equation of the scheme. -/
theorem recomputeT1_ok_iff {proof : BbsProof} {t1 : BytesN 96} (indexes : List UInt32)
    : recomputeT1 host proof = .ok t1
      ↔ ∃ points,
          groups.Shows proof points
          ∧ t1 = groups.encodeG1 (points.t1 (responseOf indexes proof)) := by
  rw [recomputeT1, groups.g1Msm_ok]
  constructor
  · rintro ⟨-, -, decoded, all, rfl⟩
    cases all with
    | cons bBar all =>
    cases all with
    | cons aBar all =>
    cases all with
    | cons d all =>
    cases all with
    | nil =>
    refine ⟨{ aBar := _, bBar := _, d := _ }, ⟨aBar, bBar, d⟩, ?_⟩
    simp [Points.t1, responseOf, add_assoc]
  · rintro ⟨points, shows, rfl⟩
    refine ⟨by simp, rfl, [points.bBar, points.aBar, points.d],
      .cons shows.bBar (.cons shows.aBar (.cons shows.d .nil)), ?_⟩
    simp [Points.t1, responseOf, add_assoc]

/-- The base of the disclosed messages is the base of the scheme, and its indexes are in
range.
-/
theorem disclosedBase_ok_iff {pkUncompressed : BytesN 192} {header : Bytes}
    {disclosed : List (UInt32 × Fr)} {bv : BytesN 96}
    : disclosedBase host (createGenerators host)
          (calculateDomain host pkUncompressed (createGenerators host) header) disclosed
        = .ok bv
      ↔ (∀ pair ∈ disclosed, pair.1.toNat < 12)
        ∧ bv
          = groups.encodeG1
              ((groups.params pkUncompressed header).base (scalarVector disclosed)) := by
  have bound : 0 < (createGenerators host).length := by simp
  obtain ⟨q1, rest, shape⟩ := List.exists_cons_of_length_pos bound
  have decodedQ1 : groups.decodeG1 q1 = some (groups.generator 0) :=
    groups.decode_generator (by rw [shape]; rfl)
  have unfolded
      : disclosedBase host (createGenerators host)
            (calculateDomain host pkUncompressed (createGenerators host) header) disclosed
          = (indexedPoints (createGenerators host) disclosed >>= fun points =>
            host.g1Msm (p1Uncompressed :: q1 :: points)
              (1
                :: calculateDomain host pkUncompressed (createGenerators host) header
                :: disclosed.map Prod.snd)) := by
    rw [shape]
    rfl
  have summed {points : List (BytesN 96)}
      (fetched : indexedPoints (createGenerators host) disclosed = .ok points) :=
    groups.g1Msm_cons_cons_iff pkUncompressed header 1
      (calculateDomain host pkUncompressed (createGenerators host) header) bv
      groups.decode_p1 decodedQ1 fetched
  rw [unfolded, bind_eq_ok]
  constructor
  · rintro ⟨points, fetched, added⟩
    refine ⟨(groups.decodes_indexedPoints fetched).1, ?_⟩
    rw [(summed fetched).mp added, one_smul]
    rfl
  · rintro ⟨inRange, rfl⟩
    obtain ⟨points, fetched⟩ := exists_indexedPoints host inRange
    refine ⟨points, fetched, (summed fetched).mpr ?_⟩
    rw [one_smul]
    rfl

/-- The second recomputed commitment is the second equation of the scheme. The indexes are
in range, and there is a response for every hidden one.
-/
theorem recomputeT2_ok_iff {pkUncompressed : BytesN 192} {header : Bytes}
    {indexes : List UInt32} {messages : List Bytes} {proof : BbsProof} {points : Points G1}
    {t2 : BytesN 96} (shows : groups.Shows proof points)
    : recomputeT2 host pkUncompressed header indexes messages proof = .ok t2
      ↔ (∀ pair ∈ disclosedScalars host indexes messages, pair.1.toNat < 12)
        ∧ (∃ hidden,
            hiddenResponses indexes schemaIndexes
                (proof.mHat.map (fun response => Fr.fromBytes response.val))
              = .ok hidden)
        ∧ t2
          = groups.encodeG1
              (points.t2 (groups.params pkUncompressed header)
                (shownVector host indexes messages) (responseOf indexes proof)) := by
  have summed {bv : BytesN 96} {hidden : List (UInt32 × Fr)} {fetched : List (BytesN 96)}
      (based
        : groups.decodeG1 bv
          = some
              ((groups.params pkUncompressed header).base (shownVector host indexes messages)))
      (paired
        : hiddenResponses indexes schemaIndexes
            (proof.mHat.map (fun response => Fr.fromBytes response.val)) = .ok hidden)
      (generators : indexedPoints (createGenerators host) hidden = .ok fetched)
      : host.g1Msm (bv :: proof.d :: fetched)
            (Fr.fromBytes proof.challenge.val :: Fr.fromBytes proof.r3Hat.val
              :: hidden.map Prod.snd)
          = .ok t2
        ↔ t2
          = groups.encodeG1
              (points.t2 (groups.params pkUncompressed header)
                (shownVector host indexes messages) (responseOf indexes proof)) := by
    rw [groups.g1Msm_cons_cons_iff pkUncompressed header _ _ t2 based shows.d generators]
    simp only [Points.t2, responseOf, responseVector, paired]
  simp only [recomputeT2, bind_eq_ok]
  constructor
  · rintro ⟨bv, based, hidden, paired, fetched, generators, added⟩
    obtain ⟨inRange, rfl⟩ := groups.disclosedBase_ok_iff.mp based
    exact ⟨inRange, ⟨hidden, paired⟩, (summed (groups.decode_encode _) paired generators).mp added⟩
  · rintro ⟨inRange, ⟨hidden, paired⟩, value⟩
    have hiddenInRange : ∀ pair ∈ hidden, pair.1.toNat < 12 := fun pair member =>
      schemaIndexes_lt (mem_hiddenResponses paired member).1
    obtain ⟨fetched, generators⟩ := exists_indexedPoints host hiddenInRange
    exact ⟨_, groups.disclosedBase_ok_iff.mpr ⟨inRange, rfl⟩, hidden, paired, fetched, generators,
      (summed (groups.decode_encode _) paired generators).mpr value⟩

/-- The pairing check compares two pairings under whatever key is given. -/
theorem pairingCheck_true_iff {pkUncompressed : BytesN 192} {proof : BbsProof}
    {points : Points G1} {w : G2} (keyed : groups.decodeG2 pkUncompressed = some w)
    (shows : groups.Shows proof points)
    : host.pairingCheck [proof.aBar, proof.bBar] [pkUncompressed, host.negG2 p2Uncompressed]
        = .ok true
      ↔ groups.pairing points.aBar w = groups.pairing points.bBar groups.p2 := by
  have decoded1 : Decodes groups.decodeG1 [proof.aBar, proof.bBar] [points.aBar, points.bBar] :=
    .cons shows.aBar (.cons shows.bBar .nil)
  have decoded2
      : Decodes groups.decodeG2 [pkUncompressed, host.negG2 p2Uncompressed] [w, -groups.p2] :=
    .cons keyed (.cons (groups.negG2_eq groups.decode_p2) .nil)
  rw [groups.pairingCheck_ok]
  constructor
  · intro accepted
    obtain ⟨-, -, left, right, decodedLeft, decodedRight, trivial⟩ := accepted
    rw [← decoded1.unique decodedLeft, ← decoded2.unique decodedRight] at trivial
    simpa [← sub_eq_add_neg, sub_eq_zero] using trivial
  · intro same
    refine ⟨by simp, rfl, _, _, decoded1, decoded2, ?_⟩
    simp [same]

/-- The pairing check says that `b_bar` is `a_bar` under the secret key. Witness: the
pairing is bilinear and nondegenerate at the generator.
-/
theorem pairingCheck_ok_iff {pkUncompressed : BytesN 192} {sk : Fr} {proof : BbsProof}
    {points : Points G1} (keyed : groups.decodeG2 pkUncompressed = some (sk • groups.p2))
    (shows : groups.Shows proof points)
    : host.pairingCheck [proof.aBar, proof.bBar] [pkUncompressed, host.negG2 p2Uncompressed]
        = .ok true
      ↔ points.bBar = sk • points.aBar := by
  have moved
      : groups.pairing points.aBar (sk • groups.p2)
        = groups.pairing (sk • points.aBar) groups.p2 := by
    rw [map_smul, map_smul, LinearMap.smul_apply]
  rw [groups.pairingCheck_true_iff keyed shows, moved]
  constructor
  · intro paired
    apply Eq.symm
    apply sub_eq_zero.mp
    apply groups.nondegenerate
    rw [map_sub, LinearMap.sub_apply, paired, sub_self]
  · intro same
    rw [same]

end Realisation

-----------------------------------------------------------------------------------------
-- Accepted proofs
-----------------------------------------------------------------------------------------

/-- The challenge of a proof is the hash of a transcript with the given commitments. -/
def NamesChallenge (host : Host) (pkUncompressed : BytesN 192) (header ph : Bytes)
    (indexes : List UInt32) (messages : List Bytes) (proof : BbsProof) (t1 t2 : BytesN 96)
    : Prop :=
  proofChallenge host indexes (messagesToScalars host messages) proof.aBar proof.bBar proof.d
      t1 t2 (calculateDomain host pkUncompressed (createGenerators host) header) ph
    = Fr.fromBytes proof.challenge.val

/-- The ways to an answer over lists of one length. -/
theorem verifyBbsProof_eq_ok_iff {host : Host} {pkUncompressed : BytesN 192}
    {header ph : Bytes} {indexes : List UInt32} {messages : List Bytes} {proof : BbsProof}
    {verdict : Bool} (parallel : indexes.length = messages.length)
    : verifyBbsProof host pkUncompressed header ph indexes messages proof = .ok verdict
      ↔ ∃ t1 t2,
          recomputeT1 host proof = .ok t1
          ∧ recomputeT2 host pkUncompressed header indexes messages proof = .ok t2
          ∧ (¬ NamesChallenge host pkUncompressed header ph indexes messages proof t1 t2
              ∧ verdict = false
            ∨ NamesChallenge host pkUncompressed header ph indexes messages proof t1 t2
              ∧ host.pairingCheck [proof.aBar, proof.bBar]
                  [pkUncompressed, host.negG2 p2Uncompressed]
                = .ok verdict) := by
  unfold verifyBbsProof
  rw [if_neg (not_not.mpr parallel), bind_eq_ok]
  simp only [bind_eq_ok]
  constructor
  · intro answered
    obtain ⟨t1, first, t2, second, answered⟩ := answered
    refine ⟨t1, t2, first, second, ?_⟩
    split at answered
    case isTrue other => exact .inl ⟨other, (Except.ok.inj answered).symm⟩
    case isFalse same => exact .inr ⟨not_not.mp same, answered⟩
  · intro answered
    obtain ⟨t1, t2, first, second, answered⟩ := answered
    refine ⟨t1, first, t2, second, ?_⟩
    rcases answered with ⟨other, rfl⟩ | ⟨same, decided⟩
    · exact if_pos other
    · exact (if_neg (not_not.mpr same)).trans decided

/-- The four checks of an accepted proof. -/
theorem verifyBbsProof_true_iff {host : Host} {pkUncompressed : BytesN 192}
    {header ph : Bytes} {indexes : List UInt32} {messages : List Bytes} {proof : BbsProof}
    : verifyBbsProof host pkUncompressed header ph indexes messages proof = .ok true
      ↔ indexes.length = messages.length
        ∧ ∃ t1 t2,
            recomputeT1 host proof = .ok t1
            ∧ recomputeT2 host pkUncompressed header indexes messages proof = .ok t2
            ∧ proofChallenge host indexes (messagesToScalars host messages) proof.aBar
                  proof.bBar proof.d t1 t2
                  (calculateDomain host pkUncompressed (createGenerators host) header) ph
                = Fr.fromBytes proof.challenge.val
            ∧ host.pairingCheck [proof.aBar, proof.bBar]
                  [pkUncompressed, host.negG2 p2Uncompressed]
                = .ok true := by
  by_cases parallel : indexes.length = messages.length
  case neg =>
    have refused
        : verifyBbsProof host pkUncompressed header ph indexes messages proof = .ok false :=
      if_pos parallel
    simp [refused, parallel]
  rw [verifyBbsProof_eq_ok_iff parallel, and_iff_right parallel]
  refine exists_congr fun t1 => exists_congr fun t2 => and_congr_right fun _ => ?_
  refine and_congr_right fun _ => ?_
  constructor
  · intro answered
    rcases answered with ⟨-, impossible⟩ | decided
    · cases impossible
    · exact decided
  · intro decided
    exact .inr decided

end StellarOnramp.KycGate.Bbs
