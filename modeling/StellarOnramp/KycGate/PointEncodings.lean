import StellarOnramp.KycGate.Bbs
import StellarOnramp.Library.BaseField

/-! Compressing a valid point loses nothing: its abscissa and one bit of its ordinate determine
the point, and the flags in the first octet never meet a bit of the abscissa.
-/

namespace StellarOnramp.KycGate.Bbs

open BaseField Octets

-----------------------------------------------------------------------------------------
-- Valid points
-----------------------------------------------------------------------------------------

/-- A coordinate as the host writes it. -/
def coordinate (element : Fp) : Bytes := beBytes 48 element.val

/-- The point at infinity as the host writes it. -/
def infinity (width : Nat) : Bytes := 0x40 :: List.replicate (width - 1) 0

/-- A valid point of the first group, uncompressed. -/
def IsG1 (p : BytesN 96) : Prop :=
  p.val = infinity 96 ∨ ∃ x y, OnG1 x y ∧ y ≠ 0 ∧ p.val = coordinate x ++ coordinate y

/-- A valid point of the second group, uncompressed. -/
def IsG2 (p : BytesN 192) : Prop :=
  p.val = infinity 192
    ∨ ∃ x y,
        OnG2 x y
        ∧ y ≠ 0
        ∧ p.val = coordinate x.im ++ coordinate x.re ++ coordinate y.im ++ coordinate y.re

abbrev G1Point := { p : BytesN 96 // IsG1 p }

abbrev G2Point := { p : BytesN 192 // IsG2 p }

-----------------------------------------------------------------------------------------
-- Coordinates
-----------------------------------------------------------------------------------------

theorem coordinate_length (element : Fp) : (coordinate element).length = 48 :=
  beBytes_length 48 _

theorem baseOrder_lt : baseOrder < 2 ^ 381 := by
  decide +kernel

theorem val_lt_pow (element : Fp) : element.val < 256 ^ 48 :=
  ((ZMod.val_lt element).trans baseOrder_lt).trans_le (by decide +kernel)

theorem beNat_coordinate (element : Fp) : beNat (coordinate element) = element.val :=
  beNat_beBytes_of_lt (val_lt_pow element)

theorem coordinate_injective : Function.Injective coordinate := by
  intro left right same
  apply ZMod.val_injective
  rw [← beNat_coordinate, same, beNat_coordinate]

/-- The top three bits of a coordinate are clear. -/
theorem coordinate_head (element : Fp)
    : ∃ first rest, coordinate element = first :: rest ∧ first &&& 0xE0 = 0 := by
  have table : ∀ octet : Fin 32, UInt8.ofNat octet.val &&& 0xE0 = 0 := by decide
  have top : element.val / 256 ^ 47 < 32 := by
    have width : 2 ^ 381 = 256 ^ 47 * 32 := by decide +kernel
    exact Nat.div_lt_of_lt_mul (width ▸ (ZMod.val_lt element).trans baseOrder_lt)
  exact ⟨_, _, beBytes_succ 47 element.val, table ⟨_, top⟩⟩

/-- No point at infinity starts with a coordinate. -/
theorem coordinate_ne_infinity {element : Fp} {behind : Bytes} {width : Nat}
    : coordinate element ++ behind ≠ infinity width := by
  intro same
  obtain ⟨first, rest, shape, clear⟩ := coordinate_head element
  rw [shape] at same
  obtain ⟨rfl, -⟩ := List.cons.inj same
  exact absurd clear (by decide)

/-- Comparing octets of one length compares the numbers, by induction on both strings. -/
theorem gtBe_iff {left right : Bytes} (length : left.length = right.length)
    : gtBe left right = true ↔ beNat right < beNat left := by
  induction left generalizing right with
  | nil =>
      obtain rfl := List.length_eq_zero_iff.mp length.symm
      simp [gtBe]
  | cons a as ih =>
      cases right with
      | nil => cases length
      | cons b bs =>
          have tails : as.length = bs.length := Nat.succ.inj length
          have low_left := beNat_lt as
          have low_right := beNat_lt bs
          have split_left : beNat (a :: as) = a.toNat * 256 ^ as.length + beNat as :=
            (beNat_append [a] as).trans (by simp [beNat])
          have split_right : beNat (b :: bs) = b.toNat * 256 ^ bs.length + beNat bs :=
            (beNat_append [b] bs).trans (by simp [beNat])
          rw [split_left, split_right, ← tails, gtBe]
          rw [← tails] at low_right
          -- The first octets decide unless they are equal.
          rcases lt_trichotomy a.toNat b.toNat with below | same | above
          · have scaled := Nat.mul_le_mul_right (256 ^ as.length) (Nat.succ_le_of_lt below)
            rw [Nat.succ_mul] at scaled
            rw [if_neg (by rw [UInt8.lt_iff_toNat_lt]; omega),
              if_pos (UInt8.lt_iff_toNat_lt.mpr below)]
            simp only [Bool.false_eq_true, false_iff]
            omega
          · rw [if_neg (by rw [UInt8.lt_iff_toNat_lt]; omega),
              if_neg (by rw [UInt8.lt_iff_toNat_lt]; omega), ih tails, same]
            omega
          · have scaled := Nat.mul_le_mul_right (256 ^ as.length) (Nat.succ_le_of_lt above)
            rw [Nat.succ_mul] at scaled
            rw [if_pos (UInt8.lt_iff_toNat_lt.mpr above)]
            simp only [true_iff]
            omega

theorem beNat_halfPBe : beNat halfPBe.val = (baseOrder - 1) / 2 := by
  decide

/-- The sort bit of a coordinate says whether it is large. -/
theorem gtBe_coordinate (element : Fp)
    : gtBe (coordinate element) halfPBe.val = true ↔ IsLarge element := by
  rw [gtBe_iff (coordinate_length element), beNat_halfPBe, beNat_coordinate, IsLarge]

theorem isZero_coordinate (element : Fp) : isZero (coordinate element) = true ↔ element = 0 := by
  constructor
  · intro zero
    have zeros : coordinate element = List.replicate 48 0 := by
      rw [List.eq_replicate_iff]
      refine ⟨coordinate_length element, ?_⟩
      intro octet member
      exact beq_iff_eq.mp (List.all_eq_true.mp zero octet member)
    apply coordinate_injective
    rw [zeros]
    decide
  · intro zero
    subst zero
    decide

-----------------------------------------------------------------------------------------
-- Flags
-----------------------------------------------------------------------------------------

/-- The two flags that compression sets are clear in the first octet. -/
def FlagFree (octets : Bytes) : Prop :=
  ∃ first rest, octets = first :: rest ∧ first &&& 0xA0 = 0

/-- A first octet with the flags of compression. -/
def flagged (sort : Bool) (first : UInt8) : UInt8 :=
  if sort then first ||| 0x80 ||| 0x20 else first ||| 0x80

/-- The sort flag can be read off the first octet, and the octet without flags too. -/
theorem flagged_readBack {first : UInt8} (clear : first &&& 0xA0 = 0) (sort : Bool)
    : flagged sort first &&& 0x5F = first ∧ (flagged sort first &&& 0x20 = 0x20 ↔ sort = true) := by
  have table
      : ∀ octet : Fin 256, ∀ sort : Bool,
          UInt8.ofNat octet.val &&& 0xA0 = 0
          → flagged sort (UInt8.ofNat octet.val) &&& 0x5F = UInt8.ofNat octet.val
            ∧ (flagged sort (UInt8.ofNat octet.val) &&& 0x20 = 0x20 ↔ sort = true) := by
    decide +kernel
  have row := table ⟨first.toNat, first.toNat_lt⟩ sort
  rw [UInt8.ofNat_toNat] at row
  exact row clear

/-- Setting flags where there were none can be undone. -/
theorem setFlags_inj {left right : Bytes} {sort sort' : Bool} (clear_left : FlagFree left)
    (clear_right : FlagFree right) (same : setFlags sort left = setFlags sort' right)
    : left = right ∧ sort = sort' := by
  obtain ⟨first, rest, rfl, clear⟩ := clear_left
  obtain ⟨first', rest', rfl, clear'⟩ := clear_right
  obtain ⟨heads, rfl⟩ : flagged sort first = flagged sort' first' ∧ rest = rest' :=
    List.cons.inj same
  obtain ⟨octet, bit⟩ := flagged_readBack clear sort
  obtain ⟨octet', bit'⟩ := flagged_readBack clear' sort'
  rw [heads] at octet bit
  rw [show first = first' from octet.symm.trans octet']
  exact ⟨rfl, Bool.eq_iff_iff.mpr (bit.symm.trans bit')⟩

theorem setFlags_length (sort : Bool) (octets : Bytes)
    : (setFlags sort octets).length = octets.length := by
  cases octets with
  | nil => rfl
  | cons first rest => rfl

theorem flagFree_coordinate (element : Fp) (behind : Bytes)
    : FlagFree (coordinate element ++ behind) := by
  obtain ⟨first, rest, shape, clear⟩ := coordinate_head element
  refine ⟨first, rest ++ behind, by rw [shape, List.cons_append], ?_⟩
  have mask : (0xA0 : UInt8) = 0xE0 &&& 0xA0 := by decide
  rw [mask, ← UInt8.and_assoc, clear, UInt8.zero_and]

theorem flagFree_infinity (width : Nat) : FlagFree (infinity width) :=
  ⟨_, _, rfl, by decide⟩

-----------------------------------------------------------------------------------------
-- The first group
-----------------------------------------------------------------------------------------

theorem take_coordinate (element : Fp) (behind : Bytes)
    : (coordinate element ++ behind).take 48 = coordinate element :=
  List.take_left' (coordinate_length element)

theorem drop_coordinate (element : Fp) (behind : Bytes)
    : (coordinate element ++ behind).drop 48 = behind :=
  List.drop_left' (coordinate_length element)

/-- An ordinate is determined by the curve and by its sort bit. -/
theorem onG1_eq_of_sort {x y y' : Fp} (on : OnG1 x y) (on' : OnG1 x y') (nonzero : y' ≠ 0)
    (sort : IsLarge y ↔ IsLarge y')
    : y = y' := by
  rcases on.eq_or_eq_neg on' with same | opposite
  · exact same
  · rw [opposite, isLarge_neg_iff nonzero] at sort
    exact absurd sort.symm (iff_not_self)

theorem g1Compress_affine {p : BytesN 96} {x y : Fp} (shape : p.val = coordinate x ++ coordinate y)
    : g1Compress p = setFlags (gtBe (coordinate y) halfPBe.val) (coordinate x) := by
  rw [g1Compress, shape, take_coordinate, drop_coordinate]

theorem g1Compress_infinity {p : BytesN 96} (shape : p.val = infinity 96)
    : g1Compress p = setFlags false (infinity 48) := by
  rw [g1Compress, shape]
  rfl

theorem g1Compress_length (p : BytesN 96) : (g1Compress p).length = 48 := by
  rw [g1Compress, setFlags_length, List.length_take, p.property]
  rfl

/-- The compressed form of a valid point determines the point. -/
theorem g1Compress_injective : Function.Injective fun p : G1Point => g1Compress p.val := by
  intro p q same
  obtain ⟨p, valid⟩ := p
  obtain ⟨q, valid'⟩ := q
  dsimp only at same
  apply Subtype.ext
  apply Subtype.ext
  rcases valid with infinite | ⟨x, y, on, -, shape⟩
  · rcases valid' with infinite' | ⟨x', y', -, -, shape'⟩
    · exact infinite.trans infinite'.symm
    · rw [g1Compress_infinity infinite, g1Compress_affine shape', ← List.append_nil (coordinate x')]
        at same
      obtain ⟨clash, -⟩ := setFlags_inj (flagFree_infinity 48) (flagFree_coordinate x' []) same
      exact absurd clash.symm coordinate_ne_infinity
  · rw [g1Compress_affine shape, ← List.append_nil (coordinate x)] at same
    rcases valid' with infinite' | ⟨x', y', on', nonzero', shape'⟩
    · rw [g1Compress_infinity infinite'] at same
      obtain ⟨clash, -⟩ := setFlags_inj (flagFree_coordinate x []) (flagFree_infinity 48) same
      exact absurd clash coordinate_ne_infinity
    · rw [g1Compress_affine shape', ← List.append_nil (coordinate x')] at same
      obtain ⟨abscissas, sorts⟩ :=
        setFlags_inj (flagFree_coordinate x []) (flagFree_coordinate x' []) same
      rw [List.append_nil, List.append_nil] at abscissas
      obtain rfl := coordinate_injective abscissas
      have large : IsLarge y ↔ IsLarge y' := by
        rw [← gtBe_coordinate, ← gtBe_coordinate, sorts]
      rw [shape, shape', onG1_eq_of_sort on on' nonzero' large]

-----------------------------------------------------------------------------------------
-- The second group
-----------------------------------------------------------------------------------------

/-- The sort bit of an ordinate of the second group: of its first component that is not zero. -/
def sortBit (y : Fp2) : Bool :=
  if isZero (coordinate y.im) then
    gtBe (coordinate y.re) halfPBe.val
  else
    gtBe (coordinate y.im) halfPBe.val

/-- Of two opposite ordinates, one has the sort bit. -/
theorem sortBit_neg {y : Fp2} (nonzero : y ≠ 0) : sortBit (-y) = true ↔ ¬ sortBit y = true := by
  unfold sortBit
  by_cases real : y.im = 0
  · have negated : (-y).im = 0 := by rw [QuadraticAlgebra.im_neg, real, neg_zero]
    have part : y.re ≠ 0 := by
      intro zero
      exact nonzero (QuadraticAlgebra.ext zero real)
    rw [if_pos ((isZero_coordinate _).mpr negated), if_pos ((isZero_coordinate _).mpr real),
      gtBe_coordinate, gtBe_coordinate, QuadraticAlgebra.re_neg, isLarge_neg_iff part]
  · have negated : (-y).im ≠ 0 := by
      rw [QuadraticAlgebra.im_neg]
      exact neg_ne_zero.mpr real
    rw [if_neg (mt (isZero_coordinate _).mp negated), if_neg (mt (isZero_coordinate _).mp real),
      gtBe_coordinate, gtBe_coordinate, QuadraticAlgebra.im_neg, isLarge_neg_iff real]

theorem onG2_eq_of_sort {x y y' : Fp2} (on : OnG2 x y) (on' : OnG2 x y') (nonzero : y' ≠ 0)
    (sort : sortBit y = sortBit y')
    : y = y' := by
  rcases on.eq_or_eq_neg on' with same | opposite
  · exact same
  · have flipped := sortBit_neg nonzero
    rw [← opposite, sort] at flipped
    exact absurd flipped iff_not_self

theorem g2Compress_affine {p : BytesN 192} {x y : Fp2}
    (shape : p.val = coordinate x.im ++ coordinate x.re ++ coordinate y.im ++ coordinate y.re)
    : g2Compress p = setFlags (sortBit y) (coordinate x.im ++ coordinate x.re) := by
  have length_x : (coordinate x.im ++ coordinate x.re).length = 96 := by
    rw [List.length_append, coordinate_length, coordinate_length]
  have length_y : (coordinate x.im ++ coordinate x.re ++ coordinate y.im).length = 144 := by
    rw [List.length_append, length_x, coordinate_length]
  have abscissa : p.val.take 96 = coordinate x.im ++ coordinate x.re := by
    rw [shape, List.append_assoc, List.take_left' length_x]
  have upper : (p.val.drop 96).take 48 = coordinate y.im := by
    rw [shape, List.append_assoc, List.drop_left' length_x, take_coordinate]
  have lower : p.val.drop 144 = coordinate y.re := by
    rw [shape, List.drop_left' length_y]
  rw [g2Compress, abscissa, upper, lower]
  rfl

theorem g2Compress_infinity {p : BytesN 192} (shape : p.val = infinity 192)
    : g2Compress p = setFlags false (infinity 96) := by
  rw [g2Compress, shape]
  rfl

theorem g2Compress_length (p : BytesN 192) : (g2Compress p).length = 96 := by
  rw [g2Compress, setFlags_length, List.length_take, p.property]
  rfl

/-- The compressed form of a valid point of the second group determines the point. -/
theorem g2Compress_injective : Function.Injective fun p : G2Point => g2Compress p.val := by
  intro p q same
  obtain ⟨p, valid⟩ := p
  obtain ⟨q, valid'⟩ := q
  dsimp only at same
  apply Subtype.ext
  apply Subtype.ext
  rcases valid with infinite | ⟨x, y, on, -, shape⟩
  · rcases valid' with infinite' | ⟨x', y', -, -, shape'⟩
    · exact infinite.trans infinite'.symm
    · rw [g2Compress_infinity infinite, g2Compress_affine shape'] at same
      obtain ⟨clash, -⟩ := setFlags_inj (flagFree_infinity 96) (flagFree_coordinate _ _) same
      exact absurd clash.symm coordinate_ne_infinity
  · rw [g2Compress_affine shape] at same
    rcases valid' with infinite' | ⟨x', y', on', nonzero', shape'⟩
    · rw [g2Compress_infinity infinite'] at same
      obtain ⟨clash, -⟩ := setFlags_inj (flagFree_coordinate _ _) (flagFree_infinity 96) same
      exact absurd clash coordinate_ne_infinity
    · rw [g2Compress_affine shape'] at same
      obtain ⟨abscissas, sorts⟩ :=
        setFlags_inj (flagFree_coordinate _ _) (flagFree_coordinate _ _) same
      obtain ⟨upper, lower⟩ :=
        List.append_inj abscissas ((coordinate_length _).trans (coordinate_length _).symm)
      obtain rfl : x = x' :=
        QuadraticAlgebra.ext (coordinate_injective lower) (coordinate_injective upper)
      rw [shape, shape', onG2_eq_of_sort on on' nonzero' sorts]

end StellarOnramp.KycGate.Bbs
