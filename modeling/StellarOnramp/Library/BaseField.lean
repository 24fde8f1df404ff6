import Mathlib.Algebra.QuadraticAlgebra.Basic
import Mathlib.Data.List.Prime
import Mathlib.NumberTheory.LegendreSymbol.Basic
import Mathlib.NumberTheory.LucasPrimality
import Mathlib.Tactic.NormNum.Prime
import Mathlib.Tactic.ReduceModChar

/-! The base field of the BLS12-381 curves, its quadratic extension, and the two curves. The
modulus is prime by a chain of certificates, each of which rests on one large prime factor of
the number before it.
-/

namespace BaseField

-----------------------------------------------------------------------------------------
-- Primality from one large factor
-----------------------------------------------------------------------------------------

/-- A number is prime when its predecessor has a prime factor above its root, and some power
of `base` shows that the factor divides the order modulo every divisor. Witness: the least
prime divisor would be above the root.
-/
theorem prime_of_large_factor {number : Nat} (factor cofactor : Nat)
    (base inverse : ZMod number) (prime : factor.Prime)
    (split : number = factor * cofactor + 1) (proper : cofactor ≠ 0)
    (large : number < factor * factor) (fermat : base ^ (factor * cofactor) = 1)
    (unit : (base ^ cofactor - 1) * inverse = 1)
    : number.Prime := by
  have above : 2 ≤ number := by
    have positive := Nat.mul_pos prime.pos (Nat.pos_of_ne_zero proper)
    omega
  by_contra composite
  let divisor := number.minFac
  have divisor_prime : divisor.Prime := Nat.minFac_prime (by omega)
  have root : divisor ^ 2 ≤ number := Nat.minFac_sq_le_self (by omega) composite
  have : Fact divisor.Prime := ⟨divisor_prime⟩
  let reduce := ZMod.castHom (Nat.minFac_dvd number) (ZMod divisor)
  have order_dvd : orderOf (reduce base) ∣ factor * cofactor := by
    apply orderOf_dvd_of_pow_eq_one
    rw [← map_pow, fermat, map_one]
  have not_dvd : ¬ orderOf (reduce base) ∣ cofactor := by
    intro dvd
    have mapped := congrArg reduce unit
    rw [map_mul, map_sub, map_pow, orderOf_dvd_iff_pow_eq_one.mp dvd, map_one, sub_self,
      zero_mul] at mapped
    exact zero_ne_one mapped
  have factor_dvd : factor ∣ orderOf (reduce base) := by
    by_contra apart
    have coprime := ((Nat.Prime.coprime_iff_not_dvd prime).mpr apart).symm
    exact not_dvd (coprime.dvd_of_dvd_mul_left order_dvd)
  have nonzero : reduce base ≠ 0 := by
    intro zero
    have mapped := congrArg reduce fermat
    rw [map_pow, zero, zero_pow (Nat.mul_ne_zero prime.ne_zero proper), map_one] at mapped
    exact zero_ne_one mapped
  have small : factor ≤ divisor - 1 :=
    Nat.le_of_dvd (Nat.sub_pos_of_lt divisor_prime.one_lt)
      (factor_dvd.trans (ZMod.orderOf_dvd_card_sub_one nonzero))
  have positive := divisor_prime.pos
  have below : factor * factor ≤ divisor * divisor := Nat.mul_self_le_mul_self (by omega)
  rw [sq] at root
  omega

/-- The modulus of the base field. -/
def baseOrder : Nat :=
  0x1a0111ea397fe69a4b1ba7b6434bacd764774b84f38512bf6730d2a0f6b0f6241eabfffeb153ffffb9feffffffffaaab

/-- The modulus as a decimal literal, which modular reduction can read. -/
theorem baseOrder_eq
    : baseOrder
      = 4002409555221667393417789825735904156556882819939007885332058136124031650490837864442687629129015664037894272559787 :=
  rfl

theorem firstLink_prime
    : Nat.Prime 13090036741 := by
  apply prime_of_large_factor 421987 31020 2
    9508339913
  · norm_num
  · norm_num
  · norm_num
  · norm_num
  · reduce_mod_char
  · reduce_mod_char

/-- One less than the second link of the chain, in its prime factors. -/
def secondLinkFactors : List Nat := [2, 2, 3, 3, 5, 19, 113, 755057, 13090036741]

theorem secondLinkFactors_prime : ∀ factor ∈ secondLinkFactors, Prime factor := by
  intro factor member
  rw [← Nat.prime_iff]
  simp only [secondLinkFactors, List.mem_cons, List.not_mem_nil, or_false] at member
  rcases member with rfl | rfl | rfl | rfl | rfl | rfl | rfl | rfl | rfl
  case inr.inr.inr.inr.inr.inr.inr.inr => exact firstLink_prime
  all_goals norm_num

theorem secondLink_prime : Nat.Prime 3819663927398918131021 := by
  refine lucas_primality 3819663927398918131021 6 ?_ ?_
  · reduce_mod_char
  · intro factor prime divides
    have product : secondLinkFactors.prod = 3819663927398918131021 - 1 := by
      norm_num [secondLinkFactors]
    rw [← product] at divides
    have member :=
      mem_list_primes_of_dvd_prod (Nat.prime_iff.mp prime) secondLinkFactors_prime divides
    simp only [secondLinkFactors, List.mem_cons, List.not_mem_nil, or_false] at member
    rcases member with rfl | rfl | rfl | rfl | rfl | rfl | rfl | rfl | rfl
      <;> norm_num <;> reduce_mod_char <;> decide

theorem thirdLink_prime
    : Nat.Prime 1125266252156850182658904441386709967 := by
  apply prime_of_large_factor 3819663927398918131021 294598235223046 2
    363966040104148855705611644974454555
  · exact secondLink_prime
  · norm_num
  · norm_num
  · norm_num
  · reduce_mod_char
  · reduce_mod_char

theorem fourthLink_prime
    : Nat.Prime 15778400344354997994418419698270088123916926905054652752758194827714659 := by
  apply prime_of_large_factor 1125266252156850182658904441386709967 14021926201120671579994175730661374 2
    8254959361366692087094521958599552736149856986728481575631050697403242
  · exact thirdLink_prime
  · norm_num
  · norm_num
  · norm_num
  · reduce_mod_char
  · reduce_mod_char

/-- The modulus is prime. -/
theorem baseOrder_prime : baseOrder.Prime := by
  rw [baseOrder_eq]
  apply prime_of_large_factor 15778400344354997994418419698270088123916926905054652752758194827714659
    253663835868735594330404923636534084567099854 2
    2187498333999863193215640476378758310847690922566267545269384146546613166935166697200060931464500123887301765890575
  · exact fourthLink_prime
  · norm_num
  · norm_num
  · norm_num
  · reduce_mod_char
  · reduce_mod_char

instance : Fact baseOrder.Prime := ⟨baseOrder_prime⟩

-----------------------------------------------------------------------------------------
-- The two fields and the two curves
-----------------------------------------------------------------------------------------

/-- The base field. -/
abbrev Fp := ZMod baseOrder

/-- The modulus is three modulo four, so minus one has no square root. -/
instance : Fact (∀ root : Fp, root ^ 2 ≠ -1 + 0 * root) := by
  refine ⟨?_⟩
  intro root square
  rw [zero_mul, add_zero] at square
  have residue := ZMod.exists_sq_eq_neg_one_iff.mp ⟨root, by rw [← square, sq]⟩
  exact residue (by rw [baseOrder_eq])

/-- The quadratic extension: `re + im * u`, where `u` is a square root of minus one. -/
abbrev Fp2 := QuadraticAlgebra Fp (-1) 0

/-- The curve of the first group. -/
def OnG1 (x y : Fp) : Prop := y ^ 2 = x ^ 3 + 4

/-- The curve of the second group. -/
def OnG2 (x y : Fp2) : Prop := y ^ 2 = x ^ 3 + 4 * ⟨1, 1⟩

/-- Two points of a curve with one abscissa are equal or opposite. -/
theorem OnG1.eq_or_eq_neg {x y y' : Fp} (on : OnG1 x y) (on' : OnG1 x y') : y = y' ∨ y = -y' :=
  sq_eq_sq_iff_eq_or_eq_neg.mp (on.trans on'.symm)

theorem OnG2.eq_or_eq_neg {x y y' : Fp2} (on : OnG2 x y) (on' : OnG2 x y') : y = y' ∨ y = -y' :=
  sq_eq_sq_iff_eq_or_eq_neg.mp (on.trans on'.symm)

/-- An element above the middle of the field. -/
def IsLarge (element : Fp) : Prop := (baseOrder - 1) / 2 < element.val

/-- Of two opposite elements, one is large. -/
theorem isLarge_neg_iff {element : Fp} (nonzero : element ≠ 0)
    : IsLarge (-element) ↔ ¬ IsLarge element := by
  have small := ZMod.val_lt element
  have positive : 0 < element.val := Nat.pos_of_ne_zero ((ZMod.val_ne_zero element).mpr nonzero)
  have odd : baseOrder % 2 = 1 := by decide +kernel
  rw [IsLarge, IsLarge, ZMod.neg_val, if_neg nonzero]
  omega

end BaseField
