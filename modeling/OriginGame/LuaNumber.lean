import Mathlib.Algebra.Order.Ring.Int
import Mathlib.Algebra.Order.Ring.Rat
import Mathlib.Tactic.Linarith

namespace OriginGame

-- `math.round( n / d )` of LuaExt for a positive d: floor( n / d + 0.5 ).
def roundDiv (n d : Int) : Int := (2*n+d)/(2*d)

theorem roundDiv_nonneg (nonneg : 0 ≤ n) (positive : 0 < d) : 0 ≤ roundDiv n d :=
  Int.ediv_nonneg (by omega) (by omega)

theorem roundDiv_le (positive : 0 < d) (bound : n ≤ k*d) : roundDiv n d ≤ k := by
  have strict : (2*n+d)/(2*d) < k+1 := by
    rw [Int.ediv_lt_iff_lt_mul (by omega)]
    linarith
  exact Int.lt_add_one_iff.mp strict

-- `math.floor( c * ( a / b ) )`. The quotient is a double, so the product can
-- fall short of the exact one (49 * ( 1 / 49 ) is below 1) and the floor lose a
-- unit. For counts whose product stays under 2^51 it never gains one, which is
-- all the callers rely on.
structure Share where
  floor : Int → Int → Int → Int
  nonneg : ∀ {c a b}, 0 ≤ c → 0 ≤ a → 0 < b → 0 ≤ floor c a b
  below : ∀ {c a b}, 0 ≤ a → 0 < b → floor c a b * b ≤ c * a

namespace Share

def exact : Share where
  floor c a b := c*a/b
  nonneg hc ha hb := Int.ediv_nonneg (Int.mul_nonneg hc ha) (Int.le_of_lt hb)
  below _ hb := Int.ediv_mul_le _ (Int.ne_of_gt hb)

-- The floor loses a unit at most: for these counts the two roundings move the product by less than
-- one part of the divisor.
def Near (share : Share) : Prop := ∀ {c a b : Int}, 0 ≤ c → 0 ≤ a → 0 < b → c*a ≤ (share.floor c a b+1)*b

theorem exact_near : exact.Near := fun {c a b} _ _ hb => (Int.lt_ediv_add_one_mul_self (c*a) hb).le

theorem le_zero (share : Share) (ha : 0 ≤ a) (hb : 0 < b) : share.floor 0 a b ≤ 0 := by
  have scaled : share.floor 0 a b * b ≤ 0 * a := share.below ha hb
  rw [Int.zero_mul] at scaled
  exact Int.le_of_mul_le_mul_right (scaled.trans (Int.zero_mul b).ge) hb

theorem floor_zero (share : Share) (ha : 0 ≤ a) (hb : 0 < b) : share.floor 0 a b = 0 :=
  Int.le_antisymm (share.le_zero ha hb) (share.nonneg (Int.le_refl 0) ha hb)

end Share

-- What the double nearest to a number is; a larger number never rounds to a smaller double.
structure Rounding where
  near : ℚ → ℚ
  mono : ∀ {x y}, x ≤ y → near x ≤ near y

def Rounding.exact : Rounding := ⟨id,id⟩

end OriginGame
