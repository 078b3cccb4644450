import Mathlib.Algebra.Order.Field.Basic
import Mathlib.Algebra.Order.Field.Rat
import Mathlib.Logic.Basic
import OriginGame.LuaNumber
import OriginGame.LuaTable
import OriginGame.RoleType

namespace OriginGame
namespace SoldierPercent

inductive SkillTriggerArmySoldierTypePercent where
  | no | infantryMore | infantryLess | cavalryMore | cavalryLess | archerMore | archerLess | siegeUnitMore | siegeUnitLess

structure Soldier where
  type : ArmyType
  num : Nat

abbrev Soldiers := Table Nat Soldier

def getArmySoldierCount (soldiers : Soldiers) : Int := soldiers.sumOver (fun soldier => soldier.num)

def soldierNum (soldiers : Soldiers) (soldierType : ArmyType) : Int :=
  soldiers.sumOver (fun soldier => if soldier.type = soldierType then (soldier.num : Int) else 0)

-- `( soldierNum / allSoldierNum ) * 1000` in doubles; none is the NaN of an army without soldiers.
def getSoldierPercentByType (rounding : Rounding) (soldiers : Soldiers) (soldierType : ArmyType) : Option ℚ :=
  if getArmySoldierCount soldiers = 0 then none
  else some (rounding.near (rounding.near (soldierNum soldiers soldierType/getArmySoldierCount soldiers)*1000))

-- Every comparison with a NaN fails.
def atLeast (percent : Option ℚ) (bound : ℚ) : Bool := percent.any (fun percent => decide (bound ≤ percent))
def below (percent : Option ℚ) (bound : ℚ) : Bool := percent.any (fun percent => decide (percent < bound))

-- none is a number the enumeration does not have.
def checkSkillArmySoldierPercent (rounding : Rounding) (soldiers : Soldiers) (autoArmsType : Option SkillTriggerArmySoldierTypePercent) (autoArmsParm : ℚ) : Bool :=
  match autoArmsType with
  | some .no => true
  | some .infantryMore => atLeast (getSoldierPercentByType rounding soldiers .infantry) autoArmsParm
  | some .infantryLess => below (getSoldierPercentByType rounding soldiers .infantry) autoArmsParm
  | some .cavalryMore => atLeast (getSoldierPercentByType rounding soldiers .cavalry) autoArmsParm
  | some .cavalryLess => below (getSoldierPercentByType rounding soldiers .cavalry) autoArmsParm
  | some .archerMore => atLeast (getSoldierPercentByType rounding soldiers .archer) autoArmsParm
  | some .archerLess => below (getSoldierPercentByType rounding soldiers .archer) autoArmsParm
  | some .siegeUnitMore => atLeast (getSoldierPercentByType rounding soldiers .siegeUnit) autoArmsParm
  -- the same comparison as for siegeUnitMore
  | some .siegeUnitLess => atLeast (getSoldierPercentByType rounding soldiers .siegeUnit) autoArmsParm
  | none => true

-- The four types that have a pair of conditions.
inductive Arm where
  | infantry | cavalry | archer | siegeUnit
  deriving DecidableEq

namespace Arm

def type : Arm → ArmyType
  | infantry => .infantry | cavalry => .cavalry | archer => .archer | siegeUnit => .siegeUnit

def more : Arm → SkillTriggerArmySoldierTypePercent
  | infantry => .infantryMore | cavalry => .cavalryMore | archer => .archerMore | siegeUnit => .siegeUnitMore

def less : Arm → SkillTriggerArmySoldierTypePercent
  | infantry => .infantryLess | cavalry => .cavalryLess | archer => .archerLess | siegeUnit => .siegeUnitLess

end Arm

def share (soldiers : Soldiers) (soldierType : ArmyType) : ℚ := soldierNum soldiers soldierType/getArmySoldierCount soldiers

section conditions
variable {rounding : Rounding} {soldiers first second : Soldiers} {arm : Arm} {autoArmsParm : ℚ}

theorem check_more : checkSkillArmySoldierPercent rounding soldiers (some arm.more) autoArmsParm =
    atLeast (getSoldierPercentByType rounding soldiers arm.type) autoArmsParm := by
  cases arm <;> rfl

theorem check_less (other : arm ≠ .siegeUnit) : checkSkillArmySoldierPercent rounding soldiers (some arm.less) autoArmsParm =
    below (getSoldierPercentByType rounding soldiers arm.type) autoArmsParm := by
  cases arm with
  | siegeUnit => exact absurd rfl other
  | infantry | cavalry | archer => rfl

theorem percent_some (manned : getArmySoldierCount soldiers ≠ 0) (soldierType : ArmyType) :
    getSoldierPercentByType rounding soldiers soldierType = some (rounding.near (rounding.near (share soldiers soldierType)*1000)) := if_neg manned

theorem percent_mono (rounding : Rounding) (soldierType : ArmyType) (le : share first soldierType ≤ share second soldierType) :
    rounding.near (rounding.near (share first soldierType)*1000) ≤ rounding.near (rounding.near (share second soldierType)*1000) :=
  rounding.mono (mul_le_mul_of_nonneg_right (rounding.mono le) (by norm_num))

theorem atLeast_mono {low high : ℚ} (le : low ≤ high) (holds : atLeast (some low) autoArmsParm = true) : atLeast (some high) autoArmsParm = true :=
  decide_eq_true ((of_decide_eq_true holds).trans le)

theorem below_anti {low high : ℚ} (le : low ≤ high) (holds : below (some high) autoArmsParm = true) : below (some low) autoArmsParm = true :=
  decide_eq_true (le.trans_lt (of_decide_eq_true holds))

-- The first army's share is no larger than the second's, and the conditions follow the shares.
def Ordered (rounding : Rounding) (first second : Soldiers) (arm : Arm) (autoArmsParm : ℚ) : Prop :=
  share first arm.type ≤ share second arm.type →
    (checkSkillArmySoldierPercent rounding first (some arm.more) autoArmsParm = true →
      checkSkillArmySoldierPercent rounding second (some arm.more) autoArmsParm = true) ∧
    (checkSkillArmySoldierPercent rounding second (some arm.less) autoArmsParm = true →
      checkSkillArmySoldierPercent rounding first (some arm.less) autoArmsParm = true)

theorem ordered (other : arm ≠ .siegeUnit) (manned : getArmySoldierCount first ≠ 0) (mannedSecond : getArmySoldierCount second ≠ 0) :
    Ordered rounding first second arm autoArmsParm := by
  intro le
  have higher := percent_mono rounding arm.type le
  rw [check_more,check_more,check_less other,check_less other,percent_some manned,percent_some mannedSecond]
  exact ⟨atLeast_mono higher,below_anti higher⟩

end conditions
end SoldierPercent
end OriginGame
