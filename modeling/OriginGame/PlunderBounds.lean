import OriginGame.CityPlunder
import Mathlib.Algebra.Order.Floor.Ring
import Mathlib.Tactic.FieldSimp
import Mathlib.Tactic.Linarith
import Mathlib.Tactic.Positivity
import Mathlib.Tactic.GCongr

namespace OriginGame.CityPlunder
open BuildingRoleMgr (Resource)

section portions
variable {amount part whole : ℚ}

theorem portion_nonneg (amount_nonneg : 0 ≤ amount) (part_nonneg : 0 ≤ part) (whole_nonneg : 0 ≤ whole) : 0 ≤ portion amount part whole :=
  Int.floor_nonneg.mpr (mul_nonneg amount_nonneg (div_nonneg part_nonneg whole_nonneg))

end portions

-- How many units are handed back before it is the kind's turn.
def turn : Resource → ℚ
  | .gold => 0
  | .stone => 1
  | .wood => 2
  | .food => 3

section stock
variable {city : Resource → Int} {all lossConstant : Int}

theorem spare_nonneg (roleInfo protect : Resource → Int) (resource : Resource) : 0 ≤ spare roleInfo protect resource := by
  unfold spare
  split <;> omega

theorem total_nonneg {amounts : Resource → Int} (nonneg : ∀ resource, 0 ≤ amounts resource) : 0 ≤ total amounts := by
  have food := nonneg .food
  have wood := nonneg .wood
  have stone := nonneg .stone
  have gold := nonneg .gold
  unfold total
  omega

end stock

section shares
variable {uncollected : Resource → Int} {armyLoad : Int}

end shares
-- A plunder that leaves the city as `after`, `gain` being what the army has of it.
structure Fair (load : Int) (before after : Defender) (gain : Resource → Int) : Prop where
  load : total gain ≤ load
  lost : ∀ resource, gain resource ≤ max 0 (before.stored resource-after.stored resource)+(before.uncollected resource-after.uncollected resource)
  protected_ : ∀ resource, min (before.stored resource) (before.protect resource) ≤ after.stored resource
  nonneg : ∀ resource, 0 ≤ before.stored resource → 0 ≤ after.stored resource

def PlundersFairly (e : ExitArg) (resourceLoad lossConstant : Int) (d : Defender) : Prop :=
  match dispatchCityPlunder e resourceLoad lossConstant d with
  | .ok (after,gain) => Fair (getArmyResourceLoad resourceLoad) d after (gain.getD (fun _ => 0))
  | .error _ => False

-- With what is uncollected, which all goes first, there is no room for anything; or what comes
-- of the stock fits beside it, and units are handed back of kinds only of which the system took some.
def Fits (resourceLoad lossConstant : Int) (d : Defender) : Prop :=
  let load := getArmyResourceLoad resourceLoad
  let city := spare d.stored d.protect
  let all := min (total city) load
  let left := leftResource city all lossConstant
  load = 0 ∨ load < total d.uncollected ∨
    (total (handBack left (kept city all lossConstant))+total d.uncollected ≤ load ∧
      ∀ resource, turn resource < left → 0 < taken city all resource ∧ 0 < lossConstant)

section plunder
variable {lossConstant load : Int} {d : Defender}

end plunder

section sacks
def amounts (food wood stone gold : Int) : Resource → Int
  | .food => food
  | .wood => wood
  | .stone => stone
  | .gold => gold

def attack : ExitArg := ⟨1,AList.insert 1 100 ∅,none⟩

theorem PlundersFairly.outcome {e : ExitArg} {resourceLoad lossConstant : Int} {d : Defender} (fair : PlundersFairly e resourceLoad lossConstant d) :
    ∃ after gain, dispatchCityPlunder e resourceLoad lossConstant d = .ok (after,gain) ∧
      Fair (getArmyResourceLoad resourceLoad) d after (gain.getD (fun _ => 0)) := by
  unfold PlundersFairly at fair
  split at fair
  next after gain step => exact ⟨after,gain,step,fair⟩
  next => exact fair.elim

end sacks
end OriginGame.CityPlunder
