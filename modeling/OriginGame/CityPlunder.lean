import OriginGame.BuildingRoleMgr
import Mathlib.Data.Rat.Floor

namespace OriginGame.CityPlunder
open BuildingRoleMgr (Resource)

def total (amounts : Resource → Int) : Int := amounts .food+amounts .wood+amounts .stone+amounts .gold

-- What the role of the city has stored, what getWarEhouseProtect answers, and what PLUNDER
-- finds in its buildings.
structure Defender where
  stored : Resource → Int
  protect : Resource → Int
  uncollected : Resource → Int
  protect_nonneg : ∀ resource, 0 ≤ protect resource
  uncollected_nonneg : ∀ resource, 0 ≤ uncollected resource

namespace Defender

-- PLUNDER empties the buildings.
def collected (d : Defender) : Defender := {d with uncollected:=fun _ => 0, uncollected_nonneg:=fun _ => Int.le_refl 0}

end Defender

-- As much of exitArg as dispatchCityPlunder looks at.
structure ExitArg where
  objectIndex : Nat
  cityAttackCount : Table Nat Int
  plunderResource : Option (Resource → Int)

-- Of the capacity of the army less what it carries.
def getArmyResourceLoad (resourceLoad : Int) : Int := if resourceLoad < 0 then 0 else resourceLoad

-- `if cityFood < 0 then cityFood = 0 end`
def spare (roleInfo protect : Resource → Int) (resource : Resource) : Int :=
  if roleInfo resource-protect resource < 0 then 0 else roleInfo resource-protect resource

-- math.floor( amount * ( part / whole ) )
def portion (amount part whole : ℚ) : Int := ⌊amount*(part/whole)⌋

def ExitArg.isMultiArmyAttack (e : ExitArg) : Bool := decide (1 < e.cityAttackCount.keys.length)

def ExitArg.allArmyCount (e : ExitArg) : Int := Table.sumOver id e.cityAttackCount

def ExitArg.thisArmyCount (e : ExitArg) : Int := (e.cityAttackCount.lookup e.objectIndex).getD 0

-- What can be plundered of what is stored: none raises.
def plunderable (e : ExitArg) (d : Defender) : Option (Resource → Int) :=
  if e.isMultiArmyAttack then
    e.plunderResource.map (fun roleInfo resource => portion (spare roleInfo d.protect resource) e.thisArmyCount e.allArmyCount)
  else some (spare d.stored d.protect)

section amounts
variable (city uncollected : Resource → Int) (armyLoad : Int)

-- allResource: nothing if the uncollected resources alone are too much.
def allResource : Int :=
  if armyLoad-total uncollected < 0 then 0
  else if armyLoad < total city then armyLoad
  else total city

def recollected (resource : Resource) : Int :=
  if armyLoad-total uncollected < 0 then portion armyLoad (uncollected resource) (total uncollected) else uncollected resource

-- What the city loses of what it has stored.
def taken (allResource : Int) (resource : Resource) : Int :=
  if 0 < total city then portion allResource (city resource) (total city) else city resource

-- What the system leaves of it.
def plunderResource (allResource lossConstant : Int) : ℚ := allResource*(1-lossConstant/1000)

def kept (allResource lossConstant : Int) (resource : Resource) : Int :=
  if 0 < allResource then portion (plunderResource allResource lossConstant) (taken city allResource resource) allResource else 0

def leftResource (allResource lossConstant : Int) : ℚ :=
  plunderResource allResource lossConstant-kept city allResource lossConstant .food-kept city allResource lossConstant .wood-
    kept city allResource lossConstant .stone-kept city allResource lossConstant .gold

end amounts

-- A unit at a time, while something is left.
def handBack (leftResource : ℚ) (amounts : Resource → Int) : Resource → Int :=
  if 0 < leftResource then
    let amounts := Function.update amounts .gold (amounts .gold+1)
    let leftResource := leftResource-1
    if 0 < leftResource then
      let amounts := Function.update amounts .stone (amounts .stone+1)
      let leftResource := leftResource-1
      if 0 < leftResource then
        let amounts := Function.update amounts .wood (amounts .wood+1)
        let leftResource := leftResource-1
        if 0 < leftResource then Function.update amounts .food (amounts .food+1) else amounts
      else amounts
    else amounts
  else amounts

-- What the army gains of each kind, if anything, and what becomes of the city. An error leaves
-- the city as it is then.
def dispatchCityPlunder (e : ExitArg) (resourceLoad lossConstant : Int) (d : Defender) : Except Defender (Defender×Option (Resource → Int)) :=
  match plunderable e d with
  | none => .error d.collected
  | some city =>
    if total city ≤ 0 ∧ total d.uncollected ≤ 0 then .ok (d.collected,none)
    else
      let armyLoad := getArmyResourceLoad resourceLoad
      if armyLoad ≤ 0 then .ok (d.collected,none)
      else
        let all := allResource city d.uncollected armyLoad
        let stored resource := if d.stored resource-taken city all resource < 0 then 0 else d.stored resource-taken city all resource
        let plunder := handBack (leftResource city all lossConstant) (kept city all lossConstant)
        .ok ({d.collected with stored:=stored},some (fun resource => plunder resource+recollected d.uncollected armyLoad resource))

end OriginGame.CityPlunder
