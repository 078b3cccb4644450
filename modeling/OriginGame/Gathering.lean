import Mathlib.Algebra.Order.Ring.Rat
import Mathlib.Data.Rat.Floor
import Mathlib.Tactic.Linarith

namespace OriginGame.Gathering

-- Enum.ResourceCollectSpeedMultiple
def collectSpeedMultiple : Rat := 10000

inductive ResourceType where
  | farmland | wood | stone | gold | denar | cave | village
  deriving DecidableEq, Repr

structure GatherType where
  type : ResourceType
  timeLimit : Int

-- A missing row of s_ResourceGatherType has a type without a ratio, like a cave.
structure Config where
  foodRaito : Rat
  woodRaito : Rat
  stoneRaito : Rat
  goldRaito : Rat
  diamonRaito : Rat
  s_ResourceGatherType : Nat → GatherType
  capacity : Nat → Int
  food_pos : 0 < foodRaito
  wood_pos : 0 < woodRaito
  stone_pos : 0 < stoneRaito
  gold_pos : 0 < goldRaito
  diamon_pos : 0 < diamonRaito

structure Soldier where
  id : Nat
  num : Int

structure Load where
  resourceTypeId : Nat
  pos : Int × Int
  load : Int
  resourceId : Option Nat
  isGuildTerritory : Option Bool
  guildId : Option Nat
  guildBuildType : Nat

structure SpeedInfo where
  collectSpeed : Int
  collectTime : Int

structure CollectResource where
  resourceTypeId : Nat
  pos : Int × Int
  resourceId : Nat
  startTime : Int
  endTime : Int
  resourceSum : Int
  collectSpeeds : List SpeedInfo
  collectSpeed : Int

structure Army where
  soldiers : List Soldier
  resourceLoads : List Load
  collectResource : Option CollectResource

-- What other services tell of the army's role and its heros.
structure Role where
  troopsSpaceMulti : Int
  heroSpaceMulti : Int
  guildId : Nat
  checkGuildTerritory : Bool

structure Resource where
  resourceId : Nat
  resourceTypeId : Nat
  refreshTime : Int
  pos : Int × Int
  resourceAmount : Int

-- What a node has while it is gathered.
structure Collecting where
  collectRid : Nat
  armyIndex : Nat
  collectTime : Int
  collectSpeed : Int

section loads
variable (cfg : Config)

def raito : ResourceType → Option Rat
  | .farmland => some cfg.foodRaito
  | .wood => some cfg.woodRaito
  | .stone => some cfg.stoneRaito
  | .gold => some cfg.goldRaito
  | .denar => some cfg.diamonRaito
  | .cave | .village => none

def getArmyLoad (role : Role) (army : Army) : Int :=
  (army.soldiers.map (fun soldier => cfg.capacity soldier.id*soldier.num)).sum*(1000+role.troopsSpaceMulti+role.heroSpaceMulti)/1000

-- The codes of Enum.GuildBuildType.
def resourceBuildTypeToResourceType : Nat → Option ResourceType
  | 8 => some .farmland
  | 9 => some .wood
  | 10 => some .stone
  | 11 => some .gold
  | _ => none

def Load.resourceType (loadInfo : Load) : Option ResourceType :=
  if 0 < loadInfo.guildBuildType then resourceBuildTypeToResourceType loadInfo.guildBuildType
  else some (cfg.s_ResourceGatherType loadInfo.resourceTypeId).type

def getArmyUseLoad (army : Army) : Rat :=
  (army.resourceLoads.map (fun loadInfo => ((loadInfo.resourceType cfg).bind (raito cfg)).elim 0 (loadInfo.load*·))).sum

def leftLoad (role : Role) (army : Army) : Rat := getArmyLoad cfg role army-getArmyUseLoad cfg army

def loadToResourceCount (type : ResourceType) (load : Rat) : Int := (raito cfg type).elim 0 (fun raito => (load/raito).floor)

end loads

section amounts

def Army.collectSpeeds (army : Army) : List SpeedInfo := (army.collectResource.map (·.collectSpeeds)).getD []

def useTime (collectSpeeds : List SpeedInfo) : Int := (collectSpeeds.map (·.collectTime)).sum

-- What the speeds before the current one come to.
def dugBefore (collectSpeeds : List SpeedInfo) : Rat :=
  (collectSpeeds.map (fun speedInfo => speedInfo.collectSpeed/collectSpeedMultiple*speedInfo.collectTime)).sum

-- What all speeds come to at a time.
def dug (its : Collecting) (army : Army) (time : Int) : Rat :=
  dugBefore army.collectSpeeds+its.collectSpeed/collectSpeedMultiple*((time-its.collectTime-useTime army.collectSpeeds : Int) : Rat)

end amounts

section service
variable (cfg : Config)

def Resource.type (resource : Resource) : ResourceType := (cfg.s_ResourceGatherType resource.resourceTypeId).type

def deleteTime (resource : Resource) : Int := resource.refreshTime+(cfg.s_ResourceGatherType resource.resourceTypeId).timeLimit

-- The load of the node grows, or there is a new one at the end.
def addLoad (resource : Resource) (isGuildTerritory : Option Bool) (guildId : Option Nat) (collectAmount : Int) : List Load → List Load
  | [] => [⟨resource.resourceTypeId,resource.pos,collectAmount,some resource.resourceId,isGuildTerritory,guildId,0⟩]
  | loadInfo::rest =>
    if loadInfo.resourceId = some resource.resourceId then {loadInfo with load:=loadInfo.load+collectAmount, isGuildTerritory, guildId}::rest
    else loadInfo::addLoad resource isGuildTerritory guildId collectAmount rest

structure Finished where
  army : Army
  resource : Option Resource

-- What was dug, at most what the node has.
def collectNum (now : Int) (resource : Resource) (its : Collecting) (army : Army) : Int :=
  let collectNum := (dug its army now).floor
  if resource.resourceAmount < collectNum then resource.resourceAmount else collectNum

-- What the army gets of it.
def collectAmount (role : Role) (now : Int) (resource : Resource) (its : Collecting) (army : Army) : Int :=
  let leftLoad := leftLoad cfg role army
  let leftLoad := if leftLoad < 0 then 0 else leftLoad
  let collectAmount := loadToResourceCount cfg (resource.type cfg) leftLoad
  let collectNum := collectNum now resource its army
  if collectAmount > collectNum then collectNum else collectAmount

def collectFinish (role : Role) (now : Int) (resource : Resource) (its : Collecting) (army : Army) : Finished :=
  let collectNum := collectNum now resource its army
  let collectAmount := collectAmount cfg role now resource its army
  let isGuildTerritory := if 0 < role.guildId then some role.checkGuildTerritory else none
  let guildId := if isGuildTerritory = some true then some role.guildId else none
  let resourceLoads := if collectAmount > 0 then addLoad resource isGuildTerritory guildId collectAmount army.resourceLoads else army.resourceLoads
  {
    army:={army with resourceLoads, collectResource:=none}
    -- The test is about what was dug, the deduction about what is carried.
    resource:=if resource.resourceAmount ≤ collectNum ∨ deleteTime cfg resource ≤ now then none
      else some {resource with resourceAmount:=resource.resourceAmount-collectAmount}}

-- The timer runs collectFinish.
structure Timed where
  its : Collecting
  army : Army
  timer : Int

-- A node that nobody gathers.
def collectResource (role : Role) (now : Int) (resource : Resource) (rid armyIndex : Nat) (army : Army) (collectSpeed : Int) : Timed :=
  let collectAmount := loadToResourceCount cfg (resource.type cfg) (leftLoad cfg role army)
  let collectAmount := if resource.resourceAmount < collectAmount then resource.resourceAmount else collectAmount
  let endTime := (collectAmount*collectSpeedMultiple/collectSpeed).ceil+now
  let armyResource : CollectResource := ⟨resource.resourceTypeId,resource.pos,resource.resourceId,now,endTime,resource.resourceAmount,[],collectSpeed⟩
  ⟨⟨rid,armyIndex,now,collectSpeed⟩,{army with collectResource:=some armyResource},endTime⟩

def Army.setEndTime (army : Army) (endTime : Int) : Army :=
  {army with collectResource:=army.collectResource.map (fun collectResource => {collectResource with endTime})}

inductive LoadChange where
  | finished (finished : Finished)
  | timed (timed : Timed)

def armyLoadChange (role : Role) (now : Int) (resource : Resource) (its : Collecting) (army : Army) : LoadChange :=
  let collectAmount : Rat := loadToResourceCount cfg (resource.type cfg) (leftLoad cfg role army)
  -- Earlier speeds are taken off before the cap.
  let collectAmount := collectAmount-dugBefore army.collectSpeeds
  let collectAmount := if resource.resourceAmount < collectAmount then (resource.resourceAmount : Rat) else collectAmount
  let alreadyCollect := ((now-its.collectTime-useTime army.collectSpeeds : Int) : Rat)*its.collectSpeed/collectSpeedMultiple
  if alreadyCollect ≥ collectAmount then .finished (collectFinish cfg role now resource its army)
  else
    let needTime := ((collectAmount-alreadyCollect)*collectSpeedMultiple/its.collectSpeed).ceil
    .timed ⟨its,army.setEndTime (now+needTime),now+needTime⟩

def Army.setSpeeds (army : Army) (collectSpeeds : List SpeedInfo) (collectSpeed : Int) : Army :=
  {army with collectResource:=army.collectResource.map (fun collectResource => {collectResource with collectSpeeds, collectSpeed})}

def collectSpeedChange (role : Role) (now : Int) (resource : Resource) (its : Collecting) (army : Army) (collectSpeed : Int) : Option Timed :=
  if its.collectSpeed ≠ collectSpeed then
    let useTime := useTime army.collectSpeeds
    let alreadyCollect := dugBefore army.collectSpeeds
    let olcCollectTime := now-its.collectTime-useTime
    let collectSpeeds := if its.collectTime+useTime < now then army.collectSpeeds++[⟨its.collectSpeed,olcCollectTime⟩] else army.collectSpeeds
    let alreadyCollect := if its.collectTime+useTime < now then alreadyCollect+olcCollectTime*its.collectSpeed/collectSpeedMultiple else alreadyCollect
    let collectAmount := loadToResourceCount cfg (resource.type cfg) (leftLoad cfg role army)
    let collectAmount := if collectAmount > resource.resourceAmount then resource.resourceAmount else collectAmount
    let needTime := ((collectAmount-alreadyCollect)*collectSpeedMultiple/collectSpeed).ceil
    some ⟨{its with collectSpeed},(army.setSpeeds collectSpeeds collectSpeed).setEndTime (now+needTime),now+needTime⟩
  else none

end service

end OriginGame.Gathering
