import OriginGame.LuaTable
import Mathlib.Logic.Function.Basic

namespace OriginGame.BuildingRoleMgr

inductive BuildingType where
  | townhall | farm | wood | stone | gold | wall | worker | guardtower | barracks | stable | archeryrange | siege
  | collage | hospital | warehouse | allianceCenter | castle | tavern | bussiness | store | station | scoutCamp
  | billborad | monument | smithy
  deriving DecidableEq

inductive Resource where
  | food | wood | stone | gold
  deriving DecidableEq

def BuildingType.resource : BuildingType → Option Resource
  | .farm => some .food
  | .wood => some .wood
  | .stone => some .stone
  | .gold => some .gold
  | _ => none

structure GainInfo where
  num : Int
  changeTime : Int
  deriving DecidableEq

structure Building where
  type : BuildingType
  level : Nat
  buildingGainInfo : Option GainInfo
  deriving DecidableEq

-- A role: what it has stored, and foodCapacityMulti, woodCapacityMulti, stoneCapacityMulti and
-- glodCapacityMulti.
structure City where
  buildings : Table Nat Building
  stored : Resource → Int
  capacityMulti : Resource → Option Int

structure Produce where
  gatherMax : Int
  produceSpeed : Int

-- math.floor( produceSpeed / 3600 * time * ( 1000 + addRate ) / 1000 ), in doubles, of which the
-- rules below rely on one thing: in no time nothing is produced.
structure Growth where
  produced : (produceSpeed time addRate : Int) → Int
  still : ∀ produceSpeed addRate, produced produceSpeed 0 addRate = 0

def Growth.exact : Growth where
  produced produceSpeed time addRate := produceSpeed*time*(1000+addRate)/3600000
  still produceSpeed addRate := by rw [Int.mul_zero,Int.zero_mul,Int.zero_ediv]

inductive RoleResourcesAction where
  | reward | scout | plunder

-- os.time(), s_BuildingResourcesProduce by type and level, and the arithmetic.
structure Moment where
  now : Int
  produce : BuildingType → Nat → Option Produce
  growth : Growth

section moment
variable (m : Moment)

def gatherMax (config : Produce) (addRate : Int) : Int := config.gatherMax*(1000+addRate)/1000

-- addNum of the four places that have the formula.
def addNum (config : Produce) (addRate : Int) (buildingGainInfo : Option GainInfo) : Int :=
  let info := buildingGainInfo.getD ⟨0,m.now⟩
  if info.num < gatherMax config addRate then
    min (info.num+m.growth.produced config.produceSpeed (m.now-info.changeTime) addRate) (gatherMax config addRate)
  else info.num

def addRate (city : City) (type : BuildingType) : Int := (type.resource.bind city.capacityMulti).getD 0

def changeBuildingGain (resource : Resource) (num : Int) (city : City) : City :=
  {city with buildings:=city.buildings.mapValues (fun building =>
    if building.type.resource = some resource then (m.produce building.type building.level).elim building (fun config =>
      {building with buildingGainInfo:=some ⟨addNum m config num building.buildingGainInfo,m.now⟩})
    else building)}

def emptied (building : Building) : Building := {building with buildingGainInfo:=some ⟨0,m.now⟩}

-- The locals of awardResources: what it has done to the city, totalNum, and type.
structure Award where
  city : City
  totalNum : Int
  type : Option BuildingType

-- An index without a building leaves type nil. A type or level that produces nothing has no
-- config and raises, with what was done before.
def awardOn (index : Nat) (s : Award) : Except City Award :=
  match s.city.buildings.lookup index with
  | none => .ok {s with type:=none}
  | some building =>
    if 0 < building.level then
      match m.produce building.type building.level with
      | none => .error s.city
      | some config => .ok ⟨{s.city with buildings:=s.city.buildings.insert index (emptied m building)},
          s.totalNum+addNum m config (addRate s.city building.type) building.buildingGainInfo,some building.type⟩
    else .ok {s with type:=some building.type}

def awardLoop : List Nat → Award → Except City Award
  | [],s => .ok s
  | index::rest,s =>
    match awardOn m index s with
    | .ok s => awardLoop rest s
    | .error city => .error city

-- BuildingLogic:awardResources. One kind gets it all.
def awardResources (buildingIndexs : List Nat) (city : City) : Except City City :=
  match awardLoop m buildingIndexs ⟨city,0,none⟩ with
  | .error left => .error left
  | .ok s => .ok ((s.type.bind BuildingType.resource).elim s.city (fun resource =>
      {s.city with stored:=Function.update s.city.stored resource (s.city.stored resource+s.totalNum)}))

-- What both actions below make of a building: none raises, some none passes it over.
def buildingGain (city : City) (building : Building) : Option (Option (Resource×Int)) :=
  match building.type.resource with
  | none => some none
  | some resource =>
    if 0 < building.level then
      (m.produce building.type building.level).map (fun config =>
        some (resource,addNum m config (addRate city building.type) building.buildingGainInfo))
    else some none

def addTotal (totals : Resource → Int) (gain : Resource×Int) : Resource → Int :=
  Function.update totals gain.1 (totals gain.1+gain.2)

def scoutLoop (city : City) : List Nat → (Resource → Int) → Option (Resource → Int)
  | [],totals => some totals
  | index::rest,totals =>
    match city.buildings.lookup index with
    | none => scoutLoop city rest totals
    | some building =>
      match buildingGain m city building with
      | none => none
      | some none => scoutLoop city rest totals
      | some (some gain) => scoutLoop city rest (addTotal totals gain)

def scout (order : Order Nat) (city : City) : Option (Resource → Int) :=
  scoutLoop m city (order.visit city.buildings.keys) (fun _ => 0)

-- The buildings are those read at the beginning; with onlyCache nothing is collected.
def plunderLoop (onlyCache : Bool) (city : City) : List Nat → (Resource → Int) → Table Nat Building → Option (Resource → Int)×Table Nat Building
  | [],totals,buildings => (some totals,buildings)
  | index::rest,totals,buildings =>
    match city.buildings.lookup index with
    | none => plunderLoop onlyCache city rest totals buildings
    | some building =>
      match buildingGain m city building with
      | none => (none,buildings)
      | some none => plunderLoop onlyCache city rest totals buildings
      | some (some gain) => plunderLoop onlyCache city rest (addTotal totals gain)
          (if onlyCache then buildings else buildings.insert index (emptied m building))

def plunder (order : Order Nat) (onlyCache : Bool) (city : City) : Option (Resource → Int)×City :=
  let (totals,buildings) := plunderLoop m onlyCache city (order.visit city.buildings.keys) (fun _ => 0) city.buildings
  (totals,{city with buildings})

inductive ErrorCode where
  | buildingIndexError | buildingCreateing
  deriving DecidableEq

-- response.GetBuildResources of the proxy, before it asks for the resources.
def checkIndexs (city : City) : Option (List Nat) → Except ErrorCode (List Nat)
  | none => .error .buildingIndexError
  | some buildingIndexs =>
    if buildingIndexs.any (fun index => (city.buildings.lookup index).any (fun building => building.level = 0)) then .error .buildingCreateing
    else .ok buildingIndexs

end moment
end OriginGame.BuildingRoleMgr
