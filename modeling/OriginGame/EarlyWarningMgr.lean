import OriginGame.Handlers
import OriginGame.NestedTable
import OriginGame.RoleType

namespace OriginGame.EarlyWarningMgr
open NestedTable (find)

inductive EarlyWarningType where
  | scout | attack | reinforce | transport
  deriving DecidableEq

structure Heroes where
  mainHeroId : Nat := 0
  mainHeroLevel : Nat := 0
  deputyHeroId : Nat := 0
  deputyHeroLevel : Nat := 0

-- A warning, with the defaults of EarlyWarningDef.
structure EarlyWarningInfo where
  earlyWarningIndex : Nat
  earlyWarningType : EarlyWarningType
  fromObjectIndex : Nat
  objectIndex : Nat
  scoutFromName : String := ""
  scoutObjectType : Option RoleType := none
  arrivalTime : Int
  attackSoldiers : List (Nat×Nat) := []
  isShield : Bool := false
  heroes : Heroes := {}
  armyIndex : Nat := 0
  transportResourceInfo : List (Nat×Int) := []
  transportName : String := ""
  guildAbbr : String := ""
  holyLandId : Nat := 0
  isRally : Bool := false

-- What warnings are told apart by: whom they are for, and what moves where.
structure Pair where
  targetRid : Nat
  objectIndex : Nat
  fromObjectIndex : Nat
  deriving DecidableEq

inductive Carries where
  | scout (heroes : Heroes)
  | attack (soldiers : List (Nat×Nat)) (heroes : Heroes)
  | reinforce (soldiers : List (Nat×Nat)) (heroes : Heroes)
  | transport (resources : List (Nat×Int))

-- The arguments of the messages that add a warning.
structure Notice where
  rid : Nat
  pair : Pair
  arrivalTime : Int
  carries : Carries

structure HolyLandInfo where
  strongHoldId : Nat
  -- getRealHolyLandType of the strong hold and its status
  realType : RoleType
  garrison : Option (List Nat)

-- What the inner requests answer. A garrison is what it has under the target's rid: the
-- indexes of the armies in the order a traversal meets them.
structure Replies where
  name : String
  guildId : Option Int
  abbreviationName : Option String
  objectType : Option RoleType
  fromObject : Option (RoleType×Bool)
  armyIndex : Option Nat
  resourceArmyIndex : Option Nat
  holyLand : Option HolyLandInfo
  guildBuild : Option (Option (List Nat))
  transportIndex : Option Nat

-- A field of an answer that did not come raises, and the handler ends there.
def guildAbbr (r : Replies) : Option String := if r.guildId.any (0 < ·) then r.abbreviationName else some ""

-- The army of the target behind the object that is marched to. `table.first` of an empty
-- garrison raises; only scouts look whether that of a guild build is empty.
def garrisonArmy (info : EarlyWarningInfo) : Option (List Nat) → Option EarlyWarningInfo
  | none => some info
  | some armies => armies.head?.map (fun armyIndex => {info with armyIndex})

def atTarget (emptyBuilds : Bool) (r : Replies) (objectType : RoleType) (info : EarlyWarningInfo) : Option EarlyWarningInfo :=
  if objectType = .army then r.armyIndex.map (fun armyIndex => {info with armyIndex})
  else if objectType.checkIsResourceObject then r.resourceArmyIndex.map (fun armyIndex => {info with armyIndex})
  else if objectType.checkIsHolyLandObject then
    r.holyLand.bind (fun land => garrisonArmy {info with holyLandId:=land.strongHoldId, scoutObjectType:=some land.realType} land.garrison)
  else if objectType.checkIsGuildBuildObject then
    r.guildBuild.bind (fun garrison => if emptyBuilds ∧ garrison = some [] then some info else garrisonArmy info garrison)
  else some info

def addScoutEarlyWarning (n : Notice) (heroes : Heroes) (earlyWarningIndex : Nat) (r : Replies) : Option EarlyWarningInfo := do
  let guildAbbr ← guildAbbr r
  let objectType ← r.objectType
  atTarget true r objectType
    {earlyWarningIndex, earlyWarningType:=.scout, scoutFromName:=r.name, arrivalTime:=n.arrivalTime,
     objectIndex:=n.pair.objectIndex, fromObjectIndex:=n.pair.fromObjectIndex, heroes, guildAbbr, scoutObjectType:=some objectType}

def addAttackEarlyWarning (n : Notice) (attackSoldiers : List (Nat×Nat)) (heroes : Heroes) (earlyWarningIndex : Nat) (r : Replies) :
    Option EarlyWarningInfo := do
  let guildAbbr ← guildAbbr r
  let (fromType,rally) ← r.fromObject
  let objectType ← r.objectType
  atTarget false r objectType
    {earlyWarningIndex, earlyWarningType:=.attack, scoutFromName:=r.name, attackSoldiers,
     arrivalTime:=n.arrivalTime, objectIndex:=n.pair.objectIndex, fromObjectIndex:=n.pair.fromObjectIndex, heroes, guildAbbr,
     isRally:=decide (fromType = .army) && rally, scoutObjectType:=some objectType}

def addReinforceEarlyWarning (n : Notice) (attackSoldiers : List (Nat×Nat)) (heroes : Heroes) (earlyWarningIndex : Nat) (r : Replies) :
    Option EarlyWarningInfo := do
  let guildAbbr ← guildAbbr r
  let objectType ← r.objectType
  atTarget false r objectType
    {earlyWarningIndex, earlyWarningType:=.reinforce, scoutFromName:=r.name, attackSoldiers,
     arrivalTime:=n.arrivalTime, objectIndex:=n.pair.objectIndex, fromObjectIndex:=n.pair.fromObjectIndex, heroes, guildAbbr,
     scoutObjectType:=some objectType}

def addTransportEarlyWarning (n : Notice) (transportResourceInfo : List (Nat×Int)) (earlyWarningIndex : Nat) (r : Replies) :
    Option EarlyWarningInfo := do
  let guildAbbr ← guildAbbr r
  let armyIndex ← r.transportIndex
  some
    {earlyWarningIndex, earlyWarningType:=.transport, guildAbbr, transportName:=r.name, arrivalTime:=n.arrivalTime,
     objectIndex:=n.pair.objectIndex, fromObjectIndex:=n.pair.fromObjectIndex, transportResourceInfo, armyIndex}

def addEarlyWarning (n : Notice) : Nat → Replies → Option EarlyWarningInfo :=
  match n.carries with
  | .scout heroes => addScoutEarlyWarning n heroes
  | .attack soldiers heroes => addAttackEarlyWarning n soldiers heroes
  | .reinforce soldiers heroes => addReinforceEarlyWarning n soldiers heroes
  | .transport resources => addTransportEarlyWarning n resources

abbrev AllEarlyWarningInfo := NestedTable Nat Nat EarlyWarningInfo

def EarlyWarningInfo.about (info : EarlyWarningInfo) (pair : Pair) : Bool :=
  decide (info.objectIndex = pair.objectIndex) && decide (info.fromObjectIndex = pair.fromObjectIndex)

-- Where the loops of the three messages below stop: the first warning of the pair.
def seek (order : Order Nat) (all : AllEarlyWarningInfo) (pair : Pair) : Option Nat :=
  (all.lookup pair.targetRid).bind (fun infos => (order.visit infos.keys).find? (fun index => (infos.lookup index).any (·.about pair)))

def cancleEarlyWarning (order : Order Nat) (all : AllEarlyWarningInfo) (pair : Pair) : AllEarlyWarningInfo :=
  (seek order all pair).elim all (NestedTable.drop all pair.targetRid ·)

def updateFirst (order : Order Nat) (all : AllEarlyWarningInfo) (pair : Pair) (change : EarlyWarningInfo → EarlyWarningInfo) : AllEarlyWarningInfo :=
  (seek order all pair).elim all (NestedTable.adjust all pair.targetRid · change)

def updateAttackerSoldiers (order : Order Nat) (all : AllEarlyWarningInfo) (pair : Pair) (attackSoldiers : List (Nat×Nat)) : AllEarlyWarningInfo :=
  updateFirst order all pair (fun info => {info with attackSoldiers})

def updateEarlyWarningTime (order : Order Nat) (all : AllEarlyWarningInfo) (pair : Pair) (arrivalTime : Int) : AllEarlyWarningInfo :=
  updateFirst order all pair (fun info => {info with arrivalTime})

def shiledEarlyWarning (all : AllEarlyWarningInfo) (rid : Nat) (earlyWarningIndexs : List Nat) : AllEarlyWarningInfo :=
  earlyWarningIndexs.foldl (fun all index => NestedTable.adjust all rid index (fun info => {info with isShield:=true})) all

def checkEarlyWarningTimeout (now : Int) (all : AllEarlyWarningInfo) : AllEarlyWarningInfo :=
  Table.keepValues (fun infos => !infos.keys.isEmpty) (Table.mapValues (Table.keepValues (fun info => decide (now < info.arrivalTime))) all)

-- The messages, which start in the order they are posted, and the check of the timer.
inductive Request where
  | add (n : Notice)
  | cancleEarlyWarning (order : Order Nat) (pair : Pair)
  | updateAttackerSoldiers (order : Order Nat) (pair : Pair) (attackSoldiers : List (Nat×Nat))
  | updateEarlyWarningTime (order : Order Nat) (pair : Pair) (arrivalTime : Int)
  | shiledEarlyWarning (rid : Nat) (earlyWarningIndexs : List Nat)
  | checkEarlyWarningTimeout (now : Int)

structure State where
  allEarlyWarningInfo : AllEarlyWarningInfo
  -- earlyWarningIndex_%d in Redis
  earlyWarningIndex : Nat → Nat
  -- Everything that was started, for the record.
  posted : List Request

-- Where a message that adds waits: for Redis, and for its inner requests.
inductive Stage where
  | incr
  | info (earlyWarningIndex : Nat)

structure Adding where
  notice : Notice
  stage : Stage

def acts (all : AllEarlyWarningInfo) : Request → AllEarlyWarningInfo
  | .add _ => all
  | .cancleEarlyWarning order pair => cancleEarlyWarning order all pair
  | .updateAttackerSoldiers order pair attackSoldiers => updateAttackerSoldiers order all pair attackSoldiers
  | .updateEarlyWarningTime order pair arrivalTime => updateEarlyWarningTime order all pair arrivalTime
  | .shiledEarlyWarning rid earlyWarningIndexs => shiledEarlyWarning all rid earlyWarningIndexs
  | .checkEarlyWarningTimeout now => checkEarlyWarningTimeout now all

def enter (request : Request) (s : State) : State×Option Adding :=
  ({s with allEarlyWarningInfo:=acts s.allEarlyWarningInfo request, posted:=s.posted++[request]},
    match request with
    | .add notice => some ⟨notice,.incr⟩
    | _ => none)

def resume (r : Replies) (adding : Adding) (s : State) : State×Option Adding :=
  let rid := adding.notice.pair.targetRid
  match adding.stage with
  | .incr =>
    let index := s.earlyWarningIndex rid+1
    ({s with earlyWarningIndex:=Function.update s.earlyWarningIndex rid index},some ⟨adding.notice,.info index⟩)
  | .info index => ((addEarlyWarning adding.notice index r).elim s (fun info =>
      {s with allEarlyWarningInfo:=NestedTable.put s.allEarlyWarningInfo rid index info}),none)

def init (earlyWarningIndex : Nat → Nat) : Service State Adding := ⟨⟨∅,earlyWarningIndex,[]⟩,[]⟩

end OriginGame.EarlyWarningMgr
