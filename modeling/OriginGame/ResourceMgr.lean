import OriginGame.NestedTable
import OriginGame.Runs

namespace OriginGame.ResourceMgr

abbrev Pos := Int × Int

structure GatherType where
  timeLimit : Int
  resAmount : Int

structure Config where
  s_ResourceGatherType : Nat → GatherType
  getZoneIndexByPos : Pos → Nat
  getPosTerritoryId : Pos → Nat

structure Resource where
  resourceId : Nat
  zoneIndex : Nat
  resourceTypeId : Nat
  refreshTime : Int
  pos : Pos
  collectRid : Option Int
  collectSpeed : Option Int
  collectTime : Option Int
  armyIndex : Option Nat
  resourceAmount : Int
  territoryId : Nat

def Resource.collected (info : Resource) : Bool := info.collectRid.any (0 < ·)

structure TimeOut where
  timerId : Nat
  resourceIndexs : Table Nat Unit

-- `timers` has the sessions of Timer.runAt that have neither run nor been deleted.
structure State where
  now : Int
  resources : Table Nat Resource
  resourceDict : Table Nat Nat
  zoneResources : NestedTable Nat Nat Unit
  territoryResources : NestedTable Nat Nat Unit
  resourceTimers : Table Int TimeOut
  timers : Table Nat Int
  timerId : Nat

section service
variable (cfg : Config)

def endTime (info : Resource) : Int := info.refreshTime+(cfg.s_ResourceGatherType info.resourceTypeId).timeLimit

-- The index of a node goes into the timer of its end, which is made if it is not there.
def addTimeOut (s : State) (endTime : Int) (resourceIndex : Nat) : State :=
  match s.resourceTimers.lookup endTime with
  | some timer => {s with resourceTimers:=s.resourceTimers.insert endTime {timer with resourceIndexs:=timer.resourceIndexs.insert resourceIndex ()}}
  | none => {s with
      resourceTimers:=s.resourceTimers.insert endTime ⟨s.timerId,AList.singleton resourceIndex ()⟩
      timers:=s.timers.insert s.timerId endTime
      timerId:=s.timerId+1}

-- What addResource and addResourceInfo write.
def enterTables (s : State) (resourceIndex : Nat) (info : Resource) : State :=
  let s := {s with
    resources:=s.resources.insert resourceIndex info
    resourceDict:=s.resourceDict.insert info.resourceId resourceIndex
    zoneResources:=NestedTable.put s.zoneResources info.zoneIndex resourceIndex ()
    territoryResources:=NestedTable.put s.territoryResources info.territoryId resourceIndex ()}
  addTimeOut s (endTime cfg info) resourceIndex

def addResource (s : State) (resourceId resourceIndex resourceTypeId : Nat) (pos : Pos) (refreshTime : Int) (zoneIndex : Nat) : State :=
  enterTables cfg s resourceIndex
    ⟨resourceId,zoneIndex,resourceTypeId,refreshTime,pos,none,none,none,none,(cfg.s_ResourceGatherType resourceTypeId).resAmount,cfg.getPosTerritoryId pos⟩

-- What resourceTimeOut and collectFinish take out of the tables of a node.
def leaveTables (s : State) (resourceIndex : Nat) (info : Resource) : State :=
  {s with
    resources:=s.resources.erase resourceIndex
    resourceDict:=s.resourceDict.erase info.resourceId
    zoneResources:=NestedTable.drop s.zoneResources info.zoneIndex resourceIndex
    territoryResources:=NestedTable.prune (NestedTable.drop s.territoryResources info.territoryId resourceIndex) info.territoryId}

-- The last index takes the timer with it.
def leaveTimeOut (s : State) (deleteTime : Int) (resourceIndex : Nat) : State :=
  match s.resourceTimers.lookup deleteTime with
  | none => s
  | some timer =>
    if resourceIndex ∈ timer.resourceIndexs then
      let resourceIndexs := timer.resourceIndexs.erase resourceIndex
      if resourceIndexs.keys = [] then {s with resourceTimers:=s.resourceTimers.erase deleteTime, timers:=s.timers.erase timer.timerId}
      else {s with resourceTimers:=s.resourceTimers.insert deleteTime {timer with resourceIndexs}}
    else s

-- `gathered` is what the speeds come to, `load` what the army can still carry. A node that
-- is not there, or that nobody began to gather, raises.
def collectFinish (s : State) (resourceIndex : Nat) (gathered load : Int) : State :=
  match s.resources.lookup resourceIndex with
  | none => s
  | some info =>
    if info.collectTime = none then s
    else
      let collectNum := if info.resourceAmount < gathered then info.resourceAmount else gathered
      let collectAmount := if collectNum < load then collectNum else load
      let deleteTime := endTime cfg info
      if info.resourceAmount ≤ collectNum ∨ deleteTime ≤ s.now then leaveTables (leaveTimeOut s deleteTime resourceIndex) resourceIndex info
      else {s with resources:=s.resources.insert resourceIndex {info with
        collectRid:=none, collectTime:=none, collectSpeed:=none, armyIndex:=none, resourceAmount:=info.resourceAmount-collectAmount}}

def collectResource (s : State) (rid : Int) (armyIndex resourceIndex : Nat) (collectSpeed : Int) : State :=
  match s.resources.lookup resourceIndex with
  | none => s
  | some info =>
    if info.collected then s
    else {s with resources:=s.resources.insert resourceIndex {info with
      collectRid:=some rid, collectTime:=some s.now, armyIndex:=some armyIndex, collectSpeed:=some collectSpeed}}

-- What is kept of a node over a restart.
structure ResourceInfo where
  resourceId : Nat
  refreshTime : Int
  objectPos : Pos
  collectRid : Option Int
  collectSpeed : Option Int
  collectTime : Option Int
  resourceAmount : Int
  armyIndex : Option Nat

-- For a node that is gathered armyLoadChange follows, which may end the gathering at once.
def addResourceInfo (s : State) (resourceId resourceIndex : Nat) (info : ResourceInfo) (finish : Option (Int × Int)) : State :=
  let added : Resource := ⟨resourceId,cfg.getZoneIndexByPos info.objectPos,info.resourceId,info.refreshTime,info.objectPos,info.collectRid,info.collectSpeed,
    info.collectTime,info.armyIndex,info.resourceAmount,cfg.getPosTerritoryId info.objectPos⟩
  let s := enterTables cfg s resourceIndex added
  if added.collected then finish.elim s (fun load => collectFinish cfg s resourceIndex load.1 load.2) else s

-- A node that is gathered is left to the end of gathering.
def timeOutOf (s : State) (resourceIndex : Nat) : State :=
  match s.resources.lookup resourceIndex with
  | none => s
  | some info => if info.collected then s else leaveTables s resourceIndex info

def resourceTimeOut (order : Order Nat) (s : State) (time : Int) : State :=
  let resourceIndexs := ((s.resourceTimers.lookup time).map (·.resourceIndexs)).getD ∅
  let s := Table.forEach order resourceIndexs (fun s resourceIndex _ => timeOutOf s resourceIndex) s
  {s with resourceTimers:=s.resourceTimers.erase time}

inductive Label where
  | addResource (resourceId resourceIndex resourceTypeId : Nat) (pos : Pos) (refreshTime : Int) (zoneIndex : Nat)
  | addResourceInfo (resourceId resourceIndex : Nat) (info : ResourceInfo) (finish : Option (Int × Int))
  | collectResource (rid : Int) (armyIndex resourceIndex : Nat) (collectSpeed : Int)
  | collectFinish (resourceIndex : Nat) (gathered load : Int)
  | resourceTimeOut (order : Order Nat) (timerId : Nat)
  | wait (seconds : Nat)

-- A timer runs at its time or later, and once.
def next (s : State) : Label → State
  | .addResource resourceId resourceIndex resourceTypeId pos refreshTime zoneIndex =>
    addResource cfg s resourceId resourceIndex resourceTypeId pos refreshTime zoneIndex
  | .addResourceInfo resourceId resourceIndex info finish => addResourceInfo cfg s resourceId resourceIndex info finish
  | .collectResource rid armyIndex resourceIndex collectSpeed => collectResource s rid armyIndex resourceIndex collectSpeed
  | .collectFinish resourceIndex gathered load => collectFinish cfg s resourceIndex gathered load
  | .resourceTimeOut order timerId =>
    match s.timers.lookup timerId with
    | none => s
    | some time => if s.now < time then s else {resourceTimeOut order s time with timers:=s.timers.erase timerId}
  | .wait seconds => {s with now:=s.now+seconds}

end service

-- Objects that enter the map have fresh ids.
def Fresh (s : State) : Label → Prop
  | .addResource resourceId resourceIndex .. | .addResourceInfo resourceId resourceIndex .. => resourceIndex ∉ s.resources ∧ resourceId ∉ s.resourceDict
  | _ => True

def started (now : Int) : State := ⟨now,∅,∅,∅,∅,∅,∅,0⟩

-- All tables name the nodes that are there, each under its own entries.
structure Listed (s : State) : Prop where
  dict : ∀ resourceIndex info, s.resources.lookup resourceIndex = some info → s.resourceDict.lookup info.resourceId = some resourceIndex
  known : ∀ resourceId resourceIndex, s.resourceDict.lookup resourceId = some resourceIndex →
    ∃ info, s.resources.lookup resourceIndex = some info ∧ info.resourceId = resourceId
  zone : ∀ zoneIndex resourceIndex, NestedTable.find s.zoneResources zoneIndex resourceIndex = some () ↔
    ∃ info, s.resources.lookup resourceIndex = some info ∧ info.zoneIndex = zoneIndex
  territory : ∀ territoryId resourceIndex, NestedTable.find s.territoryResources territoryId resourceIndex = some () ↔
    ∃ info, s.resources.lookup resourceIndex = some info ∧ info.territoryId = territoryId

structure Agrees (cfg : Config) (s : State) : Prop extends Listed s where
  timed : ∀ time timer, s.resourceTimers.lookup time = some timer → ∀ resourceIndex ∈ timer.resourceIndexs,
    ∃ info, s.resources.lookup resourceIndex = some info ∧ endTime cfg info = time

end OriginGame.ResourceMgr
