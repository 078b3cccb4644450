import OriginGame.LuaTable
import OriginGame.Runs

namespace OriginGame.BuildingLogic

-- CFG.s_BuildingLevelData's buildingTime, by ID: type * 100 + level.
abbrev LevelData := Nat → Option Int

structure Building where
  type : Nat
  level : Nat
  finishTime : Int
  deriving DecidableEq

-- The level after the one the building has.
def Building.nextLevel (data : LevelData) (building : Building) : Option Int := data (building.type*100+building.level+1)

-- One entry of buildQueue. `construction` is not the source's: it numbers what the queue was last given.
structure QueueInfo where
  expiredTime : Int
  finishTime : Int
  firstFinishTime : Int
  beginTime : Int
  costTime : Int
  buildingIndex : Nat
  timerId : Option Nat
  construction : Option Nat
  deriving DecidableEq

-- As createBuildQueue and unlockQueueImpl put it in.
def QueueInfo.unused (expiredTime : Int) : QueueInfo := ⟨expiredTime,-1,-1,0,0,0,none,none⟩

-- addBuildTimer's time and arguments.
structure Timer where
  time : Int
  buildingIndex : Nat
  queueIndex : Nat
  deriving DecidableEq

-- What was begun, with the level the building had, and what came of it. A level increase is
-- written down with its time and the finish time the queue had, less what a speed-up took off.
structure Construction where
  buildingIndex : Nat
  queueIndex : Nat
  level : Nat
  deriving DecidableEq

inductive End where
  | raised (buildingIndex level : Nat) (time finishTime : Int)
  | cancelled (buildingIndex : Nat)
  deriving DecidableEq

-- speedUp between its calls, with its own copy of the queue until it has looked at the time.
inductive SpeedUp where
  | read (queueIndex : Nat) (sec : Int) (queue : QueueInfo)
  | deleted (queueIndex : Nat) (sec : Int) (queue : QueueInfo)
  | upGradeBuildCallBack (queueIndex : Nat) (sec : Int) (buildingIndex : Nat)
  | updateBuildTimer (queueIndex : Nat) (sec : Int)
  deriving DecidableEq

-- One role's buildings and queues, its build timers that have not fired, the callbacks of those
-- that have, by timer, and its speed-up under way. The last two fields are the account of it all.
structure Works where
  buildings : Table Nat Building
  buildQueue : Table Nat QueueInfo
  timers : Table Nat Timer
  timerIndex : Nat
  calls : Table Nat Timer
  speeding : Option SpeedUp
  constructions : List Construction
  ends : List (Option Nat×End)

inductive Reply where
  | building (buildingIndex : Nat)
  | buildingNotFreeQueue
  | nothing
  deriving DecidableEq

namespace Works

def deleteBuildTimer (w : Works) : Option Nat → Works
  | none => w
  | some timerId => {w with timers:=w.timers.erase timerId}

def addBuildTimer (w : Works) (time : Int) (buildingIndex queueIndex : Nat) : Works :=
  {w with timers:=w.timers.insert w.timerIndex ⟨time,buildingIndex,queueIndex⟩, timerIndex:=w.timerIndex+1}

def getFreeBuildingIndex (w : Works) : Nat :=
  ((List.range' 1 w.buildings.keys.length).find? (fun i => (w.buildings.lookup i).isNone)).getD (w.buildings.keys.length+1)

def checkFreeBuildQueue (w : Works) (now : Int) : Bool :=
  w.buildQueue.keys.any (fun queueIndex => (w.buildQueue.lookup queueIndex).any (fun queue => queue.finishTime ≤ now))

-- buildingTime * ( 1000 - buildSpeedMulti ) / 1000 // 1.
def buildTime (buildingTime buildSpeedMulti : Int) : Int := buildingTime*(1000-buildSpeedMulti)/1000

-- The first queue in the order of `pairs` that has nothing to do and does not expire before `needed`.
def freeQueue (w : Works) (order : Order Nat) (needed : Int) : Option Nat :=
  (order.visit w.buildQueue.keys).find? (fun queueIndex => (w.buildQueue.lookup queueIndex).any (fun queue =>
    queue.finishTime < 0 && (queue.expiredTime == -1 || needed ≤ queue.expiredTime)))

-- What both kinds of construction do with the queue they take.
def construct (w : Works) (now buildTime : Int) (queueIndex : Nat) (queue : QueueInfo) (buildingIndex : Nat) (building : Building) : Works :=
  {w.addBuildTimer (now+buildTime) buildingIndex queueIndex with
    buildQueue:=w.buildQueue.insert queueIndex {queue with
      finishTime:=now+buildTime
      firstFinishTime:=now+buildTime
      beginTime:=now
      costTime:=buildTime
      buildingIndex:=buildingIndex
      timerId:=some w.timerIndex
      construction:=some w.constructions.length}
    buildings:=w.buildings.insert buildingIndex {building with finishTime:=now+buildTime}
    constructions:=w.constructions++[⟨buildingIndex,queueIndex,building.level⟩]}

-- `late` is how long it takes to charge the role. The expiry is held against the duration here.
def createBulidingImpl (data : LevelData) (order : Order Nat) (now late : Int) (type : Nat) (buildSpeedMulti : Int) (w : Works) : Works×Reply :=
  match data (type*100+1) with
  | none => (w,.nothing)
  | some buildingTime =>
    let newIndex := w.getFreeBuildingIndex
    if buildingTime = 0 then ({w with buildings:=w.buildings.insert newIndex ⟨type,1,-1⟩},.building newIndex)
    else if w.buildQueue.keys = [] then (w,.buildingNotFreeQueue)
    else
      match w.freeQueue order (buildTime buildingTime buildSpeedMulti) with
      | none => (w,.nothing)
      | some queueIndex =>
        match w.buildQueue.lookup queueIndex with
        | none => (w,.nothing)
        | some queue => (w.construct (now+late) (buildTime buildingTime buildSpeedMulti) queueIndex queue newIndex ⟨type,0,0⟩,.building newIndex)

-- And against the finish time here.
def upGradeBulidingImpl (data : LevelData) (order : Order Nat) (now late : Int) (buildingIndex : Nat) (buildSpeedMulti : Int) (w : Works) : Works×Reply :=
  match w.buildings.lookup buildingIndex with
  | none => (w,.nothing)
  | some building =>
    match building.nextLevel data with
    | none => (w,.nothing)
    | some buildingTime =>
      if w.buildQueue.keys = [] then (w,.nothing)
      else
        match w.freeQueue order (now+buildTime buildingTime buildSpeedMulti) with
        | none => (w,.buildingNotFreeQueue)
        | some queueIndex =>
          match w.buildQueue.lookup queueIndex with
          | none => (w,.buildingNotFreeQueue)
          | some queue =>
            (w.construct (now+late) (buildTime buildingTime buildSpeedMulti) queueIndex queue buildingIndex building,.building buildingIndex)

-- The body of upGradeBuildCallBack, which looks at the building only. `less` is what the caller
-- has taken off the finish time of the queue.
def upGradeBuildCallBackImpl (data : LevelData) (now less : Int) (buildingIndex queueIndex : Nat) (w : Works) : Works :=
  match w.buildings.lookup buildingIndex with
  | none => w
  | some building =>
    if building.finishTime ≤ 0 then w
    else if (building.nextLevel data).isNone then w
    else
      let raised := {w with buildings:=w.buildings.insert buildingIndex {building with level:=building.level+1, finishTime:=-1}}
      match w.buildQueue.lookup queueIndex with
      | none => {raised with ends:=w.ends++[(none,.raised buildingIndex (building.level+1) now 0)]}
      | some queue =>
        {raised.deleteBuildTimer queue.timerId with
          buildQueue:=w.buildQueue.insert queueIndex {queue with
            finishTime:=-1, beginTime:=0, costTime:=0, firstFinishTime:=-1, timerId:=none, buildingIndex:=0}
          ends:=w.ends++[(queue.construction,.raised buildingIndex (building.level+1) now (queue.finishTime-less))]}

-- endBuilding's loop over the queues. A building or a level that is not there raises an error.
def endBuildings (data : LevelData) (buildingIndex : Nat) : List Nat → Works → Works
  | [],w => w
  | queueIndex::rest,w =>
    match w.buildQueue.lookup queueIndex with
    | none => endBuildings data buildingIndex rest w
    | some queue =>
      if queue.buildingIndex = buildingIndex ∧ queue.finishTime > 0 then
        match w.buildings.lookup buildingIndex with
        | none => w
        | some building =>
          let buildings := if building.level = 0 then w.buildings.erase buildingIndex else w.buildings
          if (building.nextLevel data).isNone then {w with buildings:=buildings}
          else
            endBuildings data buildingIndex rest {w.deleteBuildTimer queue.timerId with
              buildQueue:=w.buildQueue.insert queueIndex {queue with finishTime:=-2, timerId:=none, beginTime:=0, buildingIndex:=0}
              buildings:=if building.level = 0 then buildings else buildings.insert buildingIndex {building with finishTime:=-1}
              ends:=w.ends++[(queue.construction,.cancelled buildingIndex)]}
      else endBuildings data buildingIndex rest w

def endBuilding (data : LevelData) (order : Order Nat) (buildingIndex : Nat) (w : Works) : Works :=
  w.endBuildings data buildingIndex (order.visit w.buildQueue.keys)

def updateBuildTimer (now : Int) (queueIndex : Nat) (sec : Int) (w : Works) : Works :=
  match w.buildQueue.lookup queueIndex with
  | none => w
  | some queue =>
    if queue.finishTime > now then
      {w.addBuildTimer (queue.finishTime-sec) queue.buildingIndex queueIndex with
        buildQueue:=w.buildQueue.insert queueIndex {queue with finishTime:=queue.finishTime-sec, timerId:=some w.timerIndex}}
    else w

-- speedUp has its copy of the queue.
def speedUp (queueIndex : Nat) (sec : Int) (w : Works) : Works :=
  {w with speeding:=(w.buildQueue.lookup queueIndex).map (.read queueIndex sec)}

-- And goes on to its next call, or out of it.
def speedOn (data : LevelData) (now : Int) (w : Works) : Works :=
  match w.speeding with
  | none => w
  | some (.read queueIndex sec queue) => {w.deleteBuildTimer queue.timerId with speeding:=some (.deleted queueIndex sec queue)}
  | some (.deleted queueIndex sec queue) =>
    let finishTime := queue.finishTime-sec
    {w with speeding:=
      if finishTime > 0 ∧ finishTime ≤ now then some (.upGradeBuildCallBack queueIndex sec queue.buildingIndex)
      else if finishTime > now then some (.updateBuildTimer queueIndex sec)
      else none}
  | some (.upGradeBuildCallBack queueIndex sec buildingIndex) =>
    {w.upGradeBuildCallBackImpl data now sec buildingIndex queueIndex with speeding:=none}
  | some (.updateBuildTimer queueIndex sec) => {w.updateBuildTimer now queueIndex sec with speeding:=none}

-- The timer fires, and its callback waits for roleLock.
def fire (now : Int) (timerId : Nat) (w : Works) : Works :=
  match w.timers.lookup timerId with
  | none => w
  | some timer => if timer.time ≤ now then {w with timers:=w.timers.erase timerId, calls:=w.calls.insert timerId timer} else w

def upGradeBuildCallBack (data : LevelData) (now : Int) (timerId : Nat) (w : Works) : Works :=
  match w.calls.lookup timerId with
  | none => w
  | some timer => {w.upGradeBuildCallBackImpl data now 0 timer.buildingIndex timer.queueIndex with calls:=w.calls.erase timerId}

end Works
end OriginGame.BuildingLogic
