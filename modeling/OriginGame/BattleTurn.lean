import OriginGame.BattleScene
import OriginGame.Runs

namespace OriginGame.BattleScene

def isRout (objectInfo : ObjectInfo) : Bool := decide (objectInfo.armyCount ≤ 0)

def rout (objects : Objects) : Objects :=
  objects.mapValues (fun objectInfo => if isRout objectInfo then {objectInfo with exitBattleFlag:=true, exitBattleWin:=.fail} else objectInfo)

def checkNoTarget (order : Order Nat) (inRange : Nat → Nat → Bool) (turn : Int) (objects : Objects) (objectIndex : Nat) : Objects :=
  match objects.lookup objectIndex with
  | none => objects
  | some objectInfo =>
    if objectInfo.exitBattleFlag then objects
    else
      match getAttackTarget order inRange turn objects objectIndex with
      | (some _,after) => after
      | (none,after) => leaveBattle after objectIndex

-- Neither follows nor is followed, and has not fought for outOfCombat turns.
def timedOut (outOfCombat turn : Int) (objects : Objects) (objectIndex : Nat) (objectInfo : ObjectInfo) : Bool :=
  !checkArmyStatus objectInfo.status ArmyStatus.followUp &&
  !objects.keys.any (fun other => other ≠ objectIndex && (objects.lookup other).any (fun subObjectInfo =>
    decide (subObjectInfo.attackTargetIndex = objectIndex) && checkArmyStatus subObjectInfo.status ArmyStatus.followUp)) &&
  decide (objectInfo.lastBattleTurn+outOfCombat ≤ turn)

-- The loop changes nothing that it reads.
def turnOutExitBattle (outOfCombat turn : Int) (objects : Objects) : Objects :=
  objects.mapKeyed (fun objectIndex objectInfo =>
    if timedOut outOfCombat turn objects objectIndex objectInfo then {objectInfo with exitBattleFlag:=true, exitBattleWin:=.noResult} else objectInfo)

-- Objects that do not leave; if one is left, it leaves too.
def lastSurvivor (objects : Objects) : Objects :=
  match objects.keys.filter (fun objectIndex => (objects.lookup objectIndex).any (fun objectInfo => !objectInfo.exitBattleFlag)) with
  | [objectIndex] =>
    let result (objectInfo : ObjectInfo) :=
      if checkArmyWalkStatus objectInfo.status then BattleResult.noResult
      else if checkOtherAllFail objects objectIndex then .win else .noResult
    objects.modify objectIndex (fun objectInfo => {objectInfo with exitBattleFlag:=true, exitBattleWin:=result objectInfo})
  | _ => objects

-- The checks between the fights and the skills that a defeat triggers; nothing waits in them.
structure Checks where
  order : Order Nat
  targetOrder : Nat → Order Nat
  inRange : Nat → Nat → Bool
  outOfCombat : Int

def noTarget (checks : Checks) (turn : Int) (objects : Objects) : Objects :=
  (checks.order.visit objects.keys).foldl (fun objects objectIndex =>
    checkNoTarget (checks.targetOrder objectIndex) checks.inRange turn objects objectIndex) objects

def check (checks : Checks) (turn : Int) (objects : Objects) : Objects :=
  lastSurvivor (turnOutExitBattle checks.outOfCombat turn (noTarget checks turn (rout objects)))

-- Who has been beaten leaves first.
inductive Pass where
  | fails | others

def Pass.picks : Pass → BattleResult → Bool
  | .fails,result => decide (result = .fail)
  | .others,result => decide (result ≠ .fail)

def Pass.takes (pass : Pass) (objectInfo : ObjectInfo) : Bool := objectInfo.exitBattleFlag && pass.picks objectInfo.exitBattleWin

-- Where the turn of a scene is: with the objects still to be visited, and where it
-- waits for the report of one.
inductive Work where
  | idle
  | fight (rest : List Nat)
  | checked
  | pass (pass : Pass) (rest : List Nat)
  | reporting (pass : Pass) (objectIndex : Nat) (result : BattleResult) (rest : List Nat)
  | deleting

structure Scene where
  objectInfos : Objects
  turn : Int
  work : Work
  isBattleMerged : Bool
  reportUniqueIndex : Nat

-- An object at the end of a turn: what it has been reported with, whether it had lost
-- all soldiers at the checks and has none now, and whether all it fought were beaten.
structure Ended where
  objectIndex : Nat
  leaves : Bool
  results : List BattleResult
  routed : Bool
  dead : Bool
  beats : Bool

-- What has happened. An object has been told off when objectEndBattle went through for
-- it; the notification of the game server comes later.
structure Log where
  told : Nat → List BattleResult
  asked : Nat → Bool
  routed : Nat → Bool
  pending : List (Nat × BattleResult)
  reports : List (Nat × BattleResult)
  ends : List Ended

-- Not the second time for an object that was made to leave.
def objectEndBattle (objects : Objects) (objectIndex : Nat) : Option Objects :=
  (objects.lookup objectIndex).bind (fun objectInfo =>
    if 2 ≤ objectInfo.exitBattleBlockBlag then none
    else if objectInfo.exitBattleBlockBlag = 1 then some (objects.modify objectIndex (fun objectInfo => {objectInfo with exitBattleBlockBlag:=2}))
    else some objects)

def Log.tell (log : Log) (objectIndex : Nat) (result : BattleResult) : Log :=
  {log with told:=Function.update log.told objectIndex (log.told objectIndex++[result])}

def objectExitBattle (scene : Scene) (log : Log) (objectIndex : Nat) (block : Bool) : Scene × Log :=
  if objectIndex ∈ scene.objectInfos then
    let objects := scene.objectInfos.modify objectIndex (fun objectInfo =>
      {objectInfo with exitBattleWin:=.noResult, exitBattleFlag:=true, exitBattleBlockBlag:=1})
    let log := {log with asked:=Function.update log.asked objectIndex true}
    match if block then objectEndBattle objects objectIndex else none with
    | some objects => ({scene with objectInfos:=objects},{(log.tell objectIndex .noResult) with pending:=log.pending++[(objectIndex,.noResult)]})
    | none => ({scene with objectInfos:=objects},log)
  else (scene,log)

-- The next object of a pass.
def visit (scene : Scene) (log : Log) (pass : Pass) (objectIndex : Nat) (rest : List Nat) : Scene × Log :=
  match (scene.objectInfos.lookup objectIndex).filter pass.takes with
  | none => ({scene with work:=.pass pass rest},log)
  | some objectInfo =>
    match objectEndBattle scene.objectInfos objectIndex with
    | none => ({scene with objectInfos:=leave scene.objectInfos objectIndex, work:=.pass pass rest},log)
    | some objects => ({scene with objectInfos:=objects, work:=.reporting pass objectIndex objectInfo.exitBattleWin rest},
        log.tell objectIndex objectInfo.exitBattleWin)

-- Those it attacks, and those that attack it by themselves.
def opposes (objects : Objects) (objectIndex other : Nat) : Bool :=
  (objects.lookup objectIndex).any (fun objectInfo => decide (objectInfo.attackTargetIndex = other)) ||
    (objects.lookup other).any (fun objectInfo => !objectInfo.tmpObjectFlag && decide (objectInfo.attackTargetIndex = objectIndex))

def opponents (objects : Objects) (objectIndex : Nat) : List Nat := objects.keys.filter (opposes objects objectIndex)

-- Has soldiers and stands, was not asked to leave, and all it fought are reported beaten.
def beats (objects : Objects) (log : Log) (objectIndex : Nat) (objectInfo : ObjectInfo) : Bool :=
  !isRout objectInfo && !checkArmyWalkStatus objectInfo.status && !log.asked objectIndex && opponents objects objectIndex ≠ [] &&
  (opponents objects objectIndex).all (fun other => log.told other = [.fail])

def ended (objects : Objects) (log : Log) : List Ended :=
  objects.entries.map (fun entry => ⟨entry.1,entry.2.exitBattleFlag,log.told entry.1,log.routed entry.1,isRout entry.2,beats objects log entry.1 entry.2⟩)

def leaves (objects : Objects) (objectIndex : Nat) : Bool := (objects.lookup objectIndex).any (·.exitBattleFlag)

-- The end of a turn; an empty scene is deleted.
def remove (scene : Scene) (log : Log) : Scene × Log :=
  let objects := scene.objectInfos
  let rest := objects.keepValues (fun objectInfo => !objectInfo.exitBattleFlag)
  (if rest.keys = [] then {scene with objectInfos:=rest, work:=.deleting} else {scene with objectInfos:=rest, work:=.idle, turn:=scene.turn+1},
    {log with
      told:=fun objectIndex => if leaves objects objectIndex then [] else log.told objectIndex,
      asked:=fun objectIndex => log.asked objectIndex && !leaves objects objectIndex,
      routed:=fun _ => false, ends:=log.ends++ended objects log})

-- `hurt` and `heal` are what damage and healing leave of the soldiers, `enter` an object
-- that a skill hits outside the battle, `report` and `send` the end of objectEndBattle
-- in the turn and for a request; it may fail before the notification.
inductive TurnLabel where
  | begin (order : Order Nat)
  | attack (order : Order Nat) (inRange : Nat → Nat → Bool)
  | hurt (objectIndex : Nat) (armyCount : Int)
  | heal (objectIndex : Nat) (armyCount : Int) (refreshed : Bool)
  | enter (objectIndex : Nat) (objectInfo : ObjectInfo) (attackIndex : Nat)
  | insertBattleReport (defenseIndex : Nat)
  | check (checks : Checks)
  | pass (order : Order Nat)
  | visit
  | report (sent : Bool)
  | remove
  | exit (objectIndex : Nat) (block : Bool)
  | send (index : Nat) (sent : Bool)

def Scene.change (scene : Scene) (objectIndex : Nat) (change : ObjectInfo → ObjectInfo) : Scene :=
  {scene with objectInfos:=scene.objectInfos.modify objectIndex change}

def turnStep (scene : Scene) (log : Log) : TurnLabel → Scene × Log
  | .begin order =>
    match scene.work with
    | .idle => (if scene.isBattleMerged then scene else {scene with work:=.fight (order.visit scene.objectInfos.keys)},log)
    | _ => (scene,log)
  | .attack order inRange =>
    match scene.work with
    | .fight (attackIndex::rest) =>
      ({scene with objectInfos:=attack order inRange scene.turn scene.objectInfos attackIndex, work:=.fight rest},log)
    | _ => (scene,log)
  | .hurt objectIndex armyCount =>
    (scene.change objectIndex (fun objectInfo => {objectInfo with armyCount:=armyCount, lastBattleTurn:=scene.turn}),log)
  | .heal objectIndex armyCount refreshed => (scene.change objectIndex (fun objectInfo =>
    {objectInfo with armyCount:=armyCount, lastBattleTurn:=if refreshed then scene.turn else objectInfo.lastBattleTurn}),log)
  | .enter objectIndex objectInfo attackIndex => ({scene with objectInfos:=enterBattle scene.objectInfos objectIndex objectInfo attackIndex},log)
  | .insertBattleReport defenseIndex =>
    ({(scene.change defenseIndex (fun objectInfo => {objectInfo with battleReport:=objectInfo.battleReport++[scene.reportUniqueIndex]})) with
      reportUniqueIndex:=scene.reportUniqueIndex+1},log)
  | .check checks =>
    match scene.work with
    | .fight [] => ({scene with objectInfos:=check checks scene.turn scene.objectInfos, work:=.checked},
      {log with routed:=fun objectIndex => (scene.objectInfos.lookup objectIndex).any isRout})
    | _ => (scene,log)
  | .pass order =>
    match scene.work with
    | .checked => ({scene with work:=.pass .fails (order.visit scene.objectInfos.keys)},log)
    | .pass .fails [] => ({scene with work:=.pass .others (order.visit scene.objectInfos.keys)},log)
    | _ => (scene,log)
  | .visit =>
    match scene.work with
    | .pass pass (objectIndex::rest) => visit scene log pass objectIndex rest
    | _ => (scene,log)
  | .report sent =>
    match scene.work with
    | .reporting pass objectIndex result rest =>
      ({scene with objectInfos:=leave scene.objectInfos objectIndex, work:=.pass pass rest},
        {log with reports:=log.reports++(if sent then [(objectIndex,result)] else [])})
    | _ => (scene,log)
  | .remove =>
    match scene.work with
    | .pass .others [] => remove scene log
    | _ => (scene,log)
  | .exit objectIndex block => objectExitBattle scene log objectIndex block
  | .send index sent =>
    (scene,{log with pending:=log.pending.eraseIdx index, reports:=log.reports++(if sent then log.pending[index]?.toList else [])})

end OriginGame.BattleScene
