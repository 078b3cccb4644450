import OriginGame.BattleReports

namespace OriginGame.BattleScene

-- Every battle server counts its battles by itself.
structure Address where
  node : Nat
  battleIndex : Nat
  deriving DecidableEq

-- mergeBattle runs on the node of the battle that it deletes. It waits for the objects of
-- that battle, then for the battle it adds them to. `target` is the battle of the object
-- that is attacked.
inductive Merge where
  | waits (node deleteBattleIndex : Nat) (target : Address) (attackIndex defenseIndex : Nat)
  | adds (node : Nat) (target : Address) (objectInfos : Objects) (reportUniqueIndex attackIndex defenseIndex : Nat)

def Merge.objectInfos : Merge → Objects
  | .waits .. => ∅
  | .adds _ _ objectInfos .. => objectInfos

structure World where
  scenes : Table Address Scene
  merges : Table Nat Merge
  log : Log

def World.write (w : World) (address : Address) (scene : Scene) (log : Log) : World :=
  {w with scenes:=w.scenes.insert address scene, log}

def addBattleScene (w : World) (address : Address) (scene : Scene) : World :=
  if address ∈ w.scenes then w else w.write address scene w.log

-- A new object, also in the place of an old one.
def Log.enter (log : Log) (objectIndex : Nat) : Log :=
  {log with told:=Function.update log.told objectIndex [], asked:=Function.update log.asked objectIndex false}

def joinScene (w : World) (address : Address) (objectIndex : Nat) (objectInfo : ObjectInfo) (targetIndex : Nat) : World :=
  match w.scenes.lookup address with
  | none => w
  | some scene =>
    if targetIndex ∈ scene.objectInfos then
      w.write address {scene with objectInfos:=objectJoinBattle scene.turn scene.objectInfos objectIndex objectInfo targetIndex} (w.log.enter objectIndex)
    else w

def turnScene (w : World) (address : Address) (label : TurnLabel) : World :=
  match w.scenes.lookup address with
  | none => w
  | some scene => w.write address (turnStep scene w.log label).1 (turnStep scene w.log label).2

-- The test of the loop that waits, with what comes after it.
def afterTurn (w : World) (id node deleteBattleIndex : Nat) (target : Address) (attackIndex defenseIndex : Nat) : World :=
  match w.scenes.lookup ⟨node,deleteBattleIndex⟩ with
  | none => {w with merges:=w.merges.erase id}
  | some scene =>
    match scene.work with
    | .idle => {w with
        scenes:=w.scenes.erase ⟨node,deleteBattleIndex⟩
        merges:=w.merges.insert id (.adds node target scene.objectInfos scene.reportUniqueIndex attackIndex defenseIndex)}
    | _ => {w with merges:=w.merges.insert id (.waits node deleteBattleIndex target attackIndex defenseIndex)}

def getObjectInfoAfterTurn (w : World) (id node deleteBattleIndex : Nat) (target : Address) (attackIndex defenseIndex : Nat) : World :=
  afterTurn {w with scenes:=w.scenes.modify ⟨node,deleteBattleIndex⟩ (fun scene => {scene with isBattleMerged:=true})}
    id node deleteBattleIndex target attackIndex defenseIndex

def addScene (w : World) (id node : Nat) (target : Address) (objectInfos : Objects) (reportUniqueIndex attackIndex defenseIndex : Nat) : World :=
  match w.scenes.lookup ⟨node,target.battleIndex⟩ with
  | none => {w with merges:=w.merges.erase id}
  | some scene => {w with
      scenes:=w.scenes.insert ⟨node,target.battleIndex⟩ {scene with
        objectInfos:=multiObjectAddBattle scene.turn scene.objectInfos objectInfos attackIndex defenseIndex
        reportUniqueIndex:=max scene.reportUniqueIndex reportUniqueIndex}
      merges:=w.merges.erase id}

-- `send` ends an exit request, whose scene may be gone by then; `deleteBattleScene` comes
-- from a scene without objects or from the end of an expedition.
inductive MergeLabel where
  | createBattle (address : Address) (objectInfos : Objects)
  | joinBattle (address : Address) (objectIndex : Nat) (objectInfo : ObjectInfo) (targetIndex : Nat)
  | turn (address : Address) (label : TurnLabel)
  | send (index : Nat) (sent : Bool)
  | deleteBattleScene (address : Address)
  | mergeBattle (id node deleteBattleIndex : Nat) (target : Address) (attackIndex defenseIndex : Nat)
  | wake (id : Nat)
  | add (id : Nat)

def mergeStep (w : World) : MergeLabel → World
  | .createBattle address objectInfos => addBattleScene w address ⟨createBattle objectInfos,1,.idle,false,0⟩
  | .joinBattle address objectIndex objectInfo targetIndex => joinScene w address objectIndex objectInfo targetIndex
  | .turn address label => turnScene w address label
  | .send index sent => {w with log:={w.log with
      pending:=w.log.pending.eraseIdx index, reports:=w.log.reports++(if sent then w.log.pending[index]?.toList else [])}}
  | .deleteBattleScene address => {w with scenes:=w.scenes.erase address}
  | .mergeBattle id node deleteBattleIndex target attackIndex defenseIndex =>
    if id ∈ w.merges then w else getObjectInfoAfterTurn w id node deleteBattleIndex target attackIndex defenseIndex
  | .wake id =>
    match w.merges.lookup id with
    | some (.waits node deleteBattleIndex target attackIndex defenseIndex) => afterTurn w id node deleteBattleIndex target attackIndex defenseIndex
    | _ => w
  | .add id =>
    match w.merges.lookup id with
    | some (.adds node target objectInfos reportUniqueIndex attackIndex defenseIndex) =>
      addScene w id node target objectInfos reportUniqueIndex attackIndex defenseIndex
    | _ => w

def nowhere : World := ⟨∅,∅,⟨fun _ => [],fun _ => false,fun _ => false,[],[],[]⟩⟩

-- How often an object is in a table.
def within (objectIndex : Nat) (objects : Objects) : Int := if objectIndex ∈ objects then 1 else 0

-- In how many scenes an object is and in how many merges between two of them.
def places (w : World) (objectIndex : Nat) : Int :=
  w.scenes.sumOver (fun scene => within objectIndex scene.objectInfos)+w.merges.sumOver (fun merge => within objectIndex merge.objectInfos)

-- The game server has been told that the object left, or is about to be told.
def Announced (w : World) (result : Nat × BattleResult) : Prop :=
  result ∈ w.log.reports ∨ result ∈ w.log.pending ∨ ∃ address scene, w.scenes.lookup address = some scene ∧ result ∈ scene.work.current

def reportsOf (objects : Objects) (objectIndex : Nat) : List Nat := (objects.lookup objectIndex).elim [] (·.battleReport)

-- Reports have numbers of their own, below the next one.
structure Numbered (objects : Objects) (reportUniqueIndex : Nat) : Prop where
  nodup : ∀ i, (reportsOf objects i).Nodup
  apart : ∀ i j, ∀ report ∈ reportsOf objects i, report ∈ reportsOf objects j → i = j
  below : ∀ i, ∀ report ∈ reportsOf objects i, report < reportUniqueIndex

-- Who comes in is not in a battle yet. A request to leave is carried out at once, or the
-- object was told off or is still to be visited.
def TimelyTurn (w : World) (scene : Scene) : TurnLabel → Prop
  | .enter objectIndex _ _ => objectIndex ∉ scene.objectInfos → places w objectIndex = 0
  | .exit objectIndex block => objectIndex ∈ scene.objectInfos → block = true ∨ w.log.told objectIndex ≠ [] ∨ Awaits scene.work objectIndex .noResult
  | .report sent | .send _ sent => sent = true
  | _ => True

-- The battle that objects are added to is where they were sent and still there, it has
-- none of their reports, and will visit those that are to leave and were not told off.
structure Receives (w : World) (node : Nat) (target : Address) (objectInfos : Objects) (scene : Scene) : Prop where
  there : node = target.node
  numbers : ∀ i j, ∀ report ∈ reportsOf objectInfos i, report ∉ reportsOf scene.objectInfos j
  awaits : ∀ i, ∀ o ∈ sight objectInfos i, o.exitBattleFlag = true → w.log.told i = [] → Awaits scene.work i o.exitBattleWin

def Timely (w : World) : MergeLabel → Prop
  | .createBattle address objectInfos => address ∉ w.scenes → ∀ i ∈ objectInfos, places w i = 0
  | .joinBattle address objectIndex _ targetIndex => ∀ scene, w.scenes.lookup address = some scene → targetIndex ∈ scene.objectInfos →
    objectIndex ∉ scene.objectInfos → places w objectIndex = 0
  | .turn address label => ∀ scene, w.scenes.lookup address = some scene → TimelyTurn w scene label
  | .send _ sent => sent = true
  | .deleteBattleScene address => ∀ scene, w.scenes.lookup address = some scene → ∀ i, i ∉ scene.objectInfos
  | .add id => ∀ node target objectInfos reportUniqueIndex attackIndex defenseIndex,
    w.merges.lookup id = some (.adds node target objectInfos reportUniqueIndex attackIndex defenseIndex) →
    ∃ scene, w.scenes.lookup ⟨node,target.battleIndex⟩ = some scene ∧ Receives w node target objectInfos scene
  | _ => True

end OriginGame.BattleScene
