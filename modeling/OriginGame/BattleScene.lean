import OriginGame.LuaTable
import OriginGame.RoleType

namespace OriginGame

inductive BattleResult where
  | fail | win | noResult
  deriving DecidableEq

namespace ArmyStatus

def spaceMarch : Nat := 1 <<< 0
def attackMarch : Nat := 1 <<< 1
def collectMarch : Nat := 1 <<< 2
def reinforceMarch : Nat := 1 <<< 3
def rallyMarch : Nat := 1 <<< 4
def retreatMarch : Nat := 1 <<< 5
def stationing : Nat := 1 <<< 9
def followUp : Nat := 1 <<< 19
def move : Nat := 1 <<< 20

end ArmyStatus

namespace BattleScene

-- An object of a scene. armyCount is what getArmySoldierCount adds up, battleReport
-- the indexes of the reports it holds.
structure ObjectInfo where
  objectType : RoleType
  guildId : Nat
  monsterId : Nat
  status : Nat
  armyCount : Int
  attackTargetIndex : Nat
  allAttackers : Table Nat RoleType
  tmpObjectFlag : Bool
  isRally : Bool
  exitBattleFlag : Bool
  exitBattleWin : BattleResult
  exitBattleBlockBlag : Nat
  lastBattleTurn : Int
  battleReport : List Nat

abbrev Objects := Table Nat ObjectInfo

def checkArmyStatus (status check : Nat) : Bool := decide (status &&& check ≠ 0)

def checkArmyWalkStatus (status : Nat) : Bool :=
  checkArmyStatus status ArmyStatus.spaceMarch || checkArmyStatus status ArmyStatus.attackMarch ||
  checkArmyStatus status ArmyStatus.collectMarch || checkArmyStatus status ArmyStatus.reinforceMarch ||
  checkArmyStatus status ArmyStatus.rallyMarch || checkArmyStatus status ArmyStatus.retreatMarch

-- Also an object that is not there.
def isDie (objects : Objects) (objectIndex : Nat) : Bool :=
  (objects.lookup objectIndex).all (fun objectInfo => decide (objectInfo.armyCount ≤ 0))

def addAttacker (objects : Objects) (targetIndex objectIndex : Nat) (objectType : RoleType) : Objects :=
  objects.modify targetIndex (fun target => {target with allAttackers:=target.allAttackers.insert objectIndex objectType})

def removeAttacker (objects : Objects) (targetIndex objectIndex : Nat) : Objects :=
  objects.modify targetIndex (fun target => {target with allAttackers:=target.allAttackers.erase objectIndex})

def setTarget (objects : Objects) (objectIndex targetIndex : Nat) : Objects :=
  objects.modify objectIndex (fun objectInfo => {objectInfo with attackTargetIndex:=targetIndex})

-- An object with the defaults of BattleDef; the rest comes from the game server.
def defaultObjectInfo (objectInfo : ObjectInfo) : ObjectInfo :=
  {objectInfo with allAttackers:=∅, tmpObjectFlag:=false, exitBattleFlag:=false, exitBattleWin:=.noResult, exitBattleBlockBlag:=0, lastBattleTurn:=0, battleReport:=[]}

-- A skill that hits an object outside the battle takes it in.
def enterBattle (objects : Objects) (objectIndex : Nat) (objectInfo : ObjectInfo) (attackIndex : Nat) : Objects :=
  if objectIndex ∈ objects then objects
  else objects.insert objectIndex {defaultObjectInfo objectInfo with attackTargetIndex:=attackIndex, tmpObjectFlag:=true, status:=0, monsterId:=0}

-- Objects that do not follow by themselves.
def isMonster (objectInfo : ObjectInfo) : Bool :=
  match objectInfo.objectType with
  | .monster | .guardHolyLand | .summonSingleMonster | .summonRallyMonster => true
  | .expedition => decide (0 < objectInfo.monsterId)
  | _ => false

def isBuild (objectType : RoleType) : Bool :=
  objectType.checkIsGuildBuildObject || objectType.checkIsHolyLandObject || objectType = .city || objectType = .monsterCity

-- The target is out of range: whether it is dropped, and the last turn of battle.
def followUp (turn : Int) (objectIndex : Nat) (objectInfo targetInfo : ObjectInfo) : Bool × Int :=
  let last := objectInfo.lastBattleTurn
  if isMonster objectInfo && decide (targetInfo.attackTargetIndex = objectIndex) &&
      ((!checkArmyWalkStatus targetInfo.status && !checkArmyStatus targetInfo.status ArmyStatus.stationing) ||
        checkArmyStatus targetInfo.status ArmyStatus.attackMarch) then (false,last)
  else if isBuild objectInfo.objectType then (checkArmyWalkStatus targetInfo.status,last)
  else if checkArmyStatus objectInfo.status ArmyStatus.stationing && checkArmyWalkStatus targetInfo.status then (true,last)
  else if checkArmyStatus objectInfo.status ArmyStatus.stationing || checkArmyWalkStatus objectInfo.status then (false,last)
  else if checkArmyStatus targetInfo.status ArmyStatus.followUp && decide (targetInfo.attackTargetIndex = objectIndex) then (false,last)
  else if (objectInfo.objectType = .army && targetInfo.objectType = .army && checkArmyStatus objectInfo.status ArmyStatus.followUp) ||
      checkArmyStatus objectInfo.status ArmyStatus.move || checkArmyStatus targetInfo.status ArmyStatus.move then (false,turn)
  else (false,last)

structure Target where
  index : Nat
  newTarget : Bool
  overAttackRange : Bool

-- The target it has, if that is not leaving; with it whether it is out of range.
def oldTarget (inRange : Nat → Nat → Bool) (turn : Int) (objects : Objects) (objectIndex : Nat) (objectInfo : ObjectInfo) :
    Option Nat × Bool × Objects :=
  match objects.lookup objectInfo.attackTargetIndex with
  | none => (none,false,objects)
  | some targetInfo =>
    if targetInfo.exitBattleFlag then (none,false,objects)
    else
      let objects := addAttacker objects objectInfo.attackTargetIndex objectIndex objectInfo.objectType
      if inRange objectIndex objectInfo.attackTargetIndex then (some objectInfo.attackTargetIndex,false,objects)
      else
        let (dropped,last) := followUp turn objectIndex objectInfo targetInfo
        (if dropped then none else some objectInfo.attackTargetIndex,true,
          objects.modify objectIndex (fun objectInfo => {objectInfo with lastBattleTurn:=last}))

-- Someone alive and in range that attacks it.
def attacksBack (inRange : Nat → Nat → Bool) (objects : Objects) (objectIndex targetIndex : Nat) : Bool :=
  (objects.lookup targetIndex).any (fun targetInfo => !targetInfo.tmpObjectFlag && decide (targetIndex ≠ objectIndex) &&
    decide (targetInfo.attackTargetIndex = objectIndex) && !isDie objects targetIndex && inRange targetIndex objectIndex)

-- A rally keeps its target, and so does who attacks one.
def keepsTarget (objects : Objects) (objectInfo : ObjectInfo) : Bool :=
  (objectInfo.isRally || (objects.lookup objectInfo.attackTargetIndex).any (·.isRally)) &&
  !objectInfo.objectType.checkIsHolyLandObject && !objectInfo.objectType.checkIsGuildBuildObject

def getAttackTarget (order : Order Nat) (inRange : Nat → Nat → Bool) (turn : Int) (objects : Objects) (objectIndex : Nat) :
    Option Target × Objects :=
  match objects.lookup objectIndex with
  | none => (none,objects)
  | some objectInfo =>
    let (attackTargetIndex,overAttackRange,after) := oldTarget inRange turn objects objectIndex objectInfo
    match attackTargetIndex.filter (fun targetIndex => !isDie after targetIndex) with
    | some targetIndex => (some ⟨targetIndex,false,overAttackRange⟩,after)
    | none =>
      if keepsTarget objects objectInfo then (none,after)
      else
        match (order.visit after.keys).find? (attacksBack inRange after objectIndex) with
        | some targetIndex => (some ⟨targetIndex,true,false⟩,addAttacker after targetIndex objectIndex objectInfo.objectType)
        | none => (none,after)

-- exitBattleFlag is a boolean and a result is a number: the two are never equal.
def flagIs (_exitBattleFlag : Bool) (_result : BattleResult) : Bool := false

def checkTargetFail (objects : Objects) (objectIndex : Nat) : Bool :=
  (objects.lookup objectIndex).all (fun objectInfo =>
    (objects.lookup objectInfo.attackTargetIndex).all (fun targetInfo => targetInfo.exitBattleFlag && flagIs targetInfo.exitBattleFlag .fail) ||
    isDie objects objectInfo.attackTargetIndex)

def checkOtherAllFail (objects : Objects) (objectIndex : Nat) : Bool :=
  objects.keys.all (fun other => other = objectIndex || (objects.lookup other).all (fun objectInfo =>
    objectInfo.exitBattleFlag && flagIs objectInfo.exitBattleFlag .fail))

-- An object without a target leaves.
def leaveBattle (objects : Objects) (objectIndex : Nat) : Objects :=
  let result := if checkTargetFail objects objectIndex then BattleResult.win else .noResult
  objects.modify objectIndex (fun objectInfo => {objectInfo with exitBattleFlag:=true, exitBattleWin:=result})

def sameGuild (objects : Objects) (objectIndex targetIndex : Nat) : Bool :=
  (objects.lookup objectIndex).any (fun objectInfo => decide (0 < objectInfo.guildId) &&
    (objects.lookup targetIndex).any (fun targetInfo => decide (objectInfo.guildId = targetInfo.guildId)))

-- One object in the loop of attacks, but for the losses. A building that finds no
-- target leaves; a new target of the same guild is not taken.
def attack (order : Order Nat) (inRange : Nat → Nat → Bool) (turn : Int) (objects : Objects) (attackIndex : Nat) : Objects :=
  match objects.lookup attackIndex with
  | none => objects
  | some objectInfo =>
    if objectInfo.tmpObjectFlag || checkArmyWalkStatus objectInfo.status || isDie objects attackIndex then objects
    else
      match getAttackTarget order inRange turn objects attackIndex with
      | (some target,after) =>
        if target.newTarget && !sameGuild objects attackIndex target.index then setTarget after attackIndex target.index else after
      | (none,after) => if isBuild objectInfo.objectType then leaveBattle after attackIndex else after

-- CreateBattle starts with empty lists.
def createBattle (objectInfos : Objects) : Objects := objectInfos.mapValues defaultObjectInfo

-- JoinBattle makes the object with its target and nobody on its list.
def objectJoinBattle (turn : Int) (objects : Objects) (objectIndex : Nat) (objectInfo : ObjectInfo) (targetIndex : Nat) : Objects :=
  if targetIndex ∈ objects then
    addAttacker (objects.insert objectIndex {defaultObjectInfo objectInfo with attackTargetIndex:=targetIndex, lastBattleTurn:=turn})
      targetIndex objectIndex objectInfo.objectType
  else objects

def changeAttackTarget (objects : Objects) (objectIndex newTargetIndex : Nat) : Objects :=
  match objects.lookup objectIndex with
  | none => objects
  | some objectInfo =>
    addAttacker (setTarget (objects.modify objectIndex (fun objectInfo => {objectInfo with tmpObjectFlag:=false})) objectIndex newTargetIndex)
      newTargetIndex objectIndex objectInfo.objectType

-- The first other object in the table.
def anyTarget (order : Order Nat) (objects : Objects) (objectIndex : Nat) : Option Nat :=
  (order.visit objects.keys).find? (fun targetIndex => decide (targetIndex ≠ objectIndex))

def removeObjectStopAttack (order : Order Nat) (objects : Objects) (objectIndex : Nat) : Objects :=
  match objects.lookup objectIndex with
  | none => objects
  | some objectInfo =>
    if objectInfo.tmpObjectFlag then objects
    else if objectInfo.attackTargetIndex ∈ objects then objects
    else
      match anyTarget order objects objectIndex with
      | none => objects
      | some targetIndex =>
        let added := addAttacker objects targetIndex objectIndex objectInfo.objectType
        let both := (objects.lookup targetIndex).elim added (fun targetInfo => addAttacker added objectIndex targetIndex targetInfo.objectType)
        setTarget both objectIndex targetIndex

-- Objects whose index is taken are left out.
def withMerged (turn : Int) (objects objectInfos : Objects) : Objects :=
  objects.addMissing (objectInfos.mapValues (fun objectInfo => {objectInfo with lastBattleTurn:=turn}))

def multiObjectAddBattle (turn : Int) (objects objectInfos : Objects) (attackIndex defenseIndex : Nat) : Objects :=
  let objects := withMerged turn objects objectInfos
  match objects.lookup attackIndex,objects.lookup defenseIndex with
  | some attackInfo,some _ => addAttacker (setTarget objects attackIndex defenseIndex) defenseIndex attackIndex attackInfo.objectType
  | _,_ => objects

-- From the list of its target.
def leave (objects : Objects) (objectIndex : Nat) : Objects :=
  (objects.lookup objectIndex).elim objects (fun objectInfo => removeAttacker objects objectInfo.attackTargetIndex objectIndex)

-- Two columns that attack each other.
def column (attackTargetIndex : Nat) : ObjectInfo := ⟨.army,0,0,0,100,attackTargetIndex,∅,false,false,false,.noResult,0,0,[]⟩

def duel : Objects := (AList.insert 1 (column 2) ∅ : Objects).insert 2 (column 1)

-- What decides who leaves and how, and the reports. The lists of attackers and the last
-- turn of battle are not part of it.
structure Seen where
  status : Nat
  armyCount : Int
  attackTargetIndex : Nat
  tmpObjectFlag : Bool
  exitBattleFlag : Bool
  exitBattleWin : BattleResult
  exitBattleBlockBlag : Nat
  battleReport : List Nat

def seen (objectInfo : ObjectInfo) : Seen :=
  ⟨objectInfo.status,objectInfo.armyCount,objectInfo.attackTargetIndex,objectInfo.tmpObjectFlag,objectInfo.exitBattleFlag,
    objectInfo.exitBattleWin,objectInfo.exitBattleBlockBlag,objectInfo.battleReport⟩

def sight (objects : Objects) (objectIndex : Nat) : Option Seen := (objects.lookup objectIndex).map seen

section sight
variable {objects : Objects} {own : Nat} {objectInfo : ObjectInfo} {order : Order Nat} {inRange : Nat → Nat → Bool} {turn : Int}

theorem mem_of_found (found : objects.lookup own = some objectInfo) : own ∈ objects :=
  Table.mem_of_lookup found

theorem sight_modify {change : ObjectInfo → ObjectInfo} {alters : Seen → Seen} (same : ∀ objectInfo, seen (change objectInfo) = alters (seen objectInfo)) (k : Nat) :
    sight (objects.modify k change) = Function.update (sight objects) k ((sight objects k).map alters) := by
  funext i
  rw [sight,Table.lookup_modify]
  by_cases here : i = k
  · subst here
    rw [if_pos rfl,Function.update_self,sight,Option.map_map,Option.map_map]
    congr 1
    funext objectInfo
    exact same objectInfo
  · rw [if_neg here,Function.update_of_ne here]
    rfl

theorem sight_keep {change : ObjectInfo → ObjectInfo} (same : ∀ objectInfo, seen (change objectInfo) = seen objectInfo) (k : Nat) :
    sight (objects.modify k change) = sight objects := by
  have moved : sight (objects.modify k change) = Function.update (sight objects) k ((sight objects k).map id) := sight_modify same k
  rw [moved,Option.map_id,id,Function.update_eq_self]

theorem sight_addAttacker (t j : Nat) (objectType : RoleType) : sight (addAttacker objects t j objectType) = sight objects := by
  apply sight_keep
  intro _
  rfl

theorem sight_leave (j : Nat) : sight (leave objects j) = sight objects := by
  unfold leave
  cases objects.lookup j with
  | none => rfl
  | some objectInfo =>
    apply sight_keep
    intro _
    rfl

theorem sight_oldTarget : sight (oldTarget inRange turn objects own objectInfo).2.2 = sight objects := by
  unfold oldTarget
  split
  · rfl
  · split
    · rfl
    · dsimp only
      split
      · exact sight_addAttacker _ _ _
      · rw [sight_keep]
        · exact sight_addAttacker _ _ _
        · exact fun _ => rfl

theorem sight_getAttackTarget (order : Order Nat) (inRange : Nat → Nat → Bool) (turn : Int) (objects : Objects) (own : Nat) :
    sight (getAttackTarget order inRange turn objects own).2 = sight objects := by
  unfold getAttackTarget
  split
  · rfl
  · dsimp only
    split
    · exact sight_oldTarget
    · split
      · exact sight_oldTarget
      · split
        · rw [sight_addAttacker]
          exact sight_oldTarget
        · exact sight_oldTarget

theorem isDie_sight (objects : Objects) (i : Nat) : isDie objects i = (sight objects i).all (fun info => decide (info.armyCount ≤ 0)) := by
  unfold isDie sight
  cases objects.lookup i with
  | none => rfl
  | some objectInfo => rfl

theorem attacksBack_sight (objects : Objects) (i : Nat) : attacksBack inRange objects own i =
    (sight objects i).any (fun info => !info.tmpObjectFlag && decide (i ≠ own) && decide (info.attackTargetIndex = own) && !isDie objects i && inRange i own) := by
  unfold attacksBack sight
  cases objects.lookup i with
  | none => rfl
  | some objectInfo => rfl

theorem isDie_oldTarget (i : Nat) : isDie (oldTarget inRange turn objects own objectInfo).2.2 i = isDie objects i := by
  rw [isDie_sight,sight_oldTarget,← isDie_sight]

theorem attacksBack_oldTarget (i : Nat) :
    attacksBack inRange (oldTarget inRange turn objects own objectInfo).2.2 own i = attacksBack inRange objects own i := by
  rw [attacksBack_sight,sight_oldTarget,isDie_oldTarget,← attacksBack_sight]

end sight

end BattleScene
end OriginGame
