import OriginGame.LuaArray
import OriginGame.RoleType
import OriginGame.Runs

namespace OriginGame.AttackAroundPosMgr

-- aroundPos to the object indexes that stand there.
abbrev AroundPosInfo := Table Nat (LuaArray Nat)

-- aroundAttackerPos, by the index of the object that is attacked.
abbrev State := Table Nat AroundPosInfo

structure ObjectInfo where
  objectType : RoleType
  -- checkArmyWalkStatus of its status
  walking : Bool
  -- s_StrongHoldData's posTo of its strong hold
  posTo : Option String

structure AttackInfo where
  walking : Bool
  -- FAILED_MARCH is in its status
  failedMarch : Bool
  -- getArmySoldierCount of its soldiers
  soldiers : Int

def routed (info : AttackInfo) : Bool := info.failedMarch || decide (info.soldiers ≤ 0)

-- What one handler is told: the replies of the map objects, what positions and radii come
-- to, and the orders Lua leaves open.
structure Answers where
  object : Option ObjectInfo
  attacker : Nat → Option AttackInfo
  -- caclePosAround_8, _12 or _6 for the new attacker
  aroundPos : Nat
  standAroundPos : List Nat
  -- cacleDistance( toAroundPos, emptyRealPos ) > cacleDistance( toAroundPos, fixPos )
  farther : Nat → Nat → Bool
  checkPosIdle : Nat → Bool
  size : LuaArray.Length Nat
  order : Order Nat
  -- The places a traversal comes to while its body changes the table.
  visited : Nat → List Nat
  slots : List Nat

def checkIsCheckPoint : RoleType → Bool
  | .checkpoint | .checkpoint1 | .checkpoint2 | .checkpoint3 => true
  | _ => false

def maxPos (objectType : RoleType) : Nat :=
  if checkIsCheckPoint objectType then 6
  else if objectType.checkIsHolyLandObject then 12
  else 8

section lists
variable (w : Answers)

-- Whether the march of the attacker was corrected.
def updateAroundPos (objectInfo : ObjectInfo) (attackIndex aroundPos : Nat) : Bool :=
  let type := objectInfo.objectType
  let noCheck := type.checkIsResourceObject || type.checkIsGuildBuildObject || type.checkIsHolyLandObject ||
    decide (type = .expedition) || decide (type = .city) || decide (type = .monsterCity)
  if !noCheck && !w.checkPosIdle aroundPos then false
  else (w.attacker attackIndex).isSome

-- `table.removevalue( info[pos], value )`
def removeAt (info : AroundPosInfo) (pos attackIndex : Nat) : Option AroundPosInfo :=
  match info.lookup pos with
  | none => some info
  | some attackers => (LuaArray.removevalue w.order w.size attackers attackIndex).map (fun left => info.insert pos left)

-- `table.insert( info[pos], value )`, with info[pos] made if it is nil.
def insertAt (info : AroundPosInfo) (pos attackIndex : Nat) : AroundPosInfo :=
  info.insert pos (LuaArray.insert w.size ((info.lookup pos).getD ∅) attackIndex)

-- checkAroundPosHadObject keeps the positions as they were beside those it changes.
structure Squeeze where
  old : AroundPosInfo
  info : AroundPosInfo
  raised : Bool

def squeezeOne (objectInfo : ObjectInfo) (oldPos newPos : Nat) (s : Squeeze) (index : Nat) : Squeeze :=
  if s.raised then s
  else match (s.old.lookup oldPos).bind (fun attackers => attackers.lookup index) with
  | none => s
  | some attackIndex =>
    if updateAroundPos w objectInfo attackIndex newPos then
      match removeAt w s.old oldPos attackIndex with
      | none => {s with raised:=true}
      | some old =>
        match removeAt w s.info oldPos attackIndex with
        | none => {s with old, raised:=true}
        | some info => {s with old, info:=insertAt w info newPos attackIndex}
    else s

def nearestEmptyPos (info : AroundPosInfo) (maxPos : Nat) : Option Nat :=
  let allEmptyPos := (List.range' 1 maxPos).filter (fun i => (info.lookup i).isNone)
  (w.order.visit allEmptyPos).foldl
    (fun target newPos => match target with
      | none => some newPos
      | some emptyPos => if w.farther emptyPos newPos then some newPos else some emptyPos)
    none

end lists

def nextPos (maxPos i : Nat) : Nat := if i = maxPos then 1 else i+1

def allMovePos (maxPos toAroundPos targetEmptyPos : Nat) : Table Nat Nat :=
  let positions :=
    if targetEmptyPos < toAroundPos then List.range' toAroundPos (maxPos+1-toAroundPos)++List.range' 1 targetEmptyPos
    else List.range' toAroundPos (targetEmptyPos+1-toAroundPos)
  positions.foldl (fun moves i => moves.insert i (nextPos maxPos i)) ∅

section handlers
variable (w : Answers)

-- The positions after it, and whether it raised.
def checkAroundPosHadObject (objectInfo : ObjectInfo) (info : AroundPosInfo) (toAroundPos maxPos : Nat) : AroundPosInfo×Bool :=
  if (info.lookup toAroundPos).isNone || decide (maxPos ≤ info.keys.length) then (info,false)
  else match nearestEmptyPos w info maxPos with
  | none => (info,true)
  | some targetEmptyPos =>
    let s := Table.forEach w.order (allMovePos maxPos toAroundPos targetEmptyPos)
      (fun s oldPos newPos => (w.visited oldPos).foldl (squeezeOne w objectInfo oldPos newPos) s) ⟨info,info,false⟩
    (s.info,s.raised)

-- A check point moves nobody: the new attacker turns on to a free position.
def turnOn (info : AroundPosInfo) (aroundPos : Nat) : Nat :=
  let free (i : Nat) := (info.lookup i).isNone && (w.standAroundPos.isEmpty || w.standAroundPos.contains i)
  match (List.range' (aroundPos+1) (8-aroundPos)).find? free with
  | some i => i
  | none => ((List.range' 1 aroundPos).find? free).getD aroundPos

def enter (objectInfo : ObjectInfo) (info : AroundPosInfo) (attackIndex : Nat) : AroundPosInfo :=
  let maxPos := maxPos objectInfo.objectType
  let aroundPos := if maxPos = 6 ∧ (info.lookup w.aroundPos).isSome then turnOn w info w.aroundPos else w.aroundPos
  let squeezed := if maxPos ≠ 6 ∧ !objectInfo.walking then checkAroundPosHadObject w objectInfo info aroundPos maxPos else (info,false)
  if squeezed.2 then squeezed.1 else insertAt w squeezed.1 aroundPos attackIndex

def stands (info : AroundPosInfo) (attackIndex : Nat) : Bool :=
  info.keys.any (fun pos => LuaArray.exist ((info.lookup pos).getD ∅) attackIndex)

def attacks : RoleType → Bool
  | .army | .expedition | .monster | .guardHolyLand | .summonSingleMonster => true
  | _ => false

def addAttacker (s : State) (objectIndex attackObjectIndex : Nat) (attackObjectType : RoleType) : State :=
  if !attacks attackObjectType then s
  else match w.object,w.attacker attackObjectIndex with
  | some objectInfo,some attackInfo =>
    if attackInfo.walking || routed attackInfo then s
    else
      let info := (s.lookup objectIndex).getD ∅
      if stands info attackObjectIndex then s
      else s.insert objectIndex (enter w objectInfo info attackObjectIndex)
  | _,_ => s

-- The attacker is taken out of one list, and the list dropped when it is empty; whether
-- table.remove raised.
def leaveOne (attackIndex : Nat) (s : AroundPosInfo×Bool) (aroundPos : Nat) : AroundPosInfo×Bool :=
  if s.2 then s
  else match s.1.lookup aroundPos with
  | none => s
  | some attackers =>
    match (if LuaArray.exist attackers attackIndex then LuaArray.removevalue w.order w.size attackers attackIndex else some attackers) with
    | none => (s.1,true)
    | some left => if left.keys = [] then (s.1.erase aroundPos,false) else (s.1.insert aroundPos left,false)

def leave (info : AroundPosInfo) (attackIndex : Nat) : AroundPosInfo×Bool :=
  (w.order.visit info.keys).foldl (leaveOne w attackIndex) (info,false)

-- The sides of a check point where nobody can stand.
def invalid (objectInfo : ObjectInfo) (i : Nat) : Bool :=
  maxPos objectInfo.objectType = 6 && objectInfo.posTo.any (fun posTo =>
    if posTo = "180" then decide (i = 1) || decide (i = 5) else decide (i = 2) || decide (i = 6))

def emptyPositions (objectInfo : ObjectInfo) (info : AroundPosInfo) : List Nat :=
  w.order.visit ((List.range' 1 (maxPos objectInfo.objectType)).filter (fun i => (info.lookup i).isNone && !invalid objectInfo i))

def getCheckPointMovePoint (posTo : Option String) (attackPos : Nat) (emptyPos : List Nat) : Option Nat :=
  let side :=
    if posTo = some "180" then if 2 ≤ attackPos ∧ attackPos ≤ 4 then [2,3,4] else [6,7,8]
    else if 3 ≤ attackPos ∧ attackPos ≤ 5 then [3,4,5] else [1,7,8]
  side.find? (fun i => emptyPos.contains i)

structure Spread where
  info : AroundPosInfo
  emptyPos : List Nat
  raised : Bool

def spreadOne (objectInfo : ObjectInfo) (s : Spread) (attackPos : Nat) : Spread :=
  if s.raised then s
  else match s.info.lookup attackPos with
  | none => s
  | some attackers =>
    if attackers.keys.length ≤ 1 then s
    else match (if maxPos objectInfo.objectType = 6 then getCheckPointMovePoint objectInfo.posTo attackPos s.emptyPos else s.emptyPos.head?) with
    | none => s
    | some newPos =>
      let emptyPos := s.emptyPos.erase newPos
      match LuaArray.remove w.size attackers 1 with
      | none => ⟨s.info,emptyPos,true⟩
      | some left =>
        let info := s.info.insert attackPos left
        match attackers.lookup 1 with
        -- A service is not found under nil.
        | none => ⟨info,emptyPos,true⟩
        | some attackIndex =>
          -- Here the attacker stands nowhere any more, and one that is gone or routed is not put back.
          if (w.attacker attackIndex).all routed then ⟨info,emptyPos,false⟩
          else ⟨info.insert newPos (AList.singleton 1 attackIndex),emptyPos,false⟩

def delAttacker (s : State) (objectIndex attackObjectIndex : Nat) : State :=
  match s.lookup objectIndex with
  | none => s
  | some info =>
    let left := leave w info attackObjectIndex
    if left.2 then s.insert objectIndex left.1
    else if left.1.keys = [] then s.erase objectIndex
    else match w.object with
    | none => s.insert objectIndex left.1
    | some objectInfo =>
      s.insert objectIndex (w.slots.foldl (spreadOne w objectInfo) ⟨left.1,emptyPositions w objectInfo left.1,false⟩).info

def recacleAroundPos (s : State) (objectIndex : Nat) : State :=
  match s.lookup objectIndex with
  | none => s
  | some info =>
    if Table.sumKeyed (fun _ attackers => attackers.keys.length) info ≤ 1 then s
    else match w.object with
    | none => s
    | some objectInfo =>
      let type := objectInfo.objectType
      if type.checkIsGuildBuildObject || type.checkIsResourceObject || type.checkIsHolyLandObject then s
      else
        -- `attackers[index] = nil` for the routed ones
        s.insert objectIndex (info.mapValues (fun attackers => attackers.keepValues (fun attackIndex => !(w.attacker attackIndex).any routed)))

end handlers

inductive Op where
  | addAttacker (objectIndex attackObjectIndex : Nat) (attackObjectType : RoleType) (w : Answers)
  | delAttacker (objectIndex attackObjectIndex : Nat) (w : Answers)
  | recacleAroundPos (objectIndex : Nat) (w : Answers)

def next (s : State) : Op → State
  | .addAttacker objectIndex attackObjectIndex attackObjectType w => addAttacker w s objectIndex attackObjectIndex attackObjectType
  | .delAttacker objectIndex attackObjectIndex w => delAttacker w s objectIndex attackObjectIndex
  | .recacleAroundPos objectIndex w => recacleAroundPos w s objectIndex

end OriginGame.AttackAroundPosMgr
