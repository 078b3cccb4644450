import OriginGame.Draws
import OriginGame.LuaTable
import OriginGame.RoleType
import Mathlib.Algebra.Order.Field.Basic
import Mathlib.Tactic.Linarith

namespace OriginGame.SkillTargets

-- Distances and directions of positions, in exact numbers: cacleAnagle is the arc tangent
-- in degrees.
structure Geometry (Pos K : Type) [Field K] [LinearOrder K] where
  distance : Pos → Pos → K
  cacleAnagle : Pos → Pos → K
  turn : ∀ from_ to_, -180 ≤ cacleAnagle from_ to_ ∧ cacleAnagle from_ to_ ≤ 180

structure SceneObject (Pos : Type) where
  objectType : RoleType
  guildId : Int
  objectRid : Int
  pos : Pos

-- What the game server knows about an object of the map.
structure TargetObject (K : Type) where
  guildId : Option Int
  rid : Option Int
  armyRadius : K
  failedMarch : Bool
  soldierCount : Int
  battleing : Bool

structure MapObject (Pos K : Type) where
  objectIndex : Nat
  objectType : RoleType
  pos : Pos
  target : Option (TargetObject K)

-- An entry of _targetObjectIndexs, with nil as none.
structure TargetInfo where
  objectIndex : Nat
  objectType : RoleType
  guildId : Option Int
  objectRid : Option Int
  rid : Option Int
  deriving DecidableEq, Repr

section range
variable {Pos K : Type} [Field K] [LinearOrder K] (geometry : Geometry Pos K)

def transAngle (angle : K) : K := if angle < 0 then angle+360 else angle

def direction (from_ to_ : Pos) : K := transAngle (geometry.cacleAnagle from_ to_)

-- topAngle and bottomAngle
def sectorAngles (armyAngle angle : K) : K × K :=
  if angle = 360 then (0,360) else (transAngle (armyAngle-angle/2),transAngle (armyAngle+angle/2))

def inSector (angles : K × K) (angleDiff : K) : Prop := angles.1 ≤ angleDiff ∧ angleDiff ≤ angles.2

instance (angles : K × K) (angleDiff : K) : Decidable (inSector angles angleDiff) := inferInstanceAs (Decidable (_ ∧ _))

def inRangeOfScene (attackIndex defenseIndex : Nat) (from_ : Pos) (radius : K) (angles : K × K) (objectIndex : Nat)
    (o : SceneObject Pos) : Bool :=
  objectIndex ≠ attackIndex && objectIndex ≠ defenseIndex && geometry.distance from_ o.pos ≤ radius &&
    inSector angles (direction geometry from_ o.pos)

-- The objects of the scene that are in the sector, as inRangeTargets lists them.
def sceneTargets (order : Order Nat) (objectInfos : Table Nat (SceneObject Pos)) (attackIndex defenseIndex : Nat) (from_ : Pos)
    (radius : K) (angles : K × K) : List TargetInfo :=
  (order.visit objectInfos.keys).filterMap (fun objectIndex => ((objectInfos.lookup objectIndex).filter
    (inRangeOfScene geometry attackIndex defenseIndex from_ radius angles objectIndex)).map (fun o =>
      ⟨objectIndex,o.objectType,some o.guildId,some o.objectRid,none⟩))

-- BattleProxy.getObjectIndexsInRange of the game server.
def reportedTarget (from_ : Pos) (radius : K) (angles : K × K) (inRangeTargets : List Nat) (o : MapObject Pos K) : Option TargetInfo :=
  match o.target with
  | none => none
  | some target =>
    if target.failedMarch || target.soldierCount ≤ 0 then none
    else if radius < geometry.distance from_ o.pos-target.armyRadius then none
    else if inSector angles (direction geometry from_ o.pos) ∧ o.objectIndex ∉ inRangeTargets ∧ target.battleing = false then
      some ⟨o.objectIndex,o.objectType,target.guildId,some (target.rid.getD 0),some (target.rid.getD 0)⟩
    else none

-- Without an army in the scene the game server is not asked.
def reportedTargets (objectInfos : Table Nat (SceneObject Pos)) (mapObjects : List (MapObject Pos K)) (from_ : Pos) (radius : K)
    (angles : K × K) (inRangeTargets : List Nat) : List TargetInfo :=
  if objectInfos.entries.any (fun entry => entry.2.objectType = .army) then
    mapObjects.filterMap (reportedTarget geometry from_ radius angles inRangeTargets)
  else []

def put (targets : Table Nat TargetInfo) (found : List TargetInfo) : Table Nat TargetInfo :=
  found.foldl (fun targets info => targets.insert info.objectIndex info) targets

theorem mem_put (targets : Table Nat TargetInfo) (found : List TargetInfo) :
    objectIndex ∈ put targets found ↔ objectIndex ∈ targets ∨ objectIndex ∈ found.map TargetInfo.objectIndex := by
  induction found generalizing targets with
  | nil => exact (or_iff_left List.not_mem_nil).symm
  | cons info rest ih =>
    rw [List.map_cons,List.mem_cons,←or_assoc]
    refine (ih (targets.insert info.objectIndex info)).trans (or_congr_left ?_)
    rw [AList.mem_insert,or_comm]

-- Every entry is under its own index.
def Keyed (targets : Table Nat TargetInfo) : Prop := ∀ objectIndex info, targets.lookup objectIndex = some info → info.objectIndex = objectIndex

theorem insert_keyed (keyed : Keyed targets) (info : TargetInfo) : Keyed (targets.insert info.objectIndex info) := by
  intro objectIndex other found
  rcases Table.found_insert found with ⟨rfl,rfl⟩ | ⟨_,there⟩
  · rfl
  · exact keyed objectIndex other there

theorem put_keyed (keyed : Keyed targets) (found : List TargetInfo) : Keyed (put targets found) := by
  induction found generalizing targets with
  | nil => exact keyed
  | cons info rest ih => exact ih (insert_keyed keyed info)

def getObjectIndexsInRange (order : Order Nat) (objectInfos : Table Nat (SceneObject Pos)) (mapObjects : List (MapObject Pos K))
    (attackIndex : Nat) (attack : SceneObject Pos) (defenseIndex : Nat) (defense : SceneObject Pos) (radius angle : K)
    (targets : Table Nat TargetInfo) : Table Nat TargetInfo :=
  let angles := sectorAngles (direction geometry attack.pos defense.pos) angle
  let inRange := sceneTargets geometry order objectInfos attackIndex defenseIndex attack.pos radius angles
  put (put targets inRange) (reportedTargets geometry objectInfos mapObjects attack.pos radius angles (inRange.map TargetInfo.objectIndex))

-- What useSkill needs of s_SkillBattle to find the targets.
structure SkillRange (K : Type) where
  sector : Bool
  targetExMaxNum : Nat
  skillRadius : K
  skillAngle : K

def useSkillTargets (order : Order Nat) (objectInfos : Table Nat (SceneObject Pos)) (mapObjects : List (MapObject Pos K))
    (attackIndex : Nat) (attack : SceneObject Pos) (defenseIndex : Nat) (defense : SceneObject Pos) (range : SkillRange K) :
    Table Nat TargetInfo :=
  (if range.sector ∧ 0 < range.targetExMaxNum then
    getObjectIndexsInRange geometry order objectInfos mapObjects attackIndex attack defenseIndex defense range.skillRadius range.skillAngle ∅
  else ∅).insert defenseIndex ⟨defenseIndex,defense.objectType,some defense.guildId,some defense.objectRid,none⟩

end range

inductive BattleTargetType where
  | onlySelf | onlyFriend | selfFriend | noRole | onlyRoleEnemy | allEnemy
  deriving DecidableEq, Repr

section choice
variable {Pos : Type} (order : Order Nat) (attackIndex : Nat) (attack : SceneObject Pos) (defenseIndex : Nat) (defense : SceneObject Pos)

def friend (info : TargetInfo) : Bool :=
  match info.guildId with
  | none => false
  | some guildId => (0 < guildId && guildId = attack.guildId) || (guildId = 0 && info.objectRid = some attack.objectRid)

def enemy (info : TargetInfo) : Bool := attack.guildId ≤ 0 || info.guildId ≠ some attack.guildId

-- The candidates the loops of getTargetIndexs insert.
def BattleTargetType.picks (type : BattleTargetType) (info : TargetInfo) : Bool :=
  match type with
  | .onlySelf => false
  | .onlyFriend => friend attack info
  | .selfFriend => friend attack info
  | .noRole => info.objectType ≠ .role
  | .onlyRoleEnemy => info.objectType = .role && enemy attack info
  | .allEnemy => enemy attack info

def BattleTargetType.self : BattleTargetType → Bool
  | .onlySelf | .selfFriend => true
  | _ => false

-- `for _, objectInfo in pairs(_allTargetIndexs)` with a table.insert.
def picked (targets : Table Nat TargetInfo) (picks : TargetInfo → Bool) : List Nat :=
  (order.visit targets.keys).filterMap (fun objectIndex => ((targets.lookup objectIndex).filter picks).map TargetInfo.objectIndex)

def getTargetIndexs (targets : Table Nat TargetInfo) (type : BattleTargetType) (targetExMaxNum : Nat) (draws : List Nat) : List Nat :=
  Draws.thin targetExMaxNum draws (picked order targets (type.picks attack)++if type.self then [attackIndex] else [])

-- The extra targets of a skill that deals damage.
def picksEx (info : TargetInfo) : Bool :=
  info.objectIndex ≠ defenseIndex &&
  match defense.objectType with
  | .monster => info.objectType = .monster
  | .army => info.objectType = .army &&
    if 0 < defense.guildId then info.guildId = some defense.guildId else info.rid = some defense.objectRid
  | _ => false

def getTargetIndexsEx (targets : Table Nat TargetInfo) (targetExMaxNum : Nat) (draws : List Nat) : List Nat :=
  Draws.thin targetExMaxNum draws (defenseIndex::picked order targets (picksEx defenseIndex defense))

end choice

section angles
variable {K : Type} [Field K] [LinearOrder K] [IsStrictOrderedRing K]

-- The smallest difference of two directions.
def angularGap (a b : K) : K := min |a-b| (360-|a-b|)

-- A sector that reaches below 0 holds no direction, and one that reaches 360 none past it.
def Unwrapped (armyAngle angle angleDiff : K) : Prop :=
  angle = 360 ∨
    ((armyAngle < angle/2 → armyAngle+angle/2 < angleDiff ∧ angleDiff < armyAngle-angle/2+360) ∧
      armyAngle+angle/2-360 < angleDiff)

end angles
end OriginGame.SkillTargets
