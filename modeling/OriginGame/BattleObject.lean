import OriginGame.LuaTable
import OriginGame.RoleType

namespace OriginGame.Battle

abbrev SoldierId := Nat
abbrev Rid := Nat
abbrev ArmyIndex := Nat
abbrev ObjectIndex := Nat

-- One (rid, armyIndex) slot of rallySoldiers. A rid without armies is absent.
abbrev Member := Rid × ArmyIndex

-- Identity of a soldierInfo table: the message that brought it and its key there.
-- Two places that hold one Lua table hold one reference, so a write through
-- either is seen through both.
abbrev Ref := Nat × SoldierId

structure Soldier where
  type : Nat
  level : Nat
  num : Int
  deriving DecidableEq, Repr

-- An entry of soldierHurt or rallySoldierHurt: this turn and the turns before.
structure Hurt where
  type : Nat
  level : Nat
  hardHurt : Int
  die : Int
  minor : Int
  allHardHurt : Int
  allDie : Int
  allMinor : Int
  deriving DecidableEq, Repr

def Hurt.none (soldier : Soldier) : Hurt := ⟨soldier.type,soldier.level,0,0,0,0,0,0⟩

def Hurt.reset (hurt : Hurt) : Hurt :=
  {hurt with allHardHurt:=hurt.allHardHurt+hurt.hardHurt, allDie:=hurt.allDie+hurt.die,
             allMinor:=hurt.allMinor+hurt.minor, die:=0, hardHurt:=0, minor:=0}

def Hurt.heal (hurt : Hurt) (healMinor : Int) : Hurt := {hurt with allMinor:=hurt.allMinor-healMinor}

-- What the soldiers of a kind became, in this turn and the turns before.
def Hurt.hard (hurt : Hurt) : Int := hurt.hardHurt+hurt.allHardHurt
def Hurt.dead (hurt : Hurt) : Int := hurt.die+hurt.allDie
def Hurt.light (hurt : Hurt) : Int := hurt.minor+hurt.allMinor

def Hurt.lost (hurt : Hurt) : Int := hurt.hard+hurt.dead+hurt.light

structure Hurt.Counted (hurt : Hurt) : Prop where
  hardHurt : 0 ≤ hurt.hardHurt
  die : 0 ≤ hurt.die
  minor : 0 ≤ hurt.minor
  allHardHurt : 0 ≤ hurt.allHardHurt
  allDie : 0 ≤ hurt.allDie
  allMinor : 0 ≤ hurt.allMinor

theorem Hurt.counted_none (soldier : Soldier) : (Hurt.none soldier).Counted := by
  constructor <;> exact Int.le_refl 0

theorem Hurt.Counted.reset {hurt : Hurt} (counted : hurt.Counted) : hurt.reset.Counted where
  hardHurt := Int.le_refl 0
  die := Int.le_refl 0
  minor := Int.le_refl 0
  allHardHurt := Int.add_nonneg counted.allHardHurt counted.hardHurt
  allDie := Int.add_nonneg counted.allDie counted.die
  allMinor := Int.add_nonneg counted.allMinor counted.minor

theorem Hurt.lost_reset (hurt : Hurt) : hurt.reset.lost = hurt.lost := by
  simp only [Hurt.lost,Hurt.hard,Hurt.dead,Hurt.light,Hurt.reset]
  omega

-- An entry of battleSoldierHurt in soldierHurtWithObjectIndex.
structure Ledger where
  hardHurt : Int
  die : Int
  minor : Int
  heal : Int
  deriving DecidableEq, Repr

structure BattleObject where
  objectIndex : ObjectIndex
  objectType : RoleType
  isRally : Bool
  rallyLeader : Rid
  exitBattleFlag : Bool
  attackTargetIndex : ObjectIndex
  turnHurt : Int
  soldiers : Table SoldierId Ref
  soldierHurt : Table SoldierId Hurt
  soldierHurtWithObjectIndex : Table ObjectIndex (Table SoldierId Ledger)
  rallySoldiers : Table Member (Table SoldierId Ref)
  rallySoldierHurt : Table Member (Table SoldierId Hurt)
  cell : Ref → Soldier
  fresh : Nat

namespace BattleObject

-- soldiers[soldierId].num, 0 when the entry was removed.
def num (o : BattleObject) (id : SoldierId) : Int :=
  Table.amount o.soldiers (fun ref => (o.cell ref).num) id

def hurt (o : BattleObject) (field : Hurt → Int) (id : SoldierId) : Int :=
  Table.amount o.soldierHurt field id

def memberRef (o : BattleObject) (m : Member) (id : SoldierId) : Option Ref :=
  (o.rallySoldiers.lookup m).bind (·.lookup id)

-- rallySoldiers[rid][armyIndex][soldierId].num
def memberCount (o : BattleObject) (m : Member) (id : SoldierId) : Option Int :=
  (o.memberRef m id).map (fun ref => (o.cell ref).num)

def memberNum (o : BattleObject) (m : Member) (id : SoldierId) : Int := (o.memberCount m id).getD 0

def memberHurt (o : BattleObject) (m : Member) (id : SoldierId) : Option Hurt :=
  (o.rallySoldierHurt.lookup m).bind (·.lookup id)

def setNum (o : BattleObject) (ref : Ref) (n : Int) : BattleObject :=
  {o with cell:=Function.update o.cell ref {o.cell ref with num:=n}}

def setMemberHurt (o : BattleObject) (m : Member) (id : SoldierId) (hurt : Hurt) : BattleObject :=
  {o with rallySoldierHurt:=o.rallySoldierHurt.insert m (((o.rallySoldierHurt.lookup m).getD ∅).insert id hurt)}

-- rallySoldiers[rid][armyIndex] = kinds
def setSlot (o : BattleObject) (m : Member) (kinds : Table SoldierId Ref) : BattleObject :=
  {o with rallySoldiers:=o.rallySoldiers.insert m kinds}

-- rallySoldiers[rid][armyIndex][soldierId] = nil, then the empty tables above it.
def dropMemberKind (o : BattleObject) (m : Member) (id : SoldierId) : BattleObject :=
  match o.rallySoldiers.lookup m with
  | none => o
  | some kinds =>
    let left := kinds.erase id
    if left.keys.isEmpty then {o with rallySoldiers:=o.rallySoldiers.erase m}
    else o.setSlot m left

-- BattleCommon:getArmySoldierCount
def getArmySoldierCount (o : BattleObject) : Int := (o.soldiers.keys.map o.num).sum

-- Rally armies, garrisons and cities keep per-member details.
def detailed (o : BattleObject) : Bool :=
  o.isRally || o.objectType.checkIsGarrisonArmy || decide (o.objectType = .city)

@[simp] theorem soldiers_setNum (o : BattleObject) (ref : Ref) (n : Int) : (o.setNum ref n).soldiers = o.soldiers := rfl
@[simp] theorem soldierHurt_setNum (o : BattleObject) (ref : Ref) (n : Int) : (o.setNum ref n).soldierHurt = o.soldierHurt := rfl
@[simp] theorem memberRef_setNum (o : BattleObject) (ref : Ref) (n : Int) : (o.setNum ref n).memberRef = o.memberRef := rfl
@[simp] theorem cell_setNum (o : BattleObject) (ref : Ref) (n : Int) : ((o.setNum ref n).cell ref).num = n := by
  simp [setNum]

theorem cell_setNum_ne (o : BattleObject) (n : Int) (other : r ≠ ref) : (o.setNum ref n).cell r = o.cell r := by
  simp [setNum,Function.update_of_ne other]

variable {o p : BattleObject} {id : SoldierId} {ref : Ref}

theorem num_of_cell (found : o.soldiers.lookup id = some ref) : o.num id = (o.cell ref).num := by
  simp [num,Table.amount_some found]

theorem num_missing (missing : o.soldiers.lookup id = none) : o.num id = 0 := by
  simp [num,Table.amount_none missing]

theorem memberRef_setSlot (o : BattleObject) (m : Member) (kinds : Table SoldierId Ref) (k : Member) (id : SoldierId) :
    (o.setSlot m kinds).memberRef k id = if k = m then kinds.lookup id else o.memberRef k id := by
  unfold memberRef setSlot
  by_cases same : k = m
  · subst same
    simp
  · simp [same,AList.lookup_insert_ne same]

-- No soldierInfo table is held in two places.
structure Unshared (o : BattleObject) : Prop where
  soldiers : ∀ {i j ref}, o.soldiers.lookup i = some ref → o.soldiers.lookup j = some ref → i = j
  members : ∀ {m n i j ref}, o.memberRef m i = some ref → o.memberRef n j = some ref → m = n ∧ i = j
  apart : ∀ {i m j ref}, o.soldiers.lookup i = some ref → o.memberRef m j ≠ some ref

-- Removing entries cannot introduce sharing.
theorem Unshared.shrink (unshared : Unshared o)
    (soldiers : ∀ {i ref}, p.soldiers.lookup i = some ref → o.soldiers.lookup i = some ref)
    (members : ∀ {m i ref}, p.memberRef m i = some ref → o.memberRef m i = some ref) : Unshared p where
  soldiers left right := unshared.soldiers (soldiers left) (soldiers right)
  members left right := unshared.members (members left) (members right)
  apart left right := unshared.apart (soldiers left) (members right)

theorem num_setNum (found : o.soldiers.lookup id = some ref) (n : Int) : (o.setNum ref n).num id = n := by
  have kept : (o.setNum ref n).soldiers.lookup id = some ref := found
  rw [num_of_cell kept,cell_setNum]

theorem num_setNum_ne (unshared : Unshared o) (found : o.soldiers.lookup id = some ref) (n : Int) (other : j ≠ id) :
    (o.setNum ref n).num j = o.num j := by
  cases held : o.soldiers.lookup j with
  | none => rw [num_missing held,num_missing (o:=o.setNum ref n) held]
  | some slot =>
    have apart : slot ≠ ref := by
      rintro rfl
      exact other (unshared.soldiers held found)
    have kept : (o.setNum ref n).soldiers.lookup j = some slot := held
    rw [num_of_cell held,num_of_cell kept,cell_setNum_ne o n apart]

end BattleObject
end OriginGame.Battle
