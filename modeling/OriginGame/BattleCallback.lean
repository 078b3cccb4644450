import OriginGame.Hospital

namespace OriginGame.BattleCallback

-- What a battle did to the soldiers of one kind; a missing number is zero.
structure HurtInfo where
  type : Int
  level : Int
  hardHurt : Int
  die : Int
  minor : Int

structure Soldier where
  type : Int
  level : Int
  num : Int

structure Army where
  soldiers : Table Nat Soldier
  minorSoldiers : Table Nat Soldier

abbrev count (soldiers : Table Nat Soldier) (soldierId : Nat) : Int := soldiers.amount (·.num) soldierId

-- The tables of one army while its hurt table is gone through; tmpSoldierInfo goes to the
-- hospital.
structure Settling where
  soldiers : Table Nat Soldier
  minorSoldiers : Table Nat Soldier
  tmpSoldierInfo : Table Nat Soldier
  hardHurtSum : Int
  minorSum : Int

-- Into a table that may have the kind or not.
def addNum (soldiers : Table Nat Soldier) (soldierId : Nat) (hurtInfo : HurtInfo) (num : Int) : Table Nat Soldier :=
  match soldiers.lookup soldierId with
  | none => soldiers.insert soldierId ⟨hurtInfo.type,hurtInfo.level,num⟩
  | some row => soldiers.insert soldierId {row with num:=row.num+num}

-- The armies of all roles by role and army index, and what addToHospital was given for
-- each; index 0 is the city.
structure World where
  armies : Table (Nat × Nat) Army
  hospital : Table (Nat × Nat) (Table Nat Soldier)

section dispatch
variable (order : Order Nat)

-- Armies are told apart by role and index.
local instance armies_lawful : LawfulBEq (Nat × Nat) := inferInstance

structure Reinforce where
  armyIndex : Nat
  arrivalTime : Int
  soldiers : Table Nat Soldier

-- A kind that is used up is taken out.
def lower (soldiers : Table Nat Soldier) (soldierId : Nat) (row : Soldier) (num : Int) : Table Nat Soldier :=
  if num ≤ 0 then soldiers.erase soldierId else soldiers.insert soldierId {row with num}

-- The numbers that go into subSoldier, addSoldier and the hospital.
structure CityLoss where
  guardTowerHp : Int
  subSoldierInfo : Hospital.AddSoldierInfo
  addSoldierInfo : Hospital.AddSoldierInfo
  toHospitolSoldierInfo : Table Nat Soldier

def more (info : Hospital.AddSoldierInfo) (soldierId : Nat) (num minor : Int) : Hospital.AddSoldierInfo :=
  let row := (info.lookup soldierId).getD ⟨0,0⟩
  info.insert soldierId ⟨row.num+num,row.minor+minor⟩

def subSoldierOf (soldiers : Table Nat Hospital.SoldierInfo) (soldierId : Nat) (soldierInfo : Hospital.AddSoldier) : Table Nat Hospital.SoldierInfo :=
  match soldiers.lookup soldierId with
  | none => soldiers
  | some row =>
    let num := if 0 ≤ soldierInfo.num then max (row.num-soldierInfo.num) 0 else row.num
    let minor := if 0 ≤ soldierInfo.minor then max (row.minor-soldierInfo.minor) 0 else row.minor
    if num ≤ 0 ∧ minor ≤ 0 then soldiers.erase soldierId else soldiers.insert soldierId {row with num, minor}

def subSoldiersInLock (subtracted : Hospital.AddSoldierInfo) (soldiers : Table Nat Hospital.SoldierInfo) : Table Nat Hospital.SoldierInfo :=
  Table.forEach order subtracted subSoldierOf soldiers

structure City where
  guardTowerHp : Int
  soldiers : Table Nat Hospital.SoldierInfo

end dispatch

-- What the losses of one kind come to.
structure Settles (hurtInfo : HurtInfo) (before after sent light : Int) : Prop where
  exact : hurtInfo.hardHurt+hurtInfo.die+hurtInfo.minor ≤ before →
    after = before-(hurtInfo.hardHurt+hurtInfo.die+hurtInfo.minor) ∧ sent = hurtInfo.hardHurt ∧ light = hurtInfo.minor
  capped : before < hurtInfo.hardHurt+hurtInfo.die+hurtInfo.minor → after = 0 ∧ sent+light ≤ before

end OriginGame.BattleCallback
