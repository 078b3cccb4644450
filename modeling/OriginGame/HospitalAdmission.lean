import Mathlib.Algebra.Order.BigOperators.Group.List
import Mathlib.Data.Rat.Floor
import OriginGame.Hospital
import OriginGame.LuaNumber
import OriginGame.RoleType

namespace OriginGame.Hospital

-- The rows of s_ZeroEmpty for one country; reInitsArms files each under its own type and level.
structure Arms where
  ID : ArmyType → Nat → Nat
  distinct : ∀ {type other level higher}, ID type level = ID other higher → type = other ∧ level = higher

abbrev Soldiers := Table Nat Soldier

abbrev incoming (soldiers : Soldiers) (id : Nat) : Int := soldiers.amount Soldier.num id

def armyType : List ArmyType := [.infantry,.cavalry,.archer,.siegeUnit]

structure Ward where
  hospitalSpaceMulti : Int
  -- armyCnt of s_BuildingHospital for each hospital
  armyCnt : List Int
  seriousInjured : Table Nat Injured

def maxNum (rounding : Rounding) (ward : Ward) : Int :=
  ⌊rounding.near (ward.armyCnt.sum*rounding.near (1+rounding.near (ward.hospitalSpaceMulti/1000)))⌋

-- One level that dies in part: what its kinds have lost so far, and how much of that by their share.
structure Reduction where
  soldiers : Soldiers
  reduceNum : Int
  soldierDead : Table ArmyType Int

structure Dying where
  soldiers : Soldiers
  deadNum : Int

section admission
variable (share : Share) (typeOrder : Order ArmyType) (arms : Arms)

def levelNum (soldiers : Soldiers) (i : Nat) : Int := (armyType.map (fun type => incoming soldiers (arms.ID type i))).sum

-- The part of one kind, rounded down.
def reduceKind (i : Nat) (deadNum levelNum : Int) (s : Reduction) (type : ArmyType) : Reduction :=
  match s.soldiers.lookup (arms.ID type i) with
  | none => s
  | some row =>
    let num := share.floor row.num deadNum levelNum
    ⟨s.soldiers.insert (arms.ID type i) {row with num:=row.num-num},s.reduceNum+num,s.soldierDead.insert type num⟩

-- minNum begins at 0, and any value replaces a 0.
def lesser (least : Option ArmyType × Int) (key : ArmyType) (value : Int) : Option ArmyType × Int :=
  if least.2 = 0 ∨ value < least.2 then (some key,value) else least

def minType (soldierDead : Table ArmyType Int) : Option ArmyType := (soldierDead.forEach typeOrder lesser (none,0)).1

-- The while loop: what the rounding left over comes from the kinds one by one. No result when it
-- runs out of rounds, or indexes a nil.
def reduceRest (i : Nat) (deadNum : Int) : Nat → Reduction → Option Reduction
  | fuel,s =>
    if s.reduceNum < deadNum then
      if s.soldierDead.keys.isEmpty then some s
      else match fuel with
        | 0 => none
        | fuel+1 =>
          match minType typeOrder s.soldierDead with
          | none => none
          | some type =>
            match s.soldiers.lookup (arms.ID type i) with
            | none => none
            | some row =>
              let num := deadNum-s.reduceNum
              if num < row.num then
                reduceRest i deadNum fuel ⟨s.soldiers.insert (arms.ID type i) {row with num:=row.num-num},s.reduceNum+num,s.soldierDead.erase type⟩
              else
                reduceRest i deadNum fuel ⟨s.soldiers.insert (arms.ID type i) {row with num:=0},s.reduceNum+row.num,s.soldierDead.erase type⟩
    else some s

-- One round of the loop over the levels.
def killLevel (fuel : Nat) (s : Dying) (i : Nat) : Option Dying :=
  let levelNum := levelNum arms s.soldiers i
  if levelNum < s.deadNum ∧ 0 < s.deadNum then
    some ⟨(armyType.map (fun type => arms.ID type i)).foldl (fun soldiers id => soldiers.erase id) s.soldiers,s.deadNum-levelNum⟩
  else if s.deadNum ≤ levelNum ∧ 0 < s.deadNum then
    (reduceRest typeOrder arms i s.deadNum fuel (armyType.foldl (reduceKind share arms i s.deadNum levelNum) ⟨s.soldiers,0,∅⟩)).map
      (fun reduced => ⟨reduced.soldiers,0⟩)
  else some s

end admission

-- What is left of the copy when the survivors are taken off.
def dead (copy : Soldiers) (survivors : List Soldier) : Soldiers :=
  survivors.foldl (fun copy soldierInfo => copy.modify soldierInfo.id (fun row => {row with num:=row.num-soldierInfo.num})) copy

structure SoldiersList where
  seriousInjured : Soldiers
  dead : Soldiers
  -- the role's table once SeriousInjureMgr has handled the post
  wounded : Table Nat Injured

def addToHospital (share : Share) (rounding : Rounding) (typeOrder : Order ArmyType) (order : Order Nat) (arms : Arms) (fuel : Nat) (ward : Ward) (soldiers : Soldiers) :
    Option SoldiersList :=
  let maxNum := maxNum rounding ward
  let seriousInjuredNum := ward.seriousInjured.sumOver Injured.num+soldiers.sumOver Soldier.num
  let survivors :=
    if maxNum < seriousInjuredNum then
      ([1,2,3,4,5].foldlM (killLevel share typeOrder arms fuel) ⟨soldiers,seriousInjuredNum-maxNum⟩).map Dying.soldiers
    else some soldiers
  survivors.map (fun survivors =>
    ⟨survivors,dead soldiers (survivors.values order),addSeriousInLock (survivors.values order) ward.seriousInjured⟩)

section reduction
variable {share : Share} {typeOrder : Order ArmyType} {arms : Arms} {soldiers before between after : Soldiers} {s t : Reduction} {i : Nat} {deadNum : Int}

-- Only the numbers differ, and none has grown.
def Fewer (after before : Soldiers) : Prop :=
  ∀ id row, after.lookup id = some row → 0 ≤ row.num ∧ ∃ more, before.lookup id = some more ∧ row.num ≤ more.num ∧ row.id = more.id

def Counted (soldiers : Soldiers) : Prop := ∀ id row, soldiers.lookup id = some row → 0 ≤ row.num

theorem Fewer.refl (counted : Counted soldiers) : Fewer soldiers soldiers :=
  fun id row found => ⟨counted id row found,row,found,le_refl _,rfl⟩

theorem Fewer.trans (second : Fewer after between) (first : Fewer between before) : Fewer after before := by
  intro id row found
  obtain ⟨nonneg,middle,there,le,same⟩ := second id row found
  obtain ⟨_,more,origin,le',same'⟩ := first id middle there
  exact ⟨nonneg,more,origin,le.trans le',same.trans same'⟩

theorem Fewer.counted (fewer : Fewer after before) : Counted after := fun id row found => (fewer id row found).1

theorem Counted.incoming (counted : Counted soldiers) (id : Nat) : 0 ≤ incoming soldiers id := by
  cases found : soldiers.lookup id with
  | none => exact (Table.amount_none found _).ge
  | some row => exact (counted id row found).trans (Table.amount_some found _).ge

theorem Fewer.le (fewer : Fewer after before) (counted : Counted before) (id : Nat) : incoming after id ≤ incoming before id := by
  cases found : after.lookup id with
  | none => exact (Table.amount_none found _).le.trans (counted.incoming id)
  | some row =>
    obtain ⟨_,more,there,le,_⟩ := fewer id row found
    exact (Table.amount_some found _).le.trans (le.trans (Table.amount_some there _).ge)

theorem Fewer.insert {id : Nat} {row : Soldier} {num : Int} (counted : Counted soldiers) (found : soldiers.lookup id = some row) (range : 0 ≤ num ∧ num ≤ row.num) :
    Fewer (soldiers.insert id {row with num:=num}) soldiers := by
  intro key other there
  rcases Table.found_insert there with ⟨rfl,rfl⟩ | ⟨_,elsewhere⟩
  · exact ⟨range.1,row,found,range.2,rfl⟩
  · exact Fewer.refl counted key other elsewhere

-- What a level loses is counted, and no other level is touched.
structure Reduced (arms : Arms) (i : Nat) (s t : Reduction) : Prop where
  fewer : Fewer t.soldiers s.soldiers
  total : t.soldiers.sumOver Soldier.num+t.reduceNum = s.soldiers.sumOver Soldier.num+s.reduceNum
  elsewhere : ∀ id, (∀ type, id ≠ arms.ID type i) → t.soldiers.lookup id = s.soldiers.lookup id

theorem Reduced.refl (counted : Counted s.soldiers) : Reduced arms i s s := ⟨.refl counted,rfl,fun _ _ => rfl⟩

theorem Reduced.trans {r : Reduction} (second : Reduced arms i s t) (first : Reduced arms i r s) : Reduced arms i r t where
  fewer := second.fewer.trans first.fewer
  total := second.total.trans first.total
  elsewhere id other := (second.elsewhere id other).trans (first.elsewhere id other)

-- What the kinds in soldierDead still have.
def left (arms : Arms) (i : Nat) (s : Reduction) : Int := (s.soldierDead.keys.map (fun type => incoming s.soldiers (arms.ID type i))).sum

theorem left_nonneg (arms : Arms) (i : Nat) (counted : Counted s.soldiers) : 0 ≤ left arms i s := by
  refine List.sum_nonneg (fun x mem => ?_)
  obtain ⟨type,_,rfl⟩ := List.mem_map.mp mem
  exact counted.incoming _

def cut (share : Share) (arms : Arms) (i : Nat) (deadNum levelNum : Int) (soldiers : Soldiers) (type : ArmyType) : Int :=
  share.floor (incoming soldiers (arms.ID type i)) deadNum levelNum

-- What one kind gives, and what else changes.
structure Kind (arms : Arms) (i : Nat) (type : ArmyType) (gives : Int) (s t : Reduction) : Prop where
  reduced : Reduced arms i s t
  reduceNum : t.reduceNum = s.reduceNum+gives
  left : left arms i t+t.reduceNum = left arms i s+s.reduceNum+incoming s.soldiers (arms.ID type i)
  soldierDead : ∀ other ∈ t.soldierDead, other = type ∧ arms.ID type i ∈ t.soldiers ∨ other ∈ s.soldierDead
  others : ∀ other ≠ type, incoming t.soldiers (arms.ID other i) = incoming s.soldiers (arms.ID other i)
  present : ∀ id ∈ s.soldiers, id ∈ t.soldiers
  longer : t.soldierDead.keys.length ≤ s.soldierDead.keys.length+1

section share
variable {levelNum : Int} (share : Share) (arms : Arms) (i : Nat)

end share

-- What one level loses to deadNum.
structure Level (arms : Arms) (i : Nat) (s t : Dying) : Prop where
  fewer : Fewer t.soldiers s.soldiers
  total : t.soldiers.sumOver Soldier.num+s.deadNum = s.soldiers.sumOver Soldier.num+t.deadNum
  elsewhere : ∀ id, (∀ type, id ≠ arms.ID type i) → t.soldiers.lookup id = s.soldiers.lookup id
  nonneg : 0 ≤ t.deadNum
  -- more is to die only when nobody of the level is left
  gone : 0 < t.deadNum → ∀ type ∈ armyType, incoming t.soldiers (arms.ID type i) = 0
  settled : s.deadNum = 0 → t = s

-- What the levels lose one after the other.
structure Levels (arms : Arms) (levels : List Nat) (s t : Dying) : Prop where
  fewer : Fewer t.soldiers s.soldiers
  total : t.soldiers.sumOver Soldier.num+s.deadNum = s.soldiers.sumOver Soldier.num+t.deadNum
  elsewhere : ∀ id, (∀ type, ∀ level ∈ levels, id ≠ arms.ID type level) → t.soldiers.lookup id = s.soldiers.lookup id
  nonneg : 0 ≤ t.deadNum
  gone : 0 < t.deadNum → ∀ level ∈ levels, ∀ type ∈ armyType, incoming t.soldiers (arms.ID type level) = 0
  settled : s.deadNum = 0 → t = s
  lower : ∀ low ∈ levels, ∀ high ∈ levels, low < high → ∀ type ∈ armyType, ∀ other,
    incoming t.soldiers (arms.ID other high) < incoming s.soldiers (arms.ID other high) → incoming t.soldiers (arms.ID type low) = 0

theorem Level.then {s t u : Dying} {levels : List Nat} (above : ∀ level ∈ levels, i < level)
    (first : Level arms i s t) (rest : Levels arms levels t u) : Levels arms (i::levels) s u := by
  have kept : ∀ level ∈ levels, ∀ type, incoming t.soldiers (arms.ID type level) = incoming s.soldiers (arms.ID type level) := by
    intro level mem type
    unfold incoming Table.amount
    rw [first.elsewhere (arms.ID type level) (fun other same => absurd (arms.distinct same).2 (above level mem).ne')]
  have still : ∀ type, incoming u.soldiers (arms.ID type i) = incoming t.soldiers (arms.ID type i) := by
    intro type
    unfold incoming Table.amount
    rw [rest.elsewhere (arms.ID type i) (fun other level mem same => absurd (arms.distinct same).2 (above level mem).ne)]
  have spent : 0 < u.deadNum → 0 < t.deadNum := by
    intro more
    refine lt_of_le_of_ne first.nonneg (fun done => ?_)
    rw [rest.settled done.symm] at more
    omega
  refine ⟨rest.fewer.trans first.fewer,?_,?_,rest.nonneg,?_,?_,?_⟩
  · have total := first.total
    have total' := rest.total
    omega
  · intro id other
    rw [rest.elsewhere id (fun type level mem => other type level (List.mem_cons_of_mem _ mem)),
      first.elsewhere id (fun type => other type i List.mem_cons_self)]
  · intro more level mem type kind
    rcases List.mem_cons.mp mem with rfl | later
    · rw [still]
      exact first.gone (spent more) type kind
    · exact rest.gone more level later type kind
  · intro settled
    have same := first.settled settled
    rw [rest.settled (same ▸ settled),same]
  · intro low lowMem high highMem less type kind other died
    rcases List.mem_cons.mp highMem with rfl | highLater
    · rcases List.mem_cons.mp lowMem with rfl | lowLater
      · exact absurd less (lt_irrefl _)
      · exact absurd less (above low lowLater).not_gt
    · rw [← kept high highLater] at died
      rcases List.mem_cons.mp lowMem with rfl | lowLater
      · rw [still]
        refine first.gone (lt_of_le_of_ne first.nonneg (fun done => ?_)) type kind
        rw [rest.settled done.symm] at died
        exact lt_irrefl _ died
      · exact rest.lower low lowLater high highLater less type kind other died

end reduction

section outcome
variable {arms : Arms} {order : Order Nat} {seriousInjured : Table Nat Injured} {soldiers survivors : Soldiers} {maxNum : Int}

end outcome

end OriginGame.Hospital
