import OriginGame.BattleSkill
import OriginGame.Runs

namespace OriginGame.BattleAnger
open BattleSkill

inductive SkillAngerRecover where
  | afterUseAngerSkill | afterSkillHit | afterUseSkill | afterBeAttack
  deriving DecidableEq, Repr

structure SkillBattle where
  autoActive : Option SkillTrigger
  autoActiveParm : Nat
  angerRecoveryType : Option SkillAngerRecover
  angerParm : Nat

-- `skillBattleID` of a row of s_HeroSkill that has it, and the rows of s_SkillBattle.
structure Config where
  skillBattleID : Nat → Option (List Nat)
  s_SkillBattle : Nat → Option SkillBattle

-- CreateBattle and JoinBattle give every object an objectAttr.
structure Object where
  sp : Int
  maxSp : Int
  mainHeroId : Int
  attackAnger : Int
  attackAngerMulti : Int
  troopsAnger : Int
  skills : List SkillInfo

section code
variable (cfg : Config)

def battles (skills : List SkillInfo) : List SkillBattle :=
  skills.flatMap (fun skillInfo => ((cfg.skillBattleID skillInfo.skillId).getD []).filterMap (fun skillBattleId =>
    cfg.s_SkillBattle (battleKey skillBattleId skillInfo.skillLevel)))

def cacleArmyMaxSp (skills : List SkillInfo) : Nat :=
  (battles cfg skills).foldl (fun maxSp battle =>
    if battle.autoActive = some .angerMore ∧ maxSp < battle.autoActiveParm then battle.autoActiveParm else maxSp) 0

-- What normalAttackAddAnger and recoverAngerBySkill do with an amount.
def addAnger (o : Object) (amount : Int) : Object :=
  if 0 < o.mainHeroId then {o with sp:=if o.maxSp < o.sp+amount then o.maxSp else o.sp+amount} else {o with sp:=0}

-- `math.floor( ( attackAnger + 100 ) * ( 1 + attackAngerMulti / 1000 ) )`
def exactAnger (attackAnger attackAngerMulti : Int) : Int := (attackAnger+100)*(1000+attackAngerMulti)/1000

-- The quotient and the product are doubles, so the floor may miss the exact one: any
-- function of the two attributes stands for it.
variable (floorAnger : Int → Int → Int)

def normalAttackAddAnger (o : Object) : Object := addAnger o (floorAnger o.attackAnger o.attackAngerMulti)

def useSkillSubAnger (sp : Nat) (o : Object) : Object := {o with sp:=if o.sp-sp ≤ 0 then 0 else o.sp-sp}

def recoverAngerBySkill (recoverType : SkillAngerRecover) (battle : Option SkillBattle) (o : Object) : Object :=
  (battle.elim (battles cfg o.skills) (fun battle => [battle])).foldl (fun o battle =>
    if battle.angerRecoveryType = some recoverType then addAnger o battle.angerParm else o) o

def turnOverAnger (o : Object) : Object :=
  {o with sp:=if o.sp+o.troopsAnger < 0 then 0 else if o.maxSp < o.sp+o.troopsAnger then o.maxSp else o.sp+o.troopsAnger}

end code

abbrev Scene := Table Nat Object

-- What an object joins with. Its maxSp is 0 or what cacleArmyMaxSp made of some skills.
structure Info where
  maxSpOf : Option (List SkillInfo)
  mainHeroId : Int
  skills : List SkillInfo

-- `change` is all that happens to an object besides: new attributes, heroes and skills.
inductive Label where
  | join (objectIndex : Nat) (info : Info)
  | exit (objectIndex : Nat)
  | change (objectIndex : Nat) (mainHeroId attackAnger attackAngerMulti troopsAnger : Int) (skills : List SkillInfo)
  | normalAttackAddAnger (objectIndex : Nat)
  | useSkillSubAnger (objectIndex sp : Nat)
  | recoverAngerBySkill (objectIndex : Nat) (recoverType : SkillAngerRecover) (battle : Option SkillBattle)
  | turnOverAnger

section runs
variable (cfg : Config) (floorAnger : Int → Int → Int)

def create (info : Info) : Object := ⟨0,(info.maxSpOf.map (cacleArmyMaxSp cfg)).getD 0,info.mainHeroId,0,0,0,info.skills⟩

def next (s : Scene) : Label → Scene
  | .join objectIndex info => s.insert objectIndex (create cfg info)
  | .exit objectIndex => s.erase objectIndex
  | .change objectIndex mainHeroId attackAnger attackAngerMulti troopsAnger skills => Table.modify s objectIndex (fun o => {o with
      mainHeroId:=mainHeroId, attackAnger:=attackAnger, attackAngerMulti:=attackAngerMulti, troopsAnger:=troopsAnger, skills:=skills})
  | .normalAttackAddAnger objectIndex => Table.modify s objectIndex (normalAttackAddAnger floorAnger)
  | .useSkillSubAnger objectIndex sp => Table.modify s objectIndex (useSkillSubAnger sp)
  | .recoverAngerBySkill objectIndex recoverType battle => Table.modify s objectIndex (recoverAngerBySkill cfg recoverType battle)
  | .turnOverAnger => Table.mapValues turnOverAnger s

def Object.Bounded (o : Object) : Prop := 0 ≤ o.sp ∧ o.sp ≤ o.maxSp

def Bounded (s : Scene) : Prop := ∀ objectIndex o, s.lookup objectIndex = some o → o.Bounded

-- A normal attack with a main hero does not take more anger than there is.
def Fits (s : Scene) : Label → Prop
  | .normalAttackAddAnger objectIndex => ∀ o, s.lookup objectIndex = some o → 0 < o.mainHeroId →
      0 ≤ o.sp+floorAnger o.attackAnger o.attackAngerMulti
  | _ => True

end runs

section bounds
variable {cfg : Config} {floorAnger : Int → Int → Int} {s : Scene} {o : Object}

theorem addAnger_bounded (bounded : o.Bounded) (amount : Int) : (addAnger o amount).Bounded ↔ (0 < o.mainHeroId → 0 ≤ o.sp+amount) := by
  obtain ⟨low,high⟩ := bounded
  unfold addAnger Object.Bounded
  split
  next hero =>
    dsimp only
    split
    next above => exact ⟨fun _ _ => by omega,fun _ => ⟨by omega,le_refl _⟩⟩
    next under => exact ⟨fun both _ => both.1,fun enough => ⟨enough hero,by omega⟩⟩
  next nobody => exact ⟨fun _ hero => absurd hero nobody,fun _ => ⟨le_refl _,low.trans high⟩⟩

theorem useSkillSubAnger_bounded (bounded : o.Bounded) (sp : Nat) : (useSkillSubAnger sp o).Bounded := by
  obtain ⟨low,high⟩ := bounded
  unfold useSkillSubAnger Object.Bounded
  dsimp only
  split <;> omega

theorem turnOverAnger_bounded (bounded : o.Bounded) : (turnOverAnger o).Bounded := by
  obtain ⟨low,high⟩ := bounded
  unfold turnOverAnger Object.Bounded
  dsimp only
  split
  · omega
  · split <;> omega

theorem recoverAngerBySkill_bounded (bounded : o.Bounded) (recoverType : SkillAngerRecover) (battle : Option SkillBattle) :
    (recoverAngerBySkill cfg recoverType battle o).Bounded := by
  unfold recoverAngerBySkill
  generalize battle.elim (battles cfg o.skills) (fun battle => [battle]) = rows
  induction rows generalizing o with
  | nil => exact bounded
  | cons row rest ih =>
    rw [List.foldl_cons]
    refine ih ?_
    split
    · have low := bounded.1
      exact (addAnger_bounded bounded row.angerParm).mpr (fun _ => by omega)
    · exact bounded

theorem create_bounded (info : Info) : (create cfg info).Bounded := by
  unfold create Object.Bounded
  exact ⟨le_refl _,Int.natCast_nonneg _⟩

theorem insert_bounded (bounded : Bounded s) {new : Object} (fits : new.Bounded) (objectIndex : Nat) : Bounded (s.insert objectIndex new) := by
  intro other o found
  rcases Table.found_insert found with ⟨_,rfl⟩ | ⟨_,found⟩
  · exact fits
  · exact bounded other o found

-- A step that changes one object keeps the bounds as that object does.
theorem modify_bounded (bounded : Bounded s) (objectIndex : Nat) (change : Object → Object) :
    Bounded (Table.modify s objectIndex change) ↔ ∀ o, s.lookup objectIndex = some o → (change o).Bounded := by
  constructor
  · intro all o found
    refine all objectIndex _ ?_
    rw [Table.lookup_modify_self,found]
    rfl
  · intro fits other o found
    rw [Table.lookup_modify] at found
    split at found
    next same =>
      obtain ⟨was,there,rfl⟩ := Option.map_eq_some_iff.mp found
      exact fits was there
    next => exact bounded other o found

theorem next_bounded (label : Label) (bounded : Bounded s) : Bounded (next cfg floorAnger s label) ↔ Fits floorAnger s label := by
  cases label with
  | join objectIndex info => exact ⟨fun _ => trivial,fun _ => insert_bounded bounded (create_bounded info) objectIndex⟩
  | exit objectIndex => exact ⟨fun _ => trivial,fun _ other o found => bounded other o (Table.found_erase found).2⟩
  | change objectIndex mainHeroId attackAnger attackAngerMulti troopsAnger skills =>
    exact ⟨fun _ => trivial,fun _ => (modify_bounded bounded objectIndex _).mpr (fun o found => bounded objectIndex o found)⟩
  | normalAttackAddAnger objectIndex =>
    refine (modify_bounded bounded objectIndex _).trans ⟨fun all o found => ?_,fun all o found => ?_⟩
    · exact (addAnger_bounded (bounded objectIndex o found) _).mp (all o found)
    · exact (addAnger_bounded (bounded objectIndex o found) _).mpr (all o found)
  | useSkillSubAnger objectIndex sp =>
    exact ⟨fun _ => trivial,fun _ => (modify_bounded bounded objectIndex _).mpr (fun o found =>
      useSkillSubAnger_bounded (bounded objectIndex o found) sp)⟩
  | recoverAngerBySkill objectIndex recoverType battle =>
    exact ⟨fun _ => trivial,fun _ => (modify_bounded bounded objectIndex _).mpr (fun o found =>
      recoverAngerBySkill_bounded (bounded objectIndex o found) recoverType battle)⟩
  | turnOverAnger =>
    refine ⟨fun _ => trivial,fun _ other o found => ?_⟩
    change (Table.mapValues turnOverAnger s).lookup other = some o at found
    rw [Table.lookup_mapValues] at found
    obtain ⟨was,there,rfl⟩ := Option.map_eq_some_iff.mp found
    exact turnOverAnger_bounded (bounded other was there)

end bounds

theorem anger_bounded (cfg : Config) (floorAnger : Int → Int → Int) (labels : List Label) :
    (∀ n, Bounded ((labels.take n).foldl (next cfg floorAnger) ∅)) ↔ Runs.Passes (next cfg floorAnger) (Fits floorAnger) ∅ labels :=
  Runs.always_iff Bounded (fun _ label => next_bounded label) (fun _ _ found => by cases found) labels

-- A debuff of 250 on the anger of normal attacks takes 150 with the first of them.
def feared : List Label := [.join 1 ⟨none,7,[]⟩,.change 1 7 (-250) 0 0 [],.normalAttackAddAnger 1]

theorem feared_negative : ¬∀ n, Bounded ((feared.take n).foldl (next ⟨fun _ => none,fun _ => none⟩ exactAnger) ∅) := by
  intro always
  have low := (always 3 1 ⟨-150,0,7,-250,0,0,[]⟩ rfl).1
  exact absurd low (by decide)

end OriginGame.BattleAnger
