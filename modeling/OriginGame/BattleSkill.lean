import OriginGame.LuaTable
import OriginGame.WorkStack

namespace OriginGame

inductive SkillTrigger where
  | angerMore | normalAttack | beatback | angerSkill | makeDamage | getShiled | resumeSoldier | hadBuff | hadDebuff
  | attackBuild | attackCity | attackOutCity | attackCityTurnMore | afterUseSkill
  | selfInfantryMore | selfInfantryLess | selfCavalryMore | selfCavalryLess | selfArcherMore | selfArcherLess
  | selfSiegeUnitMore | selfSiegeUnitLess | selfArmyCountMore | selfArmyCountLess | selfSoldierCountMore | selfSoldierCountLess
  | beNormalDamage | beBeatBackDamage | beSkillDamage | beAnyDamage | beConverAttack | enemyHadShiled | enemyHadBuff | enemyHadDebuff
  | enemySoldierCountMore | enemySoldierCountLess | enterBattle | leaveBattle | leaveBuild | winAnyEnemy | winOutArmy | afterKillMonster
  | onDutyHeroAttack | onDutyHeroConver
  deriving DecidableEq

inductive StatusTrigger where
  | inTurn | onEnd | onClean
  deriving DecidableEq

namespace BattleSkill

structure SkillInfo where
  skillId : Nat
  skillLevel : Nat
  talent : Bool
  deputySkill : Bool

structure HeroSkill where
  type : Nat
  skillBattleID : List Nat
  awakenEnhance : Option Nat

-- What the configuration does not give is zero.
structure SkillBattle where
  autoActive : Option SkillTrigger
  autoActiveRate : Int
  autoActiveInterval : Int
  autoActivePro : Int
  dmgPower : Int
  healPower : Int
  statusID : List Nat
  statusDelType : Nat

structure Config where
  s_HeroSkill : Table Nat HeroSkill
  s_SkillBattle : Table Nat SkillBattle

-- One use of a skill: of the object, the skill and the entry of s_SkillBattle.
structure Use where
  objectIndex : Nat
  skillId : Nat
  useSkillId : Nat
  skillLevel : Nat
  deriving DecidableEq

def battleKey (useSkillId skillLevel : Nat) : Nat := useSkillId*100+skillLevel

def Use.key (use : Use) : Nat := battleKey use.useSkillId use.skillLevel

-- The counters of the skills, and the rest of the scene. `used` has the uses that have
-- begun in this turn.
structure Scene (σ : Type) where
  rest : σ
  turn : Int
  triggerSkillCount : Nat → Table Nat Nat
  triggerSkillInterval : Nat → Table Nat Int
  used : List Use

-- What is done to the rest of the scene: soldiers, statuses, anger, reports and random
-- draws. Only the objects of the map have skills.
structure Effects (σ : Type) where
  objects : List Nat
  skills : σ → Nat → List SkillInfo
  skills_known : ∀ rest objectIndex, objectIndex ∉ objects → skills rest objectIndex = []
  checkSkillArmy : σ → Nat → SkillBattle → Bool
  checkSkillCondition : σ → Nat → Nat → SkillTrigger → SkillBattle → Option (Nat × Nat) → Bool → Bool
  random : σ → Int × σ
  useSkillAnger : σ → Nat → SkillBattle → Bool → σ
  recoverAnger : σ → Nat → σ
  getTargetIndexs : σ → Nat → Nat → SkillBattle → List Nat × σ
  enterBattle : σ → Nat → Nat → SkillBattle → σ
  cacleSkillDamage : σ → Nat → Nat → SkillBattle → Int × σ
  shileds : σ → Nat → Int → (Int × List Nat) × σ
  hurt : σ → Nat → Nat → Int → σ
  cacleSkillHeal : σ → Nat → Nat → SkillBattle → Int × σ
  healMinor : σ → Nat → Int → σ
  addObjectHeal : σ → Nat → σ
  addBuff : σ → Nat → Nat → Nat → Bool × σ
  deleteBuff : σ → Nat → SkillBattle → List Nat × σ
  noteHit : σ → Use → Nat → Int → σ
  insertBattleReport : σ → Nat → Nat → σ
  noteUse : σ → Nat → SkillBattle → σ
  statusMoment : σ → Nat → Nat → StatusTrigger
  statusHeal : σ → Nat → Nat → Int × σ
  statusDamage : σ → Nat → Nat → Option Int × σ
  removeBuff : σ → Nat → Nat → σ
  cacleObjectAttr : σ → Nat → σ

-- What is called from outside; `other` is the code of a turn in between.
inductive Call (σ : Type) where
  | triggerSkill (attackIndex defenseIndex : Nat) (skillTrigger : SkillTrigger) (useSkill : Option (Nat × Nat))
  | cacleShiled (objectIndex : Nat) (damage : Int)
  | healArmy (objectIndex : Nat) (heal : Int)
  | cacleStatusHeal (objectIndex buffIndex : Nat)
  | cacleStatusDamage (objectIndex buffIndex : Nat)
  | removeBuffs (moment : StatusTrigger) (objectIndex : Nat) (pick : σ → List Nat × σ)
  | other (change : σ → σ)

-- A call, or what remains of one: the turns of its loops and what comes after a call in it.
inductive Frame (σ : Type) where
  | call (call : Call σ)
  | skillInfo (attackIndex defenseIndex : Nat) (skillTrigger : SkillTrigger) (useSkill : Option (Nat × Nat)) (skillInfo : SkillInfo)
  | skill (attackIndex defenseIndex : Nat) (skillTrigger : SkillTrigger) (useSkill : Option (Nat × Nat)) (skillInfo : SkillInfo) (skillBattleId : Nat)
  | target (use : Use) (battle : SkillBattle) (objectIndex : Nat)
  | hurt (use : Use) (battle : SkillBattle) (objectIndex : Nat) (damage : Int)
  | heal (use : Use) (battle : SkillBattle) (objectIndex : Nat)
  | healed (objectIndex : Nat)
  | status (use : Use) (objectIndex statusId : Nat)
  | clean (battle : SkillBattle) (objectIndex : Nat)
  | hit (use : Use) (objectIndex : Nat) (damage : Int)
  | report (attackIndex defenseIndex : Nat)
  | record (use : Use) (battle : SkillBattle)
  | anger (attackIndex : Nat)
  | statusEnd (moment : StatusTrigger) (objectIndex buffIndex : Nat)
  | removeBuff (objectIndex buffIndex : Nat)
  | regroup (objectIndex : Nat)
  | dot (objectIndex : Nat) (damage : Int)

def checkIsAwakeEnhance (cfg : Config) (skillId : Nat) (skills : List SkillInfo) : Option (List Nat) :=
  skills.findSome? (fun skillInfo => (cfg.s_HeroSkill.lookup skillInfo.skillId).bind (fun hero =>
    if hero.type = 4 && decide (hero.awakenEnhance = some skillId) then some hero.skillBattleID else none))

section scene
variable {σ : Type} (e : Effects σ) (cfg : Config) (scene : Scene σ)

def checkTriggerCount (objectIndex skillId : Nat) (maxCount : Int) : Bool :=
  ((scene.triggerSkillCount objectIndex).lookup skillId).all (fun count : Nat => decide ((count : Int) < maxCount))

def checkTriggerInterval (objectIndex skillId : Nat) (interval : Int) : Bool :=
  ((scene.triggerSkillInterval objectIndex).lookup skillId).all (fun last => decide (interval ≤ scene.turn-last))

-- The use that one skill of an object comes to, if it passes all checks. The draw is
-- the last of them.
def attempt (attackIndex defenseIndex : Nat) (skillTrigger : SkillTrigger) (useSkill : Option (Nat × Nat)) (skillInfo : SkillInfo) (skillBattleId : Nat) :
    Option (Use × SkillBattle) × σ :=
  if !skillInfo.talent && decide (skillBattleId = 0) then (none,scene.rest)
  else
    let useSkillId := if skillInfo.talent then skillInfo.skillId else skillBattleId
    match cfg.s_HeroSkill.lookup skillInfo.skillId,cfg.s_SkillBattle.lookup (battleKey useSkillId skillInfo.skillLevel) with
    | some hero,some battle =>
      if hero.type ≠ 4 && decide (battle.autoActive = some skillTrigger) && e.checkSkillArmy scene.rest attackIndex battle &&
          e.checkSkillCondition scene.rest attackIndex defenseIndex skillTrigger battle useSkill skillInfo.deputySkill &&
          checkTriggerCount scene attackIndex skillInfo.skillId battle.autoActiveRate &&
          checkTriggerInterval scene attackIndex skillInfo.skillId battle.autoActiveInterval then
        let (roll,rest) := e.random scene.rest
        (if battle.autoActivePro < roll then none else some (⟨attackIndex,skillInfo.skillId,useSkillId,skillInfo.skillLevel⟩,battle),rest)
      else (none,scene.rest)
    | _,_ => (none,scene.rest)

def Scene.put (rest : σ) : Scene σ := {scene with rest}

-- The loop over the statuses that are removed, and the new attributes after it.
def ended (moment : StatusTrigger) (objectIndex : Nat) (removed : List Nat) : List (Frame σ) :=
  removed.map (.statusEnd moment objectIndex)++(if removed = [] then [] else [.regroup objectIndex])

def trigger (attackIndex defenseIndex : Nat) (skillTrigger : SkillTrigger) : Frame σ := .call (.triggerSkill attackIndex defenseIndex skillTrigger none)

-- useSkill, and what triggerSkill does after it.
def useSkill (use : Use) (battle : SkillBattle) (targets : List Nat) (attackIndex defenseIndex : Nat) : List (Frame σ) :=
  targets.map (.target use battle)++
  .record use battle::.call (.triggerSkill attackIndex defenseIndex .afterUseSkill (some (use.useSkillId,use.skillLevel)))::
  (if battle.autoActive = some .angerMore then
    [.call (.triggerSkill attackIndex defenseIndex .angerSkill (some (use.useSkillId,use.skillLevel))),.anger attackIndex]
  else [])

-- The counters are those of the entry, not of the skill.
def record (use : Use) (battle : SkillBattle) : Scene σ :=
  let count := ((scene.triggerSkillCount use.objectIndex).lookup use.useSkillId).getD 0
  {scene with
    rest:=e.noteUse scene.rest use.objectIndex battle
    triggerSkillCount:=Function.update scene.triggerSkillCount use.objectIndex
      ((scene.triggerSkillCount use.objectIndex).insert use.useSkillId (count+1))
    triggerSkillInterval:=Function.update scene.triggerSkillInterval use.objectIndex
      ((scene.triggerSkillInterval use.objectIndex).insert use.useSkillId scene.turn)}

def runCall : Call σ → List (Frame σ) × Scene σ
  | .triggerSkill attackIndex defenseIndex skillTrigger useSkill =>
    ((e.skills scene.rest attackIndex).map (.skillInfo attackIndex defenseIndex skillTrigger useSkill),scene)
  | .cacleShiled objectIndex damage =>
    let ((_,removed),rest) := e.shileds scene.rest objectIndex damage
    (ended .onEnd objectIndex removed,scene.put rest)
  | .healArmy objectIndex heal => ([trigger objectIndex objectIndex .resumeSoldier],scene.put (e.healMinor scene.rest objectIndex heal))
  | .cacleStatusHeal objectIndex buffIndex =>
    let (heal,rest) := e.statusHeal scene.rest objectIndex buffIndex
    (if 0 < heal then [.call (.healArmy objectIndex heal),.healed objectIndex] else [],scene.put rest)
  | .cacleStatusDamage objectIndex buffIndex =>
    match e.statusDamage scene.rest objectIndex buffIndex with
    | (none,rest) => ([],scene.put rest)
    | (some damage,rest) =>
      let ((left,removed),rest) := e.shileds rest objectIndex damage
      (ended .onEnd objectIndex removed++[.dot objectIndex left],scene.put rest)
  | .removeBuffs moment objectIndex pick =>
    let (removed,rest) := pick scene.rest
    (ended moment objectIndex removed,scene.put rest)
  | .other change => ([],scene.put (change scene.rest))

def runFrame : Frame σ → List (Frame σ) × Scene σ
  | .call call => runCall e scene call
  | .skillInfo attackIndex defenseIndex skillTrigger useSkill skillInfo =>
    match cfg.s_HeroSkill.lookup skillInfo.skillId with
    | none => ([],scene)
    | some hero =>
      let skillBattleID := (checkIsAwakeEnhance cfg skillInfo.skillId (e.skills scene.rest attackIndex)).getD hero.skillBattleID
      (skillBattleID.map (.skill attackIndex defenseIndex skillTrigger useSkill skillInfo),scene)
  | .skill attackIndex defenseIndex skillTrigger useSkillOf skillInfo skillBattleId =>
    match attempt e cfg scene attackIndex defenseIndex skillTrigger useSkillOf skillInfo skillBattleId with
    | (none,rest) => ([],scene.put rest)
    | (some (use,battle),rest) =>
      let rest := if skillTrigger = .angerMore then e.useSkillAnger rest attackIndex battle skillInfo.deputySkill else rest
      let (targets,rest) := e.getTargetIndexs rest attackIndex defenseIndex battle
      (useSkill use battle targets attackIndex defenseIndex,{scene with rest, used:=use::scene.used})
  | .target use battle objectIndex =>
    let rest := e.enterBattle scene.rest use.objectIndex objectIndex battle
    if 0 < battle.dmgPower then
      let (damage,rest) := e.cacleSkillDamage rest use.objectIndex objectIndex battle
      let ((left,removed),rest) := e.shileds rest objectIndex damage
      (ended .onEnd objectIndex removed++[.hurt use battle objectIndex left],scene.put rest)
    else ([.hurt use battle objectIndex 0],scene.put rest)
  | .hurt use battle objectIndex damage =>
    (.heal use battle objectIndex::(battle.statusID.filter (0 < ·)).map (.status use objectIndex)++[.clean battle objectIndex,.hit use objectIndex damage],
      scene.put (if 0 < damage then e.hurt scene.rest use.objectIndex objectIndex damage else scene.rest))
  | .heal use battle objectIndex =>
    if 0 < battle.healPower then
      let (heal,rest) := e.cacleSkillHeal scene.rest use.objectIndex objectIndex battle
      ([.call (.healArmy objectIndex heal),.healed objectIndex],scene.put rest)
    else ([],scene)
  | .healed objectIndex => ([],scene.put (e.addObjectHeal scene.rest objectIndex))
  | .status use objectIndex statusId =>
    let (added,rest) := e.addBuff scene.rest use.objectIndex objectIndex statusId
    (if added then [trigger objectIndex objectIndex .hadBuff,trigger objectIndex objectIndex .hadDebuff] else [],scene.put rest)
  | .clean battle objectIndex =>
    if 0 < battle.statusDelType then
      let (removed,rest) := e.deleteBuff scene.rest objectIndex battle
      (ended .onClean objectIndex removed,scene.put rest)
    else ([],scene)
  | .hit use objectIndex damage =>
    (if 0 < damage then
      [trigger use.objectIndex objectIndex .makeDamage,trigger objectIndex use.objectIndex .beSkillDamage,
        trigger objectIndex use.objectIndex .beAnyDamage,.report use.objectIndex objectIndex]
    else [],scene.put (e.noteHit scene.rest use objectIndex damage))
  | .report attackIndex defenseIndex => ([],scene.put (e.insertBattleReport scene.rest attackIndex defenseIndex))
  | .record use battle => ([],record e scene use battle)
  | .anger attackIndex => ([],scene.put (e.recoverAnger scene.rest attackIndex))
  | .statusEnd moment objectIndex buffIndex =>
    (if e.statusMoment scene.rest objectIndex buffIndex = moment then
      [.call (.cacleStatusHeal objectIndex buffIndex),.call (.cacleStatusDamage objectIndex buffIndex),.removeBuff objectIndex buffIndex]
    else [.removeBuff objectIndex buffIndex],scene)
  | .removeBuff objectIndex buffIndex => ([],scene.put (e.removeBuff scene.rest objectIndex buffIndex))
  | .regroup objectIndex => ([],scene.put (e.cacleObjectAttr scene.rest objectIndex))
  | .dot objectIndex damage =>
    if 0 < damage then ([trigger objectIndex objectIndex .beAnyDamage],scene.put (e.hurt scene.rest objectIndex objectIndex damage)) else ([],scene)

end scene

abbrev Running (σ : Type) := WorkStack (Frame σ) (Scene σ)

def start (calls : List (Call σ)) (scene : Scene σ) : Running σ := ⟨calls.map .call,scene⟩

-- The turn has just begun.
def Scene.Fresh (scene : Scene σ) : Prop := scene.used = [] ∧ ∀ objectIndex, scene.triggerSkillCount objectIndex = ∅

-- Every skill that can be triggered has a limit or an interval.
def Limited (cfg : Config) : Prop := ∀ key battle, cfg.s_SkillBattle.lookup key = some battle → battle.autoActive.isSome = true →
  0 < battle.autoActiveRate ∨ 0 < battle.autoActiveInterval

def Frame.records : Frame σ → Option Use
  | .record use _ => some use
  | _ => none

def Frame.removes : Frame σ → Option Nat
  | .removeBuff objectIndex _ => some objectIndex
  | _ => none

-- A skill that is used is not already in use, and is counted under its own id or has not
-- been used in this turn; and what a status deals when it ends uses up no shield.
def Calm (e : Effects σ) (cfg : Config) (s : Running σ) : Prop :=
  match s.work with
  | .skill attackIndex defenseIndex skillTrigger useSkill skillInfo skillBattleId::below =>
    ∀ use battle, (attempt e cfg s.state attackIndex defenseIndex skillTrigger useSkill skillInfo skillBattleId).1 = some (use,battle) →
      (∀ frame ∈ below, frame.records ≠ some use) ∧ (use.useSkillId = use.skillId ∨ use ∉ s.state.used)
  | .call (.cacleStatusDamage objectIndex buffIndex)::below =>
    (∃ frame ∈ below, frame.removes = some objectIndex) →
      ∀ damage, (e.statusDamage s.state.rest objectIndex buffIndex).1 = some damage →
        (e.shileds (e.statusDamage s.state.rest objectIndex buffIndex).2 objectIndex damage).1.2 = []
  | _ => True

end BattleSkill
end OriginGame
