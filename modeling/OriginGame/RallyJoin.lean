import OriginGame.BattleScene
import OriginGame.LossesSettled
import OriginGame.RallyMgr

namespace OriginGame

namespace ArmyStatus

def battleing : Nat := 1 <<< 8
def rallyJoinMarch : Nat := 1 <<< 23

end ArmyStatus

namespace RallyJoin

inductive ErrorCode where
  | rallyJoinNotFound
  | rallyJoinHadJoin
  | rallyOverMaxMassTroops
  | rallyJoinOnArmyMatch
  | rallyActionForceNoEnough
  | rallyCreateArmyFail
  | rallyNoPathToTarget
  deriving DecidableEq, Repr

-- A record of d_army, less its march.
structure Army where
  mainHeroId : Nat
  deputyHeroId : Nat
  soldiers : Table Nat Hospital.AddSoldier
  status : Nat
  preCostActionForce : Nat

structure Role where
  soldiers : Table Nat Hospital.SoldierInfo
  armies : Table Nat Army
  actionForce : Int
  lastArmyIndex : Nat

namespace Role

def setStatus (armyIndex status : Nat) (role : Role) : Role :=
  {role with armies:=role.armies.modify armyIndex (fun army => {army with status})}

def setPreCost (armyIndex preCostActionForce : Nat) (role : Role) : Role :=
  {role with armies:=role.armies.modify armyIndex (fun army => {army with preCostActionForce})}

def addActionForce (num : Int) (role : Role) : Role := {role with actionForce:=role.actionForce+num}

-- The deduction before a march, the same for an army in a building and one on the map.
def charge (needActionForce : Option Nat) (armyIndex : Nat) (role : Role) : Role :=
  match needActionForce with
  | some need => (role.setPreCost armyIndex need).addActionForce (-need)
  | none => role

def backActionForce (actionForceLimit actionForce : Int) (preCostActionForce : Nat) : Int :=
  if actionForceLimit ≤ actionForce then 0
  else if actionForceLimit < actionForce+preCostActionForce then actionForceLimit-actionForce
  else preCostActionForce

-- checkReturnActionForce, and the army's record after it.
def refund (actionForceLimit : Int) (armyIndex : Nat) (role : Role) : Role :=
  match role.armies.lookup armyIndex with
  | some army =>
    if 0 < army.preCostActionForce then
      (role.addActionForce (backActionForce actionForceLimit role.actionForce army.preCostActionForce)).setPreCost armyIndex 0
    else role
  | none => role

end Role

structure Team extends RallyMgr.RallyTeam where
  rallyTargetType : RoleType
  rallyTargetMonsterId : Nat

structure Join where
  rallyRid : Nat
  armyIndex : Option Nat
  mainHeroId : Nat
  deputyHeroId : Nat
  soldiers : Table Nat Hospital.AddSoldier
  soldierSum : Nat

-- The rally that an army on the map was on its way to. retreats is the status that
-- updateArmyPath has written by now: whether there is one, and a battle in it.
structure OldRally where
  arrivalTime : Nat
  refunds : Bool
  rallyArmy : Option Nat
  retreats : Option Bool

structure MapArmy where
  armyIndex : Nat
  isRally : Bool
  oldRally : Option OldRally

-- How armyMove ends for an army that enters the map. One without a path is put there
-- to stand, which SceneArmyMgr may have handled by now.
inductive Entry where
  | marches (arrivalTime : Nat)
  | far
  | noPath (stationed : Bool)

-- What joinRally reads outside of its arguments.
structure Env where
  now : Nat
  rallyArmyMax : Nat
  rallyArmyCount : Nat
  targetMonsterId : Nat
  rallyAP : Nat → Option Nat
  vitalityReduction : Nat → Bool → Int
  actionForceLimit : Int
  transports : Nat
  troopsDispatchNumber : Nat
  heroStar : Table Nat Nat
  soldierLimit : Nat → Nat → Option Int
  adds : Bool
  roleArmyIndex : Nat → Option Nat
  mapArmy : Nat → Option MapArmy
  inBuilding : Nat → Bool
  objectIndex : Nat
  entry : Entry
  arrivalTime : Option Nat

section Env
variable (env : Env) (call : Join) (team : Team) (role : Role)

-- A hero's id that is zero is no hero.
def subHeroVitality (mainHeroId deputyHeroId : Nat) (vitality : Int) : Int :=
  let vitality := if 0 < mainHeroId then vitality-env.vitalityReduction mainHeroId false else vitality
  max (if 0 < deputyHeroId then vitality-env.vitalityReduction deputyHeroId true else vitality) 0

-- Only rallies against monsters cost action force.
def needActionForce : Option Nat :=
  if team.rallyTargetType = .monsterCity ∨ team.rallyTargetType = .summonRallyMonster then
    let monsterId := if 0 < team.rallyTargetMonsterId then team.rallyTargetMonsterId else env.targetMonsterId
    let rallyAP : Nat := (env.rallyAP monsterId).getD 0
    match call.armyIndex with
    | some armyIndex =>
      let heroes := ((role.armies.lookup armyIndex).map (fun army => (army.mainHeroId,army.deputyHeroId))).getD (0,0)
      some (subHeroVitality env heroes.1 heroes.2 rallyAP).toNat
    | none => some (subHeroVitality env call.mainHeroId call.deputyHeroId rallyAP).toNat
  else none

-- The checks of a team that is there, before anything is changed.
def refusal : Option ErrorCode :=
  if (team.rallyArmy.lookup call.rallyRid).isSome then some .rallyJoinHadJoin
  else if env.rallyArmyMax < env.rallyArmyCount+call.soldierSum then some .rallyOverMaxMassTroops
  else if 0 < team.rallyObjectIndex then some .rallyJoinOnArmyMatch
  else
    match needActionForce env call team role with
    | some need => if role.actionForce < need then some .rallyActionForceNoEnough else none
    | none => none

def checkHeroExist (heroId : Nat) : Bool := decide (heroId = 0) || (env.heroStar.lookup heroId).isSome

def checkHeroIdle (heroIds : List Nat) : Bool :=
  role.armies.keys.all (fun armyIndex => (role.armies.lookup armyIndex).all (fun army =>
    decide (army.mainHeroId ∉ heroIds) && (decide (army.deputyHeroId = 0) || decide (army.deputyHeroId ∉ heroIds))))

-- The role has what is asked of one kind.
def hasSoldier (soldierId : Nat) (soldierInfo : Hospital.AddSoldier) : Bool :=
  (role.soldiers.lookup soldierId).any (fun row => decide (soldierInfo.num ≤ row.num))

def enoughSoldiers : Bool := call.soldiers.keys.all (fun id => (call.soldiers.lookup id).all (hasSoldier role id))

def soldierSum : Int := Table.sumOver (·.num) call.soldiers

-- The checks of createArmy. The stars and the capacity of a hero that is not there raise.
def createChecks : Option Bool :=
  if env.troopsDispatchNumber ≤ role.armies.keys.length+env.transports then some false
  else if !checkHeroExist env call.mainHeroId || !checkHeroExist env call.deputyHeroId then some false
  else if !checkHeroIdle role [call.mainHeroId,call.deputyHeroId] then some false
  else if 0 < call.deputyHeroId ∧ env.heroStar.lookup call.mainHeroId = none then none
  else if 0 < call.deputyHeroId ∧ (env.heroStar.lookup call.mainHeroId).any (fun star => decide (star < 3)) then some false
  else if !enoughSoldiers call role then some false
  else if soldierSum call ≤ 0 then some false
  else (env.soldierLimit call.mainHeroId call.deputyHeroId).map (fun limit => decide (soldierSum call ≤ limit))

def getNewArmyIndex : Nat := (if role.lastArmyIndex = 0 then role.armies.keys.foldr max 0 else role.lastArmyIndex)+1

inductive Created where
  | created (armyIndex : Nat) (role : Role)
  | refused (role : Role)
  | raised (role : Role)

def createArmy (order : Order Nat) (preCostActionForce : Option Nat) : Created :=
  match createChecks env call role with
  | none => .raised role
  | some false => .refused role
  | some true =>
    let armyIndex := getNewArmyIndex role
    let army : Army := ⟨call.mainHeroId,call.deputyHeroId,Table.keepValues (fun soldierInfo => decide (0 < soldierInfo.num)) call.soldiers,
      ArmyStatus.rallyJoinMarch,preCostActionForce.getD 0⟩
    let role := ({role with lastArmyIndex:=armyIndex}).addActionForce (-(preCostActionForce.getD 0))
    if env.adds then
      .created armyIndex {role with
        armies:=role.armies.insert armyIndex army,
        soldiers:=BattleCallback.subSoldiersInLock order call.soldiers role.soldiers}
    else .refused role

-- Whatever checkArmyOldTarget did to the status is overwritten first.
def armyEnterMap (armyIndex : Nat) : Role × Option Nat :=
  let role := role.setStatus armyIndex ArmyStatus.rallyJoinMarch
  match env.entry with
  | .marches arrivalTime => (role,some arrivalTime)
  | .far => (role,none)
  | .noPath stationed => (if stationed then role.setStatus armyIndex ArmyStatus.stationing else role,none)

def retreatStatus (battleing : Bool) : Nat :=
  if battleing then ArmyStatus.retreatMarch ||| ArmyStatus.battleing else ArmyStatus.retreatMarch

-- exitRallyTeam, for an army that goes home from its way.
def exitRally (old : OldRally) : Role :=
  match old.rallyArmy with
  | some armyIndex =>
    let role := if old.refunds then role.refund env.actionForceLimit armyIndex else role
    match old.retreats with
    | some battleing => role.setStatus armyIndex (retreatStatus battleing)
    | none => role
  | none => role

-- cacleJoinRally refuses for an army that has arrived.
def armyMove (army : MapArmy) : Role × Option Nat :=
  if army.isRally then (role,none)
  else
    match army.oldRally with
    | none => (role,env.arrivalTime)
    | some old => if env.now < old.arrivalTime then (exitRally env role old,env.arrivalTime) else (role,none)

inductive Result where
  | joined (team : Team)
  | rejected (error : ErrorCode)
  | raised

def Team.join (rallyRid armyIndex arrivalTime objectIndex : Nat) (team : Team) : Team :=
  {team with
    toRallyTeam:={team.toRallyTeam.join rallyRid armyIndex arrivalTime objectIndex with
      rallyWaitTime:=max team.rallyWaitTime arrivalTime}}

def arrives (armyIndex objectIndex : Nat) (marched : Role × Option Nat) : Result × Role :=
  match marched.2 with
  | none => (.rejected .rallyNoPathToTarget,marched.1)
  | some arrivalTime => (.joined (team.join call.rallyRid armyIndex arrivalTime objectIndex),marched.1)

def joinCreated (order : Order Nat) : Result × Role :=
  match createArmy env call role order (needActionForce env call team role) with
  | .raised role => (.raised,role)
  | .refused role => (.rejected .rallyCreateArmyFail,role)
  | .created armyIndex role => arrives call team armyIndex env.objectIndex (armyEnterMap env role armyIndex)

-- An army that is in no building raises at the position it would start from.
def joinFromBuilding (armyIndex : Nat) : Result × Role :=
  let role' := (role.setStatus armyIndex ArmyStatus.rallyJoinMarch).charge (needActionForce env call team role) armyIndex
  if (role.armies.lookup armyIndex).isSome && env.inBuilding armyIndex then
    arrives call team armyIndex env.objectIndex (armyEnterMap env role' armyIndex)
  else (.raised,role')

def joinFromMap (armyIndex objectIndex : Nat) : Result × Role :=
  let role' := role.charge (needActionForce env call team role) armyIndex
  match env.mapArmy objectIndex with
  | none => (.raised,role')
  | some army => arrives call team army.armyIndex objectIndex (armyMove env role' army)

def joinRally (order : Order Nat) (found : Option Team) : Result × Role :=
  match found with
  | none => (.rejected .rallyJoinNotFound,role)
  | some team =>
    match refusal env call team role with
    | some error => (.rejected error,role)
    | none =>
      match call.armyIndex with
      | none => joinCreated env call team role order
      | some armyIndex =>
        match env.roleArmyIndex armyIndex with
        | none => joinFromBuilding env call team role armyIndex
        | some objectIndex => joinFromMap env call team role armyIndex objectIndex

end Env

-- What a rejected join may not touch.
structure Role.Same (role after : Role) : Prop where
  soldiers : ∀ id, after.soldiers.lookup id = role.soldiers.lookup id
  armies : ∀ armyIndex, after.armies.lookup armyIndex = role.armies.lookup armyIndex
  actionForce : after.actionForce = role.actionForce

section Conditions
variable (env : Env) (call : Join) (team : Team) (role : Role)

-- Nothing is deducted, and the army had nothing deducted before.
def Free (need : Option Nat) (armyIndex : Nat) : Prop :=
  ∀ num ∈ need, num = 0 ∧ ∀ army ∈ role.armies.lookup armyIndex, army.preCostActionForce = 0

-- The old rally gives back what was deducted for the new one.
def Repaid (need : Option Nat) (armyIndex : Nat) : Prop :=
  (∃ num ∈ need, 0 < num) ∧ (∃ army ∈ role.armies.lookup armyIndex, army.preCostActionForce = 0) ∧ role.actionForce ≤ env.actionForceLimit

def Has (armyIndex status : Nat) : Prop := ∀ army ∈ role.armies.lookup armyIndex, army.status = status

def entryStatus : Entry → Nat
  | .noPath true => ArmyStatus.stationing
  | _ => ArmyStatus.rallyJoinMarch

def KeptRefund (need : Option Nat) (armyIndex left : Nat) : Prop :=
  Free role need armyIndex ∧ (∀ army ∈ role.armies.lookup left, army.preCostActionForce = 0) ∨ left = armyIndex ∧ Repaid env role need armyIndex

def KeptExit (need : Option Nat) (armyIndex : Nat) (old : OldRally) : Prop :=
  match old.rallyArmy with
  | some left => (if old.refunds then KeptRefund env role need armyIndex left else Free role need armyIndex) ∧
      ∀ battleing ∈ old.retreats, Has role left (retreatStatus battleing)
  | none => Free role need armyIndex

def KeptMove (need : Option Nat) (armyIndex : Nat) (army : MapArmy) : Prop :=
  match army.oldRally with
  | some old => if army.isRally = false ∧ env.now < old.arrivalTime then KeptExit env role need armyIndex old else Free role need armyIndex
  | none => Free role need armyIndex

-- When a rejected join leaves the role as it was.
def Kept (found : Option Team) : Prop :=
  ∀ team ∈ found, refusal env call team role = none →
    match call.armyIndex with
    | none => createChecks env call role = some true → env.adds = false ∧ (needActionForce env call team role).getD 0 = 0
    | some armyIndex =>
      match env.roleArmyIndex armyIndex with
      | none => Free role (needActionForce env call team role) armyIndex ∧ Has role armyIndex (entryStatus env.entry)
      | some objectIndex => ∀ army ∈ env.mapArmy objectIndex, KeptMove env role (needActionForce env call team role) armyIndex army

end Conditions

namespace Role
variable {role after final : Role}

theorem Same.refl (role : Role) : role.Same role := ⟨fun _ => rfl,fun _ => rfl,rfl⟩

theorem Same.symm (same : role.Same after) : after.Same role where
  soldiers id := (same.soldiers id).symm
  armies armyIndex := (same.armies armyIndex).symm
  actionForce := same.actionForce.symm

theorem Same.trans (same : role.Same after) (later : after.Same final) : role.Same final where
  soldiers id := (later.soldiers id).trans (same.soldiers id)
  armies armyIndex := (later.armies armyIndex).trans (same.armies armyIndex)
  actionForce := later.actionForce.trans same.actionForce

theorem Same.congr (same : after.Same final) : role.Same after ↔ role.Same final :=
  ⟨fun first => first.trans same,fun first => first.trans same.symm⟩

theorem lookup_setStatus (role : Role) (armyIndex status k : Nat) : (role.setStatus armyIndex status).armies.lookup k =
    if k = armyIndex then (role.armies.lookup armyIndex).map (fun army => {army with status}) else role.armies.lookup k :=
  Table.lookup_modify ..

theorem lookup_setPreCost (role : Role) (armyIndex preCostActionForce k : Nat) : (role.setPreCost armyIndex preCostActionForce).armies.lookup k =
    if k = armyIndex then (role.armies.lookup armyIndex).map (fun army => {army with preCostActionForce}) else role.armies.lookup k :=
  Table.lookup_modify ..

@[simp] theorem lookup_addActionForce (role : Role) (num : Int) (k : Nat) : (role.addActionForce num).armies.lookup k = role.armies.lookup k := rfl

theorem setPreCost_same (role : Role) (armyIndex num : Nat) :
    role.Same (role.setPreCost armyIndex num) ↔ ∀ army ∈ role.armies.lookup armyIndex, army.preCostActionForce = num := by
  constructor
  · intro same army found
    have kept := same.armies armyIndex
    rw [lookup_setPreCost,if_pos rfl,found] at kept
    exact (congrArg Army.preCostActionForce (Option.some.inj kept)).symm
  · intro had
    refine ⟨fun _ => rfl,fun k => ?_,rfl⟩
    rw [lookup_setPreCost]
    split
    · next here =>
      subst here
      cases found : role.armies.lookup k with
      | none => rfl
      | some army =>
        have own := had army found
        subst own
        rfl
    · rfl

theorem charge_same (role : Role) (need : Option Nat) (armyIndex : Nat) : role.Same (role.charge need armyIndex) ↔ Free role need armyIndex := by
  cases need with
  | none => simp [charge,Free,Same.refl]
  | some num =>
    constructor
    · intro same amount there
      cases there
      have force : role.actionForce+ -(num : Int) = role.actionForce := same.actionForce
      have zero : num = 0 := by omega
      have kept : role.Same (role.setPreCost armyIndex num) := ⟨same.soldiers,same.armies,rfl⟩
      exact ⟨zero,fun army found => ((setPreCost_same role armyIndex num).mp kept army found).trans zero⟩
    · intro free
      obtain ⟨zero,unpaid⟩ := free num rfl
      subst zero
      have kept := (setPreCost_same role armyIndex 0).mpr unpaid
      exact ⟨kept.soldiers,kept.armies,Int.add_zero _⟩

-- The status of one army on top of what leaves all statuses alone.
theorem setStatus_same (still : ∀ k, (after.armies.lookup k).map Army.status = (role.armies.lookup k).map Army.status) (armyIndex status : Nat) :
    role.Same (after.setStatus armyIndex status) ↔ role.Same after ∧ Has role armyIndex status := by
  have here := still armyIndex
  constructor
  · intro same
    have has : Has role armyIndex status := by
      intro army found
      have kept := same.armies armyIndex
      rw [lookup_setStatus,if_pos rfl,found] at kept
      obtain ⟨army',_,set⟩ := Option.map_eq_some_iff.mp kept
      exact (congrArg Army.status set).symm
    refine ⟨⟨same.soldiers,fun k => ?_,same.actionForce⟩,has⟩
    have kept := same.armies k
    rw [lookup_setStatus] at kept
    split at kept
    · next own =>
      subst own
      rw [← kept]
      cases held : after.armies.lookup k with
      | none => rfl
      | some army' =>
        rw [held] at here kept
        obtain ⟨army,found,status_at⟩ := Option.map_eq_some_iff.mp here.symm
        have set := status_at.symm.trans (has army found)
        subst set
        rfl
    · exact kept
  · intro ⟨same,has⟩
    refine ⟨same.soldiers,fun k => ?_,same.actionForce⟩
    rw [lookup_setStatus]
    split
    · next own =>
      subst own
      rw [same.armies k]
      cases found : role.armies.lookup k with
      | none => rfl
      | some army =>
        have set := has army found
        subst set
        rfl
    · exact same.armies k

theorem charge_status (role : Role) (need : Option Nat) (armyIndex k : Nat) :
    ((role.charge need armyIndex).armies.lookup k).map Army.status = (role.armies.lookup k).map Army.status := by
  cases need with
  | none => rfl
  | some num =>
    simp only [charge,lookup_addActionForce,lookup_setPreCost]
    split
    · next here =>
      subst here
      simp [Option.map_map,Function.comp_def]
    · rfl

theorem refund_status (role : Role) (limit : Int) (armyIndex k : Nat) :
    ((role.refund limit armyIndex).armies.lookup k).map Army.status = (role.armies.lookup k).map Army.status := by
  unfold refund
  split
  · split
    · simp only [lookup_setPreCost,lookup_addActionForce]
      split
      · next here =>
        subst here
        simp [Option.map_map,Function.comp_def]
      · rfl
    · rfl
  · rfl

-- The status that was set before the deduction is set once more after it.
theorem restatus_same (role : Role) (need : Option Nat) (armyIndex first last : Nat) :
    (((role.setStatus armyIndex first).charge need armyIndex).setStatus armyIndex last).Same ((role.charge need armyIndex).setStatus armyIndex last) := by
  cases need with
  | none =>
    refine ⟨fun _ => rfl,fun k => ?_,rfl⟩
    simp only [charge,lookup_setStatus]
    split
    · simp [Option.map_map,Function.comp_def]
    · rfl
  | some num =>
    refine ⟨fun _ => rfl,fun k => ?_,rfl⟩
    simp only [charge,lookup_setStatus,lookup_setPreCost,lookup_addActionForce,if_true]
    split
    · simp [Option.map_map,Function.comp_def]
    · rfl

theorem setStatus_twice (role : Role) (armyIndex first last : Nat) :
    ((role.setStatus armyIndex first).setStatus armyIndex last).Same (role.setStatus armyIndex last) := by
  refine ⟨fun _ => rfl,fun k => ?_,rfl⟩
  simp only [lookup_setStatus]
  split
  · simp [Option.map_map,Function.comp_def]
  · rfl

theorem lookup_charge (role : Role) (need : Option Nat) (armyIndex k : Nat) : (role.charge need armyIndex).armies.lookup k =
    (role.armies.lookup k).map (fun army => {army with preCostActionForce:=(if k = armyIndex then need else none).getD army.preCostActionForce}) := by
  cases need with
  | none => simp [charge]
  | some num =>
    simp only [charge,lookup_addActionForce,lookup_setPreCost]
    split
    · next here =>
      subst here
      rfl
    · simp

theorem charge_actionForce (role : Role) (need : Option Nat) (armyIndex : Nat) :
    (role.charge need armyIndex).actionForce = role.actionForce-need.getD 0 := by
  cases need with
  | none => simp [charge]
  | some num => simp [charge,setPreCost,addActionForce,Int.sub_eq_add_neg]

-- An army without deducted action force gets nothing back.
theorem refund_unpaid (role : Role) (limit : Int) (unpaid : ∀ army ∈ role.armies.lookup k, army.preCostActionForce = 0) : role.refund limit k = role := by
  unfold refund
  cases found : role.armies.lookup k with
  | none => rfl
  | some army => simp [unpaid army found]

theorem refund_paid (role : Role) (limit : Int) (found : role.armies.lookup k = some army) (paid : 0 < army.preCostActionForce) :
    role.refund limit k = (role.addActionForce (backActionForce limit role.actionForce army.preCostActionForce)).setPreCost k 0 := by
  simp only [refund,found]
  exact if_pos paid

-- All of it comes back exactly when there was room for it.
theorem back_all (limit force : Int) {num : Nat} (paid : 0 < num) : force-(num : Int)+backActionForce limit (force-num) num = force ↔ force ≤ limit := by
  unfold backActionForce
  split
  · omega
  · split <;> omega

section Refund
variable {need : Option Nat} {armyIndex left : Nat} {army : Army}

-- Where nothing is deducted for the new rally, nothing is from the army that left.
theorem free_deducts (free : Free role need armyIndex) (before : army.preCostActionForce = 0) :
    (if left = armyIndex then need else none).getD army.preCostActionForce = 0 := by
  by_cases own : left = armyIndex
  · cases need with
    | none => simpa using before
    | some num => simpa [own] using (free num rfl).1
  · simpa [own] using before

theorem deducts_free (found : role.armies.lookup left = some army) (free : Free role need armyIndex)
    (unpaid : (if left = armyIndex then need else none).getD army.preCostActionForce = 0) : army.preCostActionForce = 0 := by
  by_cases own : left = armyIndex
  · cases need with
    | none => simpa using unpaid
    | some num => exact (free num rfl).2 army (own ▸ found)
  · simpa [own] using unpaid

theorem kept_unpaid (env : Env) (found : role.armies.lookup left = some army)
    (unpaid : (if left = armyIndex then need else none).getD army.preCostActionForce = 0) :
    Free role need armyIndex ↔ KeptRefund env role need armyIndex left := by
  constructor
  · intro free
    refine .inl ⟨free,fun held there => ?_⟩
    cases found.symm.trans there
    exact deducts_free found free unpaid
  · intro kept
    cases kept with
    | inl free => exact free.1
    | inr repaid =>
      obtain ⟨own,⟨num,wanted,positive⟩,_⟩ := repaid
      have none_left : num = 0 := by simpa [own,Option.mem_def.mp wanted] using unpaid
      omega

theorem kept_missing (env : Env) (found : role.armies.lookup left = none) : Free role need armyIndex ↔ KeptRefund env role need armyIndex left := by
  constructor
  · intro free
    exact .inl ⟨free,by simp [found]⟩
  · intro kept
    cases kept with
    | inl free => exact free.1
    | inr repaid =>
      obtain ⟨same,_,⟨army,there,_⟩,_⟩ := repaid
      rw [same] at found
      cases found.symm.trans there

-- A refund resets what was deducted, so a role that is kept had nothing deducted before.
theorem paid_repaid (env : Env) (found : role.armies.lookup left = some army) (paid : 0 < (if left = armyIndex then need else none).getD army.preCostActionForce)
    (same : role.Same ((role.charge need armyIndex).refund env.actionForceLimit left)) : left = armyIndex ∧ Repaid env role need armyIndex := by
  have charged := lookup_charge role need armyIndex left
  rw [found,Option.map_some] at charged
  rw [refund_paid _ _ charged paid] at same
  have kept := same.armies left
  rw [lookup_setPreCost,if_pos rfl,lookup_addActionForce,charged,found,Option.map_some] at kept
  have had : 0 = army.preCostActionForce := congrArg Army.preCostActionForce (Option.some.inj kept)
  by_cases own : left = armyIndex
  · cases need with
    | none => simp [had.symm] at paid
    | some num =>
      rw [if_pos own,Option.getD_some] at paid same
      have force := same.actionForce
      simp only [setPreCost,addActionForce,charge_actionForce,Option.getD_some] at force
      exact ⟨own,⟨num,rfl,paid⟩,⟨army,own ▸ found,had.symm⟩,(back_all env.actionForceLimit role.actionForce paid).mp force⟩
  · simp [own,had.symm] at paid

theorem repaid_same (env : Env) (repaid : Repaid env role need armyIndex) :
    role.Same ((role.charge need armyIndex).refund env.actionForceLimit armyIndex) := by
  obtain ⟨⟨num,wanted,positive⟩,⟨army,found,before⟩,room⟩ := repaid
  cases wanted
  have charged := lookup_charge role (some num) armyIndex armyIndex
  rw [Option.mem_def.mp found,Option.map_some,if_pos rfl,Option.getD_some] at charged
  rw [refund_paid _ _ charged positive]
  refine ⟨fun _ => rfl,fun k => ?_,?_⟩
  · rw [lookup_setPreCost,lookup_addActionForce,charged]
    split
    · next here =>
      subst here
      rw [Option.mem_def.mp found]
      exact congrArg some (by rw [← before])
    · next other =>
      rw [lookup_addActionForce,lookup_charge,if_neg other]
      simp
  · simp only [setPreCost,addActionForce,charge_actionForce,Option.getD_some]
    exact (back_all env.actionForceLimit role.actionForce positive).mpr room

theorem refund_same (env : Env) (role : Role) (need : Option Nat) (armyIndex left : Nat) :
    role.Same ((role.charge need armyIndex).refund env.actionForceLimit left) ↔ KeptRefund env role need armyIndex left := by
  have charged := lookup_charge role need armyIndex left
  cases found : role.armies.lookup left with
  | none =>
    rw [found,Option.map_none] at charged
    rw [refund_unpaid _ _ (by simp [charged]),charge_same]
    exact kept_missing env found
  | some army =>
    rw [found,Option.map_some] at charged
    by_cases unpaid : (if left = armyIndex then need else none).getD army.preCostActionForce = 0
    · rw [refund_unpaid _ _ (by simpa [charged] using unpaid),charge_same]
      exact kept_unpaid env found unpaid
    · constructor
      · exact fun same => .inr (paid_repaid env found (Nat.pos_of_ne_zero unpaid) same)
      · intro kept
        cases kept with
        | inl free => exact absurd (free_deducts free.1 (free.2 army found)) unpaid
        | inr repaid =>
          obtain ⟨own,repays⟩ := repaid
          subst own
          exact repaid_same env repays

end Refund

end Role

section Paths
variable {env : Env} {call : Join} {team : Team} {role after : Role} {need : Option Nat} {armyIndex : Nat}

theorem exit_same (old : OldRally) : role.Same (exitRally env (role.charge need armyIndex) old) ↔ KeptExit env role need armyIndex old := by
  unfold exitRally KeptExit
  cases old.rallyArmy with
  | none => exact Role.charge_same role need armyIndex
  | some left =>
    have refunded : role.Same (if old.refunds then (role.charge need armyIndex).refund env.actionForceLimit left else role.charge need armyIndex) ↔
        if old.refunds then KeptRefund env role need armyIndex left else Free role need armyIndex := by
      split
      · exact Role.refund_same env role need armyIndex left
      · exact Role.charge_same role need armyIndex
    dsimp only
    cases old.retreats with
    | none => simpa using refunded
    | some battleing =>
      dsimp only
      rw [Role.setStatus_same,refunded]
      · simp
      · intro k
        split
        · exact (Role.refund_status ..).trans (Role.charge_status ..)
        · exact Role.charge_status ..

theorem move_same (army : MapArmy) :
    role.Same (armyMove env (role.charge need armyIndex) army).1 ↔ KeptMove env role need armyIndex army := by
  unfold armyMove KeptMove
  cases army.isRally with
  | true =>
    cases army.oldRally with
    | none => simpa using Role.charge_same role need armyIndex
    | some old => simpa using Role.charge_same role need armyIndex
  | false =>
    cases army.oldRally with
    | none => simpa using Role.charge_same role need armyIndex
    | some old =>
      by_cases waits : env.now < old.arrivalTime
      · simpa [waits] using exit_same old
      · simpa [waits] using Role.charge_same role need armyIndex

-- Where an army that enters the map is refused, only its status is new.
theorem enter_same (stopped : (armyEnterMap env role armyIndex).2 = none) :
    ((armyEnterMap env role armyIndex).1).Same (role.setStatus armyIndex (entryStatus env.entry)) := by
  unfold armyEnterMap at stopped ⊢
  cases entry : env.entry with
  | marches arrivalTime =>
    rw [entry] at stopped
    cases stopped
  | far => exact Role.Same.refl _
  | noPath stationed =>
    cases stationed with
    | false => exact Role.Same.refl _
    | true => exact Role.setStatus_twice ..

theorem building_same (stopped : (armyEnterMap env ((role.setStatus armyIndex ArmyStatus.rallyJoinMarch).charge need armyIndex) armyIndex).2 = none) :
    role.Same (armyEnterMap env ((role.setStatus armyIndex ArmyStatus.rallyJoinMarch).charge need armyIndex) armyIndex).1 ↔
      Free role need armyIndex ∧ Has role armyIndex (entryStatus env.entry) := by
  rw [Role.Same.congr (enter_same stopped),Role.Same.congr (Role.restatus_same ..),Role.setStatus_same (Role.charge_status role need armyIndex),
    Role.charge_same]

theorem refused_same (adds : env.adds = false) (checked : createChecks env call role = some true)
    (created : createArmy env call role order need = .refused after) : role.Same after ↔ need.getD 0 = 0 := by
  simp only [createArmy,checked,adds,Bool.false_eq_true,if_false,Created.refused.injEq] at created
  subst created
  constructor
  · intro same
    have force : role.actionForce+ -((need.getD 0 : Nat) : Int) = role.actionForce := same.actionForce
    omega
  · intro zero
    refine ⟨fun _ => rfl,fun _ => rfl,?_⟩
    simp [Role.addActionForce,zero]

theorem subSoldierOf_num {soldiers : Table Nat Hospital.SoldierInfo} {num : Int} {soldierInfo : Hospital.AddSoldier}
    (had : soldiers.amount (·.num) k = num) (positive : 0 < soldierInfo.num) (enough : soldierInfo.num ≤ num) :
    (BattleCallback.subSoldierOf soldiers k soldierInfo).amount (·.num) k = num-soldierInfo.num := by
  have either (gone : Prop) [Decidable gone] (kind : Hospital.SoldierInfo) (now : kind.num = num-soldierInfo.num)
      (empty : gone → num-soldierInfo.num = 0) :
      Table.amount (if gone then soldiers.erase k else soldiers.insert k kind) (·.num) k = num-soldierInfo.num := by
    split
    · next here => rw [Table.amount_erase,empty here]
    · rw [Table.amount_insert,now]
  unfold BattleCallback.subSoldierOf
  cases held : soldiers.lookup k with
  | none =>
    rw [Table.amount_none held] at had
    omega
  | some kind =>
    rw [Table.amount_some held] at had
    dsimp only
    rw [if_pos positive.le]
    have now : max (kind.num-soldierInfo.num) 0 = num-soldierInfo.num := by omega
    exact either _ _ now (fun none => by omega)

theorem checks_soldiers (checked : createChecks env call role = some true) : enoughSoldiers call role = true ∧ 0 < soldierSum call := by
  unfold createChecks at checked
  by_contra short
  rw [not_and_or,not_lt,Bool.not_eq_true] at short
  cases short with
  | inl few =>
    simp only [few,Bool.not_false,if_true] at checked
    split_ifs at checked <;> cases checked
  | inr zero =>
    simp only [if_pos zero] at checked
    split_ifs at checked <;> cases checked

theorem enough_num (enough : enoughSoldiers call role = true) (found : call.soldiers.lookup k = some soldierInfo) :
    ∃ row, role.soldiers.lookup k = some row ∧ soldierInfo.num ≤ row.num := by
  have own := List.all_eq_true.mp enough k (Table.mem_of_lookup found)
  rw [found,Option.all_some,hasSoldier,Option.any_eq_true] at own
  obtain ⟨row,held,num⟩ := own
  exact ⟨row,held,of_decide_eq_true num⟩

-- A created army has taken soldiers.
theorem created_spends (checked : createChecks env call role = some true) (created : createArmy env call role order need = .created armyIndex after) :
    ∃ k, after.soldiers.lookup k ≠ role.soldiers.lookup k := by
  obtain ⟨enough,sum⟩ := checks_soldiers checked
  obtain ⟨k,soldierInfo,found,positive⟩ := Table.sumOver_pos sum
  obtain ⟨row,held,num⟩ := enough_num enough found
  simp only [createArmy,checked] at created
  split at created
  · simp only [Created.created.injEq] at created
    obtain ⟨_,same⟩ := created
    subst same
    refine ⟨k,fun kept => ?_⟩
    have once : ∃ before : Table Nat Hospital.SoldierInfo, before.amount (·.num) k = role.soldiers.amount (·.num) k ∧
        (BattleCallback.subSoldiersInLock order call.soldiers role.soldiers).amount (·.num) k =
          (BattleCallback.subSoldierOf before k soldierInfo).amount (·.num) k :=
      Table.forEach_at (fun soldiers => soldiers.amount (·.num) k)
        (fun _ _ _ other => congrArg Prod.fst (BattleCallback.subSoldierOf_other other)) found role.soldiers
    obtain ⟨before,beside,last⟩ := once
    have had : before.amount (·.num) k = row.num := beside.trans (Table.amount_some held _)
    have spent := last.trans (subSoldierOf_num had positive num)
    have unspent : (BattleCallback.subSoldiersInLock order call.soldiers role.soldiers).amount (·.num) k = row.num :=
      Table.amount_some (kept.trans held) _
    have same : row.num = row.num-soldierInfo.num := unspent.symm.trans spent
    omega
  · cases created

theorem arrives_rejected (rejected : arrives call team armyIndex objectIndex marched = (.rejected error,after)) : marched.2 = none ∧ marched.1 = after := by
  unfold arrives at rejected
  cases march : marched.2 with
  | none =>
    rw [march] at rejected
    exact ⟨rfl,congrArg Prod.snd rejected⟩
  | some arrivalTime =>
    rw [march] at rejected
    cases rejected

theorem enterMap_soldiers (role : Role) (armyIndex : Nat) : (armyEnterMap env role armyIndex).1.soldiers = role.soldiers := by
  unfold armyEnterMap
  cases env.entry with
  | marches arrivalTime => rfl
  | far => rfl
  | noPath stationed => cases stationed <;> rfl

theorem created_same (rejected : joinCreated env call team role order = (.rejected error,after)) : role.Same after ↔
    (createChecks env call role = some true → env.adds = false ∧ (needActionForce env call team role).getD 0 = 0) := by
  unfold joinCreated at rejected
  cases checked : createChecks env call role with
  | none => simp [createArmy,checked] at rejected
  | some passed =>
    cases passed with
    | false =>
      simp only [createArmy,checked,Prod.mk.injEq] at rejected
      simp [← rejected.2,Role.Same.refl]
    | true =>
      cases created : createArmy env call role order (needActionForce env call team role) with
      | raised after => simp [created] at rejected
      | refused after' =>
        rw [created] at rejected
        cases rejected
        have adds : env.adds = false := by
          cases held : env.adds with
          | false => rfl
          | true => simp [createArmy,checked,held] at created
        simpa [adds] using refused_same adds checked created
      | created armyIndex after' =>
        rw [created] at rejected
        obtain ⟨_,same⟩ := arrives_rejected rejected
        have adds : env.adds = true := by
          cases held : env.adds with
          | true => rfl
          | false => simp [createArmy,checked,held] at created
        obtain ⟨k,spent⟩ := created_spends checked created
        refine iff_of_false (fun kept => spent ?_) (by simp [adds])
        rw [← kept.soldiers k,← same,enterMap_soldiers]

theorem join_kept (order : Order Nat) (found : Option Team) (rejected : joinRally env call role order found = (.rejected error,after)) :
    role.Same after ↔ Kept env call role found := by
  unfold joinRally at rejected
  cases found with
  | none =>
    cases rejected
    simp [Kept,Role.Same.refl]
  | some team =>
    dsimp only at rejected
    simp only [Kept,Option.mem_def,Option.some.injEq,forall_eq']
    cases refused : refusal env call team role with
    | some refusedError =>
      rw [refused] at rejected
      cases rejected
      simp [Role.Same.refl]
    | none =>
      rw [refused] at rejected
      simp only [true_imp_iff]
      cases chosen : call.armyIndex with
      | none =>
        rw [chosen] at rejected
        exact created_same rejected
      | some armyIndex =>
        rw [chosen] at rejected
        dsimp only at rejected ⊢
        cases onMap : env.roleArmyIndex armyIndex with
        | none =>
          rw [onMap] at rejected
          simp only [joinFromBuilding] at rejected
          split at rejected
          · obtain ⟨stopped,same⟩ := arrives_rejected rejected
            rw [← same]
            exact building_same stopped
          · cases rejected
        | some objectIndex =>
          rw [onMap] at rejected
          simp only [joinFromMap] at rejected
          cases there : env.mapArmy objectIndex with
          | none =>
            rw [there] at rejected
            cases rejected
          | some army =>
            rw [there] at rejected
            obtain ⟨_,same⟩ := arrives_rejected rejected
            rw [← same]
            simp only [there,Option.some.injEq,forall_eq']
            exact move_same army

end Paths

-- Role 2 joins with an army that stands on the map, from where no path leads to the rally.
def besiegers : Team where
  toRallyTeam := {RallyMgr.State.empty.teams 0 with rallyRid:=1, rallyArmy:=AList.insert 1 1 ∅}
  rallyTargetType := .monsterCity
  rallyTargetMonsterId := 7

def stuck : Env where
  now := 50
  rallyArmyMax := 1000
  rallyArmyCount := 100
  targetMonsterId := 7
  rallyAP _ := some 10
  vitalityReduction _ _ := 0
  actionForceLimit := 150
  transports := 0
  troopsDispatchNumber := 2
  heroStar := ∅
  soldierLimit _ _ := none
  adds := true
  roleArmyIndex _ := some 5
  mapArmy _ := some ⟨3,false,none⟩
  inBuilding _ := false
  objectIndex := 0
  entry := .far
  arrivalTime := none

def standing : Role := ⟨∅,AList.insert 3 ⟨0,0,∅,ArmyStatus.stationing,0⟩ ∅,100,3⟩

def asks : Join := ⟨2,some 3,0,0,∅,100⟩

theorem stuck_rejected : joinRally stuck asks standing .stored (some besiegers) = (.rejected .rallyNoPathToTarget,standing.charge (some 10) 3) := rfl

theorem stuck_kept : standing.Same (standing.charge (some 10) 3) ↔ Kept stuck asks standing (some besiegers) :=
  join_kept .stored (some besiegers) stuck_rejected

theorem no_path_costs : ¬ ∀ (env : Env) (call : Join) (role after : Role) (order : Order Nat) (found : Option Team) (error : ErrorCode),
    joinRally env call role order found = (.rejected error,after) → role.Same after := by
  intro same
  have kept := same stuck asks standing _ .stored (some besiegers) .rallyNoPathToTarget stuck_rejected
  have force : (100 : Int)+ -10 = 100 := kept.actionForce
  omega

end RallyJoin
end OriginGame
