import Mathlib.Data.List.Sort
import OriginGame.BattleObject
import OriginGame.LuaNumber

namespace OriginGame.Battle

-- s_Arms and s_Config values the battle code reads.
structure BattleConfig where
  armsType : SoldierId → Option Nat
  cityReinforceDeathProportion : Nat

-- getBattleLossArg together with the two attributes getBattleLossInfo adds to it.
-- attackCityDeathMulti is 0 outside city battles.
structure BattleLoss where
  seriousInjuryProportion : Nat
  deathProportion : Nat
  severeInjuredMulti : Nat
  attackCityDeathMulti : Nat
  serious_le : seriousInjuryProportion ≤ 1000
  death_le : deathProportion ≤ 1000
  deriving DecidableEq, Repr

-- The severeInjuredMulti that getBattleLossInfo returns.
def BattleLoss.severe (loss : BattleLoss) : Nat := loss.severeInjuredMulti+loss.attackCityDeathMulti

section SoldierHurt

-- One pass of the remainder loop: a point of hurt for every kind that still has room.
def giveRound (num : SoldierId → Int) : List SoldierId → Table SoldierId Int → Int → Table SoldierId Int × Int
  | [],hurts,left => (hurts,left)
  | id::rest,hurts,left =>
    if Table.amount hurts (·) id < num id then
      let hurts := hurts.insert id (Table.amount hurts (·) id+1)
      if left-1 ≤ 0 then (hurts,left-1) else giveRound num rest hurts (left-1)
    else giveRound num rest hurts left

-- `while leftHurt > 0 and loopCount < 100`; the first argument counts the passes left.
def giveRest (num : SoldierId → Int) (kinds : List SoldierId) :
    Nat → Table SoldierId Int → Int → Table SoldierId Int
  | 0,hurts,_ => hurts
  | passes+1,hurts,left =>
    if 0 < left then
      let next := giveRound num kinds hurts left
      giveRest num kinds passes next.1 next.2
    else hurts

-- The first kind of the lowest level.
def lowestKind (level : SoldierId → Nat) : List SoldierId → Option SoldierId → Option SoldierId
  | [],low => low
  | id::rest,none => lowestKind level rest (some id)
  | id::rest,some low => lowestKind level rest (some (if level id < level low then id else low))

def BattleObject.level (o : BattleObject) (id : SoldierId) : Nat :=
  ((o.soldiers.lookup id).map (fun ref => (o.cell ref).level)).getD 0

-- none is the Lua error of indexing table.first of an empty table.
def cacleSoldierHurt (share : Share) (order : Order SoldierId) (o : BattleObject) : Option (Table SoldierId Int) :=
  match order.visit o.soldiers.keys with
  | [] => none
  | [id] => some (AList.insert id o.turnHurt ∅)
  | kinds =>
    if 1 < o.turnHurt then
      let armyCount := o.getArmySoldierCount
      if armyCount ≤ 0 then some ∅ else
      let hurts : Table SoldierId Int := kinds.foldl (fun hurts id =>
        hurts.insert id (min (o.num id) (share.floor o.turnHurt (o.num id) armyCount))) ∅
      let allHurt := (kinds.map (Table.amount hurts (·))).sum
      if allHurt < o.turnHurt then some (giveRest o.num kinds 100 hurts (o.turnHurt-allHurt)) else some hurts
    else (lowestKind o.level kinds none).map (fun id => AList.insert id 1 ∅)

variable {num : SoldierId → Int} {hurts : Table SoldierId Int} {id : SoldierId} {hurt : Int}

-- A hurt assigned to a kind is a number of its soldiers.
def Within (num : SoldierId → Int) (hurts : Table SoldierId Int) : Prop :=
  ∀ id hurt, hurts.lookup id = some hurt → 0 ≤ hurt ∧ hurt ≤ num id

theorem Within.insert (within : Within num hurts) (nonneg : 0 ≤ hurt) (room : hurt ≤ num id) :
    Within num (hurts.insert id hurt) := by
  intro other value found
  rcases Table.found_insert found with ⟨rfl,rfl⟩ | ⟨_,older⟩
  · exact ⟨nonneg,room⟩
  · exact within _ _ older

theorem Within.amount_nonneg (within : Within num hurts) (id : SoldierId) : 0 ≤ Table.amount hurts (·) id := by
  cases found : hurts.lookup id with
  | none => rw [Table.amount_none found]
  | some hurt => rw [Table.amount_some found]; exact (within _ _ found).1

theorem giveRound_within (within : Within num hurts) : Within num (giveRound num kinds hurts left).1 := by
  induction kinds generalizing hurts left with
  | nil => exact within
  | cons id rest ih =>
    unfold giveRound
    split
    · rename_i room
      have nonneg := within.amount_nonneg id
      have grown : Within num (hurts.insert id (Table.amount hurts (·) id+1)) :=
        within.insert (by omega) (by omega)
      dsimp only
      split
      · exact grown
      · exact ih grown
    · exact ih within

theorem giveRest_within (within : Within num hurts) : Within num (giveRest num kinds passes hurts left) := by
  induction passes generalizing hurts left with
  | zero => exact within
  | succ passes ih =>
    unfold giveRest
    split
    · exact ih (giveRound_within within)
    · exact within

theorem lowestKind_mem (found : lowestKind level kinds low = some id) : id ∈ kinds ∨ low = some id := by
  induction kinds generalizing low with
  | nil => exact .inr found
  | cons kind rest ih =>
    cases low with
    | none =>
      rcases ih found with tail | same
      · exact .inl (List.mem_cons_of_mem _ tail)
      · cases Option.some.inj same; exact .inl List.mem_cons_self
    | some low =>
      rcases ih found with tail | same
      · exact .inl (List.mem_cons_of_mem _ tail)
      · have chosen := Option.some.inj same
        split at chosen
        · subst chosen; exact .inl List.mem_cons_self
        · subst chosen; exact .inr rfl

theorem insertAll_within (kinds : List SoldierId) (value : SoldierId → Int) (within : Within num hurts)
    (bound : ∀ id ∈ kinds, 0 ≤ value id ∧ value id ≤ num id) :
    Within num (kinds.foldl (fun hurts id => hurts.insert id (value id)) hurts) := by
  induction kinds generalizing hurts with
  | nil => exact within
  | cons id rest ih =>
    have head := bound id List.mem_cons_self
    exact ih (within.insert head.1 head.2) (fun other tail => bound other (List.mem_cons_of_mem _ tail))

-- Several kinds are hit within their counts, or the lowest kind takes one point;
-- a single kind takes everything.
theorem cacleSoldierHurt_bound {o : BattleObject} (present : ∀ id ∈ o.soldiers, 0 ≤ o.num id) (hit : 0 < o.turnHurt)
    (done : cacleSoldierHurt share order o = some hurts) : Within o.num hurts ∨
      (∃ id ∈ o.soldiers, hurts = AList.insert id 1 ∅) ∨ ∃ id, o.soldiers.keys = [id] ∧ hurts = AList.insert id o.turnHurt ∅ := by
  have member : ∀ id ∈ order.visit o.soldiers.keys, id ∈ o.soldiers :=
    fun id visited => AList.mem_keys.mpr (order.mem_visit.mp visited)
  have nothing : Within o.num ∅ := by
    intro id hurt found
    simp at found
  unfold cacleSoldierHurt at done
  split at done
  · cases done
  · rename_i id only
    cases Option.some.inj done
    have keys : o.soldiers.keys = [id] :=
      List.perm_singleton.mp (only ▸ (order.perm o.soldiers.keys).symm)
    exact .inr (.inr ⟨id,keys,rfl⟩)
  · split at done
    · left
      dsimp only at done
      split at done
      · cases Option.some.inj done
        exact nothing
      · rename_i several positive
        have first : Within o.num ((order.visit o.soldiers.keys).foldl (fun hurts id =>
            hurts.insert id (min (o.num id) (share.floor o.turnHurt (o.num id) o.getArmySoldierCount))) ∅) := by
          apply insertAll_within _ _ nothing
          intro id listed
          have count := present id (member id listed)
          have part := share.nonneg (Int.le_of_lt hit) count (Int.not_le.mp positive)
          omega
        split at done
        · cases Option.some.inj done; exact giveRest_within first
        · cases Option.some.inj done; exact first
    · obtain ⟨id,lowest,rfl⟩ := Option.map_eq_some_iff.mp done
      rcases lowestKind_mem lowest with listed | none
      · exact .inr (.inl ⟨id,member id listed,rfl⟩)
      · cases none

theorem cacleSoldierHurt_nonneg {o : BattleObject} (present : ∀ id ∈ o.soldiers, 0 ≤ o.num id) (hit : 0 < o.turnHurt)
    (done : cacleSoldierHurt share order o = some hurts) (found : hurts.lookup id = some hurt) : 0 ≤ hurt := by
  rcases cacleSoldierHurt_bound present hit done with within | ⟨last,_,rfl⟩ | ⟨last,_,rfl⟩
  · exact (within _ _ found).1
  · rw [(Table.lookup_only found).2]
    decide
  · rw [(Table.lookup_only found).2]
    exact Int.le_of_lt hit

end SoldierHurt

-- getBattleLossInfo: the kind that takes one extra serious injury when rounding
-- leaves none. The outer none is Random.Get( 1, 0 ) raising.
def ranHurtIndex (loss : BattleLoss) (o : BattleObject) (hurts : Table SoldierId Int) (draw : Nat) :
    Option (Option Nat) :=
  let thisAllHurt := ((o.soldiers.keys.filter (· ∈ hurts)).map (fun id =>
    roundDiv (Table.amount hurts (·) id * (loss.seriousInjuryProportion+loss.severeInjuredMulti)) 1000)).sum
  if thisAllHurt ≤ 0 then (if hurts.keys.isEmpty then none else some (some draw)) else some none

theorem ranHurtIndex_some {loss : BattleLoss} (done : ranHurtIndex loss o hurts draw = some (some index)) :
    ((o.soldiers.keys.filter (· ∈ hurts)).map (fun id =>
      roundDiv (Table.amount hurts (·) id * (loss.seriousInjuryProportion+loss.severeInjuredMulti)) 1000)).sum ≤ 0 := by
  unfold ranHurtIndex at done
  dsimp only at done
  split at done
  · assumption
  · cases Option.some.inj done

structure Casualties where
  hardHurt : Int
  die : Int
  minor : Int
  deriving DecidableEq, Repr

-- Serious injuries before the dead are taken out of them.
def seriousInjuries (loss : BattleLoss) (extra : Bool) (hurt : Int) : Int :=
  let hardHurt := roundDiv (hurt*(loss.seriousInjuryProportion+loss.severe)) 1000
  let hardHurt := if extra then hardHurt+1 else hardHurt
  if hurt < hardHurt then hurt else hardHurt

def casualties (loss : BattleLoss) (extra : Bool) (num hurt : Int) : Casualties :=
  let serious := seriousInjuries loss extra hurt
  let minor := if hurt-serious < 0 then 0 else hurt-serious
  let die := roundDiv (serious*(loss.deathProportion-loss.severe)) 1000
  let hardHurt := serious-die
  let minor := if num-hardHurt-die-minor < 0 then num-hardHurt-die else minor
  ⟨hardHurt,die,minor⟩

section Casualties
variable {loss : BattleLoss} {extra : Bool} {num hurt : Int}

theorem seriousInjuries_le : seriousInjuries loss extra hurt ≤ hurt := by
  unfold seriousInjuries
  dsimp only
  split <;> omega

theorem seriousInjuries_nonneg (nonneg : 0 ≤ hurt) : 0 ≤ seriousInjuries loss extra hurt := by
  have rounded : 0 ≤ roundDiv (hurt*(loss.seriousInjuryProportion+loss.severe)) 1000 :=
    roundDiv_nonneg (Int.mul_nonneg nonneg (by omega)) (by omega)
  unfold seriousInjuries
  dsimp only
  split <;> split <;> omega

theorem seriousInjuries_mono (weaker : extra = true → other = true) :
    seriousInjuries loss extra hurt ≤ seriousInjuries loss other hurt := by
  cases extra with
  | false =>
    cases other with
    | false => exact Int.le_refl _
    | true =>
      simp only [seriousInjuries]
      split <;> split <;> simp_all <;> omega
  | true => rw [weaker rfl]

-- The last clamp keeps the count from going below zero in every case.
theorem casualties_left : 0 ≤ num-(casualties loss extra num hurt).hardHurt-(casualties loss extra num hurt).die-
    (casualties loss extra num hurt).minor := by
  simp only [casualties]
  split <;> omega

theorem casualties_total : (casualties loss extra num hurt).hardHurt+(casualties loss extra num hurt).die+
    (casualties loss extra num hurt).minor = min num hurt := by
  have most : seriousInjuries loss extra hurt ≤ hurt := seriousInjuries_le
  simp only [casualties]
  rw [if_neg (Int.not_lt.mpr (Int.sub_nonneg.mpr most))]
  split <;> omega

theorem casualties_nonneg (nonneg : 0 ≤ hurt) (spared : loss.severe ≤ loss.deathProportion) (enough : seriousInjuries loss extra hurt ≤ num) :
    0 ≤ (casualties loss extra num hurt).hardHurt ∧ 0 ≤ (casualties loss extra num hurt).die ∧
      0 ≤ (casualties loss extra num hurt).minor := by
  have serious : 0 ≤ seriousInjuries loss extra hurt := seriousInjuries_nonneg nonneg
  have mortality := loss.death_le
  have die : 0 ≤ roundDiv (seriousInjuries loss extra hurt*(loss.deathProportion-loss.severe)) 1000 :=
    roundDiv_nonneg (Int.mul_nonneg serious (by omega)) (by omega)
  have most : roundDiv (seriousInjuries loss extra hurt*(loss.deathProportion-loss.severe)) 1000 ≤
      seriousInjuries loss extra hurt :=
    roundDiv_le (by omega) (Int.mul_le_mul_of_nonneg_left (by omega) serious)
  simp only [casualties]
  refine ⟨by omega,die,?_⟩
  split
  · omega
  · split <;> omega

end Casualties

def recordSoldierHurtWithObjectIndex (o : BattleObject) (attackIndex : ObjectIndex) (id : SoldierId)
    (minor hardHurt die : Int) : BattleObject :=
  let target := if attackIndex = o.objectIndex then o.attackTargetIndex else attackIndex
  let kinds := (o.soldierHurtWithObjectIndex.lookup target).getD ∅
  let entry : Ledger := match kinds.lookup id with
    | none => ⟨hardHurt,die,minor,0⟩
    | some old => {old with die:=old.die+die, hardHurt:=old.hardHurt+hardHurt, minor:=old.minor+minor}
  {o with soldierHurtWithObjectIndex:=o.soldierHurtWithObjectIndex.insert target (kinds.insert id entry)}

def healLedger (id : SoldierId) (heal : Int) (kinds : Table SoldierId Ledger) : Table SoldierId Ledger :=
  match kinds.lookup id with
  | none => kinds
  | some entry => kinds.insert id {entry with heal:=entry.heal+heal}

def recordSoldierHealWithObjectIndex (o : BattleObject) (id : SoldierId) (heal : Int) : BattleObject :=
  {o with soldierHurtWithObjectIndex:=Table.mapValues (healLedger id heal) o.soldierHurtWithObjectIndex}

-- The body of the loop of cacleObjectHurtDie for one hit kind.
def hurtKind (loss : BattleLoss) (attackIndex : ObjectIndex) (extra : Bool) (o : BattleObject)
    (id : SoldierId) (ref : Ref) (hurt : Int) : BattleObject :=
  let soldier := o.cell ref
  let lost := casualties loss extra soldier.num hurt
  let entry := (o.soldierHurt.lookup id).getD (Hurt.none soldier)
  let entry := {entry with die:=entry.die+lost.die, hardHurt:=entry.hardHurt+lost.hardHurt, minor:=entry.minor+lost.minor}
  let left := soldier.num-lost.hardHurt-lost.die-lost.minor
  let o := {o.setNum ref left with soldierHurt:=o.soldierHurt.insert id entry,
                                   soldiers:=if left ≤ 0 then o.soldiers.erase id else o.soldiers}
  recordSoldierHurtWithObjectIndex o attackIndex id lost.minor lost.hardHurt lost.die

-- The whole loop; the counter is thisHurtIndex.
def hurtKinds (loss : BattleLoss) (attackIndex : ObjectIndex) (chosen : Option Nat)
    (hurts : Table SoldierId Int) : List SoldierId → Nat → BattleObject → BattleObject
  | [],_,o => o
  | id::rest,index,o =>
    match o.soldiers.lookup id,hurts.lookup id with
    | some ref,some hurt =>
      hurtKinds loss attackIndex chosen hurts rest (index+1)
        (hurtKind loss attackIndex (decide (chosen = some (index+1))) o id ref hurt)
    | _,_ => hurtKinds loss attackIndex chosen hurts rest index o

section RallyHurt

inductive Component where
  | hardHurt | die | minor
  deriving DecidableEq, Repr

def Hurt.part (hurt : Hurt) : Component → Int
  | .hardHurt => hurt.hardHurt
  | .die => hurt.die
  | .minor => hurt.minor

def Hurt.addPart (hurt : Hurt) (n : Int) : Component → Hurt
  | .hardHurt => {hurt with hardHurt:=hurt.hardHurt+n}
  | .die => {hurt with die:=hurt.die+n}
  | .minor => {hurt with minor:=hurt.minor+n}

-- Writes a member's new count and removes the kind when nothing is left.
def settleMember (o : BattleObject) (m : Member) (id : SoldierId) (ref : Ref) (n : Int) : BattleObject :=
  let o := o.setNum ref n
  if n ≤ 0 then o.dropMemberKind m id else o

structure Left where
  hardHurt : Int
  die : Int
  minor : Int
  deriving DecidableEq, Repr

-- The proportional pass for one member. `before` is the member's count when the
-- distribution started and `all` the sum of these over the members.
def hurtMember (share : Share) (config : BattleConfig) (hurt : Hurt) (id : SoldierId) (all : Int)
    (before : Member → Option Int) (state : BattleObject × Left) (m : Member) : BattleObject × Left :=
  let (o,left) := state
  match before m,o.memberRef m id with
  | some had,some ref =>
    let reinforceDiePercent : Int :=
      if o.objectType = .city ∧ m.1 ≠ o.rallyLeader then config.cityReinforceDeathProportion else 0
    let old := (o.memberHurt m id).getD (Hurt.none (o.cell ref))
    let hardHurt := share.floor hurt.hardHurt had all
    let die := share.floor hurt.die had all
    let minor := share.floor hurt.minor had all
    let left := ⟨left.hardHurt-hardHurt,left.die-die,left.minor-minor⟩
    let hardHurtToDie := if 0 < reinforceDiePercent then share.floor hardHurt reinforceDiePercent 1000 else 0
    let o := o.setMemberHurt m id {old with hardHurt:=hardHurt-hardHurtToDie, die:=die+hardHurtToDie, minor:=minor}
    let curNum := (o.cell ref).num-(hardHurt-hardHurtToDie+(die+hardHurtToDie)+minor)
    (settleMember o m id ref (if curNum < 0 then 0 else curNum),left)
  | _,_ => state

-- What rounding left over, taken from the members in order until nothing is left.
def spendLeft (part : Component) (id : SoldierId) : List Member → BattleObject → Int → BattleObject
  | [],o,_ => o
  | m::rest,o,left =>
    match o.memberRef m id with
    | none => spendLeft part id rest o left
    | some ref =>
      let num := (o.cell ref).num
      let taken := if left ≤ num then left else num
      let hurt := ((o.memberHurt m id).getD (Hurt.none (o.cell ref))).addPart taken part
      let o := settleMember (o.setMemberHurt m id hurt) m id ref (num-taken)
      if left-taken ≤ 0 then o else spendLeft part id rest o (left-taken)

def spendIf (part : Component) (id : SoldierId) (members : List Member) (o : BattleObject) (left : Int) : BattleObject :=
  if 0 < left then spendLeft part id members o left else o

def distributeKind (share : Share) (config : BattleConfig) (start : BattleObject) (members : List Member)
    (hurts : Table SoldierId Hurt) (o : BattleObject) (id : SoldierId) : BattleObject :=
  match hurts.lookup id with
  | none => o
  | some hurt =>
    let before := fun m => start.memberCount m id
    let all := (members.map (fun m => (before m).getD 0)).sum
    if 0 < all then
      let (o,left) := members.foldl (hurtMember share config hurt id all before) (o,⟨hurt.hardHurt,hurt.die,hurt.minor⟩)
      let o := spendIf .minor id members o left.minor
      let o := spendIf .hardHurt id members o left.hardHurt
      spendIf .die id members o left.die
    else o

def distributeRallyHurt (share : Share) (config : BattleConfig) (kinds : Order SoldierId) (members : Order Member)
    (o : BattleObject) : BattleObject :=
  (kinds.visit o.soldierHurt.keys).foldl
    (distributeKind share config o (members.visit o.rallySoldiers.keys) o.soldierHurt) o

end RallyHurt

-- The deaths the game server reports for armies of this object, as
-- hospitalDieRecord applies them. Reports for other objects change those.
def hospitalDie (attackIndex : ObjectIndex) (o : BattleObject) (death : SoldierId × Nat) : BattleObject :=
  match o.soldierHurt.lookup death.1 with
  | none => o
  | some entry =>
    let hardHurt := if entry.hardHurt-death.2 < 0 then 0 else entry.hardHurt-death.2
    let o := {o with soldierHurt:=o.soldierHurt.insert death.1 {entry with hardHurt:=hardHurt, die:=entry.die+death.2}}
    recordSoldierHurtWithObjectIndex o attackIndex death.1 0 (-death.2) death.2

def hospitalDieRecord (o : BattleObject) (attackIndex : ObjectIndex) (deaths : List (SoldierId × Nat)) : BattleObject :=
  deaths.foldl (hospitalDie attackIndex) o

def resetHurtDie (o : BattleObject) : BattleObject :=
  {o with soldierHurt:=Table.mapValues Hurt.reset o.soldierHurt,
          rallySoldierHurt:=Table.mapValues (Table.mapValues Hurt.reset) o.rallySoldierHurt}

def deathsOf (deaths : List (SoldierId × Nat)) (id : SoldierId) : Int :=
  (((deaths.filter (·.1 = id)).map (·.2)).sum : Nat)

-- The reply of syncObjectArmyCountAndSp to the losses it was sent. The hospital
-- lets at most the reported serious injuries of a kind die (addToHospital).
structure Hospital where
  reply : Table SoldierId Hurt → List (SoldierId × Nat)
  bounded : ∀ sent id, deathsOf (reply sent) id ≤ max 0 (Table.amount sent Hurt.hardHurt id)

def Hospital.silent : Hospital := ⟨fun _ => [],by simp [deathsOf]⟩

-- What a call of cacleObjectHurtDie depends on besides the object.
structure HurtCall where
  attackIndex : ObjectIndex
  loss : BattleLoss
  draw : Nat
  soldierOrder : Order SoldierId
  hurtOrder : Order SoldierId
  memberOrder : Order Member
  hospital : Hospital

def cacleObjectHurtDie (share : Share) (config : BattleConfig) (call : HurtCall) (o : BattleObject) : BattleObject :=
  if o.turnHurt ≤ 0 then o else
  match cacleSoldierHurt share call.soldierOrder o with
  | none => o
  | some hurts =>
    match ranHurtIndex call.loss o hurts call.draw with
    | none => o
    | some chosen =>
      let o := hurtKinds call.loss call.attackIndex chosen hurts (call.soldierOrder.visit o.soldiers.keys) 0 o
      let o := if o.detailed then distributeRallyHurt share config call.hurtOrder call.memberOrder o else o
      let o := hospitalDieRecord o call.attackIndex (call.hospital.reply o.soldierHurt)
      {resetHurtDie o with turnHurt:=0}

section Heal

def healable (config : BattleConfig) (o : BattleObject) (id : SoldierId) : Bool :=
  decide (0 < o.hurt Hurt.allMinor id) &&
  match config.armsType id with
  | none => false
  | some armsType => decide (1 ≤ armsType) && decide (armsType ≤ 4)

-- allMinorInfo, sorted by falling allMinor. Ties keep the traversal order, which is open.
def allMinorInfo (config : BattleConfig) (order : Order SoldierId) (o : BattleObject) : List SoldierId :=
  ((order.visit o.soldierHurt.keys).filter (healable config o)).insertionSort
    (fun a b => o.hurt Hurt.allMinor b ≤ o.hurt Hurt.allMinor a)

structure Healing where
  object : BattleObject
  hadHeal : Int
  allHealInfo : Table SoldierId Int

def healed (entry : Hurt) (healMinor : Int) : Int :=
  if entry.allMinor-healMinor < 0 then entry.allMinor else healMinor

def healKind (state : Healing) (id : SoldierId) (healMinor : Int) : Healing :=
  let o := state.object
  match o.soldierHurt.lookup id with
  | none => state
  | some entry =>
    let healMinor := healed entry healMinor
    let o := {o with soldierHurt:=o.soldierHurt.insert id (entry.heal healMinor)}
    let state := match o.soldiers.lookup id with
      | none => {state with object:=o}
      | some ref =>
        ⟨o.setNum ref ((o.cell ref).num+healMinor),state.hadHeal+healMinor,
         state.allHealInfo.insert id (Table.amount state.allHealInfo (·) id+healMinor)⟩
    {state with object:=recordSoldierHealWithObjectIndex state.object id healMinor}

-- The last kind takes what the proportional shares left.
def healKinds (share : Share) (heal allMinorCount : Int) : List SoldierId → Healing → Healing
  | [],state => state
  | [id],state => healKind state id (heal-state.hadHeal)
  | id::rest,state =>
    healKinds share heal allMinorCount rest
      (healKind state id (share.floor heal (state.object.hurt Hurt.allMinor id) allMinorCount))

-- No remainder pass here: each member gets the floor of its part of the heal.
def healMember (share : Share) (start : BattleObject) (all : Int) (id : SoldierId) (heal : Int)
    (o : BattleObject) (m : Member) : BattleObject :=
  match start.memberHurt m id,o.memberRef m id,o.memberHurt m id with
  | some was,some ref,some hurt =>
    if 0 < was.allMinor ∧ 0 < hurt.allMinor then
      let thisHeal := share.floor heal was.allMinor all
      let thisHeal := if hurt.allMinor-thisHeal < 0 then hurt.allMinor else thisHeal
      (o.setMemberHurt m id (hurt.heal thisHeal)).setNum ref ((o.cell ref).num+thisHeal)
    else o
  | _,_,_ => o

-- Positive allMinor of a member, as the distribution counts it.
def woundedOf (o : BattleObject) (id : SoldierId) (m : Member) : Int :=
  match o.memberHurt m id with
  | none => 0
  | some hurt => if 0 < hurt.allMinor then hurt.allMinor else 0

def distributeHealKind (share : Share) (start : BattleObject) (members : List Member) (soldierHeal : Table SoldierId Int)
    (o : BattleObject) (id : SoldierId) : BattleObject :=
  let all := (members.map (woundedOf start id)).sum
  if 0 < all then members.foldl (healMember share start all id (Table.amount soldierHeal (·) id)) o else o

def distributeRallyHeal (share : Share) (kinds : Order SoldierId) (members : Order Member)
    (o : BattleObject) (soldierHeal : Table SoldierId Int) : BattleObject :=
  if o.rallySoldiers.keys.isEmpty then o else
  (kinds.visit soldierHeal.keys).foldl
    (distributeHealKind share o (members.visit o.rallySoldierHurt.keys) soldierHeal) o

structure HealCall where
  heal : Nat
  hurtOrder : Order SoldierId
  healOrder : Order SoldierId
  memberOrder : Order Member

-- The per-kind part of healArmy, before the split among members.
def healSoldiers (share : Share) (config : BattleConfig) (call : HealCall) (o : BattleObject) : Healing :=
  let kinds := allMinorInfo config call.hurtOrder o
  healKinds share call.heal ((kinds.map (o.hurt Hurt.allMinor)).sum) kinds ⟨o,0,∅⟩

def healArmy (share : Share) (config : BattleConfig) (call : HealCall) (o : BattleObject) : BattleObject :=
  let healed := healSoldiers share config call o
  distributeRallyHeal share call.healOrder call.memberOrder healed.object healed.allHealInfo

end Heal
end OriginGame.Battle
