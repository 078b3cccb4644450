import OriginGame.RallySums
import OriginGame.TroopConservation

namespace OriginGame.Battle
open BattleObject

variable {o p : BattleObject} {id : SoldierId} {m k : Member} {ref : Ref} {share : Share} {config : BattleConfig}

-- The _soldiers argument of addSoldierOnBattle and subSoldierOnBattle.
structure Troops where
  table : Table SoldierId Soldier
  counted : ∀ {id soldier}, table.lookup id = some soldier → 0 ≤ soldier.num

def Troops.num (troops : Troops) (id : SoldierId) : Int := Table.amount troops.table Soldier.num id

-- The tables of the message, under the references they get on arrival.
def Troops.refs (troops : Troops) (message : Nat) : Table SoldierId Ref :=
  Table.mapKeyed (fun id _ => (message,id)) troops.table

def receive (o : BattleObject) (troops : Troops) : BattleObject :=
  {o with fresh:=o.fresh+1,
          cell:=fun ref => if ref.1 = o.fresh then (troops.table.lookup ref.2).getD (o.cell ref) else o.cell ref}

-- `soldiers[id].num = soldiers[id].num + num`, or the arriving table itself.
def addSoldier (message : Nat) (troops : Troops) (o : BattleObject) (id : SoldierId) : BattleObject :=
  match o.soldiers.lookup id with
  | some ref => o.setNum ref ((o.cell ref).num+troops.num id)
  | none => {o with soldiers:=o.soldiers.insert id (message,id)}

def addSelfSoldier (message : Nat) (troops : Troops) (m : Member) (o : BattleObject) (id : SoldierId) : BattleObject :=
  match o.memberRef m id with
  | some ref => o.setNum ref ((o.cell ref).num+troops.num id)
  | none => o.setSlot m (((o.rallySoldiers.lookup m).getD ∅).insert id (message,id))

-- Types whose members the two handlers keep up to date. Rally armies are missing from the second.
def recordsAdd (type : RoleType) : Bool :=
  type.checkIsGuildBuildObject || type.checkIsHolyLandObject || decide (type = .city) || decide (type = .army)

def recordsSub (type : RoleType) : Bool :=
  type.checkIsGuildBuildObject || type.checkIsHolyLandObject || decide (type = .city)

-- rallySoldiers[rid][0] of a rid that has none raises; what was written stays.
def addSoldierOnBattle (order : Order SoldierId) (troops : Troops) (m : Member) (o : BattleObject) : BattleObject :=
  if o.exitBattleFlag then o else
  let message := o.fresh
  let kinds := order.visit troops.table.keys
  let o := kinds.foldl (addSoldier message troops) (receive o troops)
  if recordsAdd o.objectType then
    if m.2 = 0 then
      match o.rallySoldiers.lookup m with
      | none => o
      | some _ => kinds.foldl (addSelfSoldier message troops m) o
    else o.setSlot m (troops.refs message)
  else o

def subSoldier (troops : Troops) (o : BattleObject) (id : SoldierId) : BattleObject :=
  match o.soldiers.lookup id with
  | none => o
  | some ref =>
    let o := o.setNum ref ((o.cell ref).num-troops.num id)
    if (o.cell ref).num ≤ 0 then {o with soldiers:=o.soldiers.erase id} else o

def subSelfSoldier (troops : Troops) (m : Member) (o : BattleObject) (id : SoldierId) : BattleObject :=
  match o.rallySoldiers.lookup m with
  | none => o
  | some own =>
    match own.lookup id with
    | none => o
    | some ref =>
      let o := o.setNum ref ((o.cell ref).num-troops.num id)
      if (o.cell ref).num ≤ 0 then o.setSlot m (own.erase id) else o

-- A whole army leaves; with the last one soldiers is emptied too.
def leaveSlot (m : Member) (o : BattleObject) : BattleObject :=
  let left := o.rallySoldiers.erase m
  {o with rallySoldiers:=left, soldiers:=if left.keys.isEmpty then ∅ else o.soldiers}

def subSoldierOnBattle (order : Order SoldierId) (troops : Troops) (m : Member) (o : BattleObject) : BattleObject :=
  if o.exitBattleFlag then o else
  let kinds := order.visit troops.table.keys
  let o := kinds.foldl (subSoldier troops) o
  if recordsSub o.objectType then
    if m.2 = 0 then kinds.foldl (subSelfSoldier troops m) o
    else
      match o.rallySoldiers.lookup m with
      | none => o
      | some _ => leaveSlot m o
  else o


-- The members add up to the aggregate.
structure Matched (o : BattleObject) : Prop where
  detailed : o.detailed = true
  unshared : Unshared o
  known : ∀ {id ref}, o.soldiers.lookup id = some ref → ref.1 < o.fresh
  knownMember : ∀ {m id ref}, o.memberRef m id = some ref → ref.1 < o.fresh
  total : ∀ id, o.membersTotal id = o.num id
  members : ∀ m id, 0 ≤ o.memberNum m id

-- Between operations no loss of the turn is still open.
structure Even (o : BattleObject) : Prop extends Matched o where
  settled : ∀ id, o.hurt Hurt.turn id = 0

theorem Matched.num (even : Matched o) (id : SoldierId) : 0 ≤ o.num id := by
  rw [← even.total,membersTotal]
  apply List.sum_nonneg
  intro n listed
  obtain ⟨m,_,rfl⟩ := List.mem_map.mp listed
  exact even.members m id

-- p has the troops of o; records of losses may differ.
structure SameTroops (o p : BattleObject) : Prop where
  detailed : p.detailed = o.detailed
  soldiers : p.soldiers = o.soldiers
  cell : p.cell = o.cell
  rallySoldiers : p.rallySoldiers = o.rallySoldiers
  fresh : p.fresh = o.fresh

theorem SameTroops.trans {q : BattleObject} (left : SameTroops o p) (right : SameTroops p q) : SameTroops o q :=
  ⟨right.detailed.trans left.detailed,right.soldiers.trans left.soldiers,right.cell.trans left.cell,right.rallySoldiers.trans left.rallySoldiers,
    right.fresh.trans left.fresh⟩

theorem Matched.of_same (even : Matched o) (same : SameTroops o p) : Matched p := by
  obtain ⟨_,_,_,_,_,_,_,_,_,_,_,_,_,_⟩ := p
  obtain ⟨detailed,soldiers,cell,rallySoldiers,fresh⟩ := same
  simp only at soldiers cell rallySoldiers fresh
  subst soldiers cell rallySoldiers fresh
  exact ⟨detailed.trans even.detailed,⟨even.unshared.soldiers,even.unshared.members,even.unshared.apart⟩,even.known,even.knownMember,
    even.total,even.members⟩

section Damage
variable {start : BattleObject} {loss : BattleLoss} {attackIndex : ObjectIndex} {extra : Bool} {points : Int}

-- In the middle of a turn the aggregate is down by the turn's losses and the members are not yet.
structure Struck (start o : BattleObject) : Prop where
  frame : SoldiersOnly start o
  unshared : Unshared o
  turn : ∀ id, o.num id+o.hurt Hurt.turn id = start.num id
  num : ∀ id, 0 ≤ o.num id
  owed : ∀ id, 0 ≤ o.hurt Hurt.turn id

theorem hurtKind_turn (found : o.soldiers.lookup id = some ref) :
    (hurtKind loss attackIndex extra o id ref points).hurt Hurt.turn id = o.hurt Hurt.turn id+min (o.num id) points := by
  have entry : ((o.soldierHurt.lookup id).getD (Hurt.none (o.cell ref))).turn = o.hurt Hurt.turn id := by
    cases known : o.soldierHurt.lookup id with
    | none => exact (Table.amount_none known _).symm
    | some entry => exact (Table.amount_some known _).symm
  have total : (casualties loss extra (o.cell ref).num points).hardHurt+(casualties loss extra (o.cell ref).num points).die+
      (casualties loss extra (o.cell ref).num points).minor = min (o.num id) points := by
    rw [num_of_cell found]
    exact casualties_total
  have written : (hurtKind loss attackIndex extra o id ref points).hurt Hurt.turn id = _ := Table.amount_insert _ _ _ _
  rw [written,← entry,← total]
  simp only [Hurt.turn]
  omega

theorem hurtKind_left (found : o.soldiers.lookup id = some ref) :
    (hurtKind loss attackIndex extra o id ref points).num id = o.num id-min (o.num id) points := by
  have total : (casualties loss extra (o.num id) points).hardHurt+(casualties loss extra (o.num id) points).die+
    (casualties loss extra (o.num id) points).minor = min (o.num id) points := casualties_total
  rw [hurtKind_num found,← total]
  omega

theorem hurtKind_struck (struck : Struck start o) (found : o.soldiers.lookup id = some ref) (nonneg : 0 ≤ points) :
    Struck start (hurtKind loss attackIndex extra o id ref points) := by
  have frame : SoldiersOnly o (hurtKind loss attackIndex extra o id ref points) := hurtKind_soldiersOnly found
  have others : ∀ j, j ≠ id → (hurtKind loss attackIndex extra o id ref points).hurt Hurt.turn j = o.hurt Hurt.turn j :=
    fun j other => Table.amount_insert_ne _ _ _ other
  refine ⟨struck.frame.trans frame,frame.unshared struck.unshared,?_,?_,?_⟩ <;> intro j <;>
    have turn := struck.turn j <;> have num := struck.num j <;> have owed := struck.owed j <;> by_cases same : j = id
  · subst same
    rw [hurtKind_left found,hurtKind_turn found]
    omega
  · rw [hurtKind_num_ne struck.unshared found same,others j same]
    exact turn
  · subst same
    rw [hurtKind_left found]
    omega
  · rw [hurtKind_num_ne struck.unshared found same]
    exact num
  · subst same
    rw [hurtKind_turn found]
    omega
  · rw [others j same]
    exact owed

theorem hurtKinds_struck {hurts : Table SoldierId Int} {kinds : List SoldierId} (struck : Struck start o)
    (nonneg : ∀ {id points}, hurts.lookup id = some points → 0 ≤ points) :
    Struck start (hurtKinds loss attackIndex chosen hurts kinds index o) := by
  induction kinds generalizing o index with
  | nil => exact struck
  | cons id rest ih =>
    unfold hurtKinds
    split
    · rename_i ref points found assigned
      exact ih (hurtKind_struck struck found (nonneg assigned))
    · exact ih struck

theorem Even.struck (even : Even o) : Struck o o where
  frame := .refl o
  unshared := even.unshared
  turn id := by rw [even.settled id,Int.add_zero]
  num := even.num
  owed id := (even.settled id).ge

theorem hospitalDieRecord_same (o : BattleObject) (attackIndex : ObjectIndex) (deaths : List (SoldierId × Nat)) :
    SameTroops o (hospitalDieRecord o attackIndex deaths) := by
  unfold hospitalDieRecord
  induction deaths generalizing o with
  | nil => exact ⟨rfl,rfl,rfl,rfl,rfl⟩
  | cons death rest ih =>
    have one : SameTroops o (hospitalDie attackIndex o death) := by
      unfold hospitalDie
      split <;> exact ⟨rfl,rfl,rfl,rfl,rfl⟩
    exact one.trans (ih _)

-- The members pay what the aggregate lost.
theorem Struck.pays (struck : Struck start o) (even : Even start) (share : Share) (config : BattleConfig)
    (kinds : Order SoldierId) (members : Order Member) (id : SoldierId) :
    (distributeRallyHurt share config kinds members o).membersTotal id =
      (distributeRallyHurt share config kinds members o).num id ∧
    ∀ m, 0 ≤ (distributeRallyHurt share config kinds members o).memberNum m id := by
  have counts : ∀ m id, o.memberNum m id = start.memberNum m id :=
    fun m id => memberNum_congr (struck.frame.memberCount even.unshared m id)
  have before : ∀ id, o.membersTotal id = start.num id := by
    intro id
    rw [← even.total,membersTotal,membersTotal,struck.frame.rallySoldiers]
    exact congrArg List.sum (List.map_congr_left (fun m _ => counts m id))
  have paid := distributeRallyHurt_total share config kinds members struck.unshared
    (fun m id => counts m id ▸ even.members m id) (fun id => by
      have turn := struck.turn id
      have num := struck.num id
      rw [before id]
      exact ⟨struck.owed id,by omega⟩) id
  refine ⟨?_,paid.2⟩
  have turn := struck.turn id
  rw [paid.1,before,(distributeRallyHurt_membersOnly share config kinds members o).num struck.unshared]
  omega

theorem turn_reset (o : BattleObject) (id : SoldierId) : (resetHurtDie o).hurt Hurt.turn id = 0 := by
  change Table.amount (Table.mapValues Hurt.reset o.soldierHurt) Hurt.turn id = 0
  rw [Table.amount_mapValues]
  cases found : o.soldierHurt.lookup id with
  | none => exact Table.amount_none found _
  | some entry => rw [Table.amount_some found]; rfl

-- Damage needs no condition: overkill, negative light injuries and deaths included.
theorem cacleObjectHurtDie_even (even : Even o) (call : HurtCall) :
    Even (cacleObjectHurtDie share config call o) := by
  unfold cacleObjectHurtDie
  split
  · exact even
  · rename_i hit
    split
    · exact even
    · rename_i hurts assigned
      split
      · exact even
      · rename_i chosen drawn
        have struck : Struck o (hurtKinds call.loss call.attackIndex chosen hurts
            (call.soldierOrder.visit o.soldiers.keys) 0 o) :=
          hurtKinds_struck even.struck (fun found =>
            cacleSoldierHurt_nonneg (fun id _ => even.num id) (Int.not_le.mp hit) assigned found)
        generalize hurtKinds call.loss call.attackIndex chosen hurts (call.soldierOrder.visit o.soldiers.keys) 0 o = q at struck ⊢
        have frame := distributeRallyHurt_membersOnly share config call.hurtOrder call.memberOrder q
        have pays := struck.pays even share config call.hurtOrder call.memberOrder
        dsimp only
        rw [if_pos (struck.frame.detailed.trans even.detailed)]
        generalize distributeRallyHurt share config call.hurtOrder call.memberOrder q = p at frame pays ⊢
        have known : p.fresh = o.fresh := by rw [frame.rest]; exact struck.frame.fresh
        have matched : Matched p := by
          refine ⟨frame.detailed.trans (struck.frame.detailed.trans even.detailed),frame.unshared struck.unshared,?_,?_,
            fun id => (pays id).1,fun m id => (pays id).2 m⟩
          · intro id ref found
            rw [known]
            exact even.known (struck.frame.refs (frame.soldiers ▸ found))
          · intro m id ref found
            rw [known]
            exact even.knownMember (struck.frame.memberRef ▸ frame.refs found)
        have same : SameTroops p {resetHurtDie (hospitalDieRecord p call.attackIndex (call.hospital.reply p.soldierHurt)) with turnHurt:=0} :=
          (hospitalDieRecord_same p _ _).trans ⟨rfl,rfl,rfl,rfl,rfl⟩
        exact ⟨matched.of_same same,turn_reset _⟩

end Damage

section Heal
variable {start : BattleObject} {state : Healing} {healMinor : Int}

-- The aggregate is up by what allHealInfo says; the members are not yet.
structure Raised (start : BattleObject) (state : Healing) : Prop where
  frame : SoldiersOnly start state.object
  unshared : Unshared state.object
  num : ∀ id, state.object.num id = start.num id+Table.amount state.allHealInfo (·) id
  amounts : ∀ id, 0 ≤ Table.amount state.allHealInfo (·) id
  turn : ∀ id, state.object.hurt Hurt.turn id = start.hurt Hurt.turn id

theorem healKind_turn (id j : SoldierId) :
    (healKind state id healMinor).object.hurt Hurt.turn j = state.object.hurt Hurt.turn j := by
  by_cases same : j = id
  · subst same
    cases found : state.object.soldierHurt.lookup j with
    | none => simp only [healKind,found]
    | some entry =>
      have before : state.object.hurt Hurt.turn j = entry.turn := Table.amount_some found _
      rw [before]
      cases held : state.object.soldiers.lookup j with
      | none => rw [healKind_absent held found]; exact Table.amount_insert _ _ _ _
      | some ref => rw [healKind_present held found]; exact Table.amount_insert _ _ _ _
  · exact healKind_hurt_ne _ same

theorem healKind_raised (raised : Raised start state) (minor : 0 ≤ state.object.hurt Hurt.allMinor id)
    (nonneg : 0 ≤ healMinor) : Raised start (healKind state id healMinor) := by
  have frame : SoldiersOnly state.object (healKind state id healMinor).object := healKind_soldiersOnly
  have counts : ∀ j, (healKind state id healMinor).object.num j-Table.amount (healKind state id healMinor).allHealInfo (·) j =
      state.object.num j-Table.amount state.allHealInfo (·) j ∧
      Table.amount state.allHealInfo (·) j ≤ Table.amount (healKind state id healMinor).allHealInfo (·) j := by
    intro j
    cases found : state.object.soldierHurt.lookup id with
    | none => simp only [healKind,found,true_and]; exact Int.le_refl _
    | some entry =>
      rw [BattleObject.hurt,Table.amount_some found] at minor
      have given := healed_nonneg minor nonneg
      cases held : state.object.soldiers.lookup id with
      | none =>
        have info : (healKind state id healMinor).allHealInfo = state.allHealInfo := by simp only [healKind,found,held]
        rw [info,healKind_absent held found]
        exact ⟨rfl,Int.le_refl _⟩
      | some ref =>
        have kept : (afterHeal state.object id entry healMinor).soldiers.lookup id = some ref := held
        have apart : Unshared (afterHeal state.object id entry healMinor) :=
          raised.unshared.shrink (fun found => found) (fun found => found)
        rw [healKind_present held found]
        by_cases same : j = id
        · subst same
          have num := num_setNum kept ((state.object.cell ref).num+healed entry healMinor)
          rw [Table.amount_insert]
          change ((afterHeal state.object j entry healMinor).setNum ref _).num j-_ = _ ∧ _
          rw [num,num_of_cell held]
          omega
        · rw [Table.amount_insert_ne _ _ _ same]
          change ((afterHeal state.object id entry healMinor).setNum ref _).num j-_ = _ ∧ _
          rw [num_setNum_ne apart kept _ same]
          exact ⟨rfl,Int.le_refl _⟩
  refine ⟨raised.frame.trans frame,frame.unshared raised.unshared,?_,?_,fun j => (healKind_turn id j).trans (raised.turn j)⟩
  · intro j
    have num := raised.num j
    have kept := (counts j).1
    omega
  · intro j
    exact (raised.amounts j).trans (counts j).2

theorem healSoldiers_raised (even : Even o) : Raised o (healSoldiers share config call o) := by
  apply healSoldiers_keeps (Raised o)
  · intro state id healMinor _ _ raised minor nonneg _
    exact healKind_raised raised minor nonneg
  · refine ⟨.refl o,even.unshared,?_,?_,fun _ => rfl⟩ <;> intro id <;> simp [Table.amount]

-- What of a heal falls to each kind, before it is split among the members.
def healFor (share : Share) (config : BattleConfig) (call : HealCall) (o : BattleObject) (id : SoldierId) : Int :=
  Table.amount (healSoldiers share config call o).allHealInfo (·) id

theorem Splits.congr (splits : Splits share o id heal) (frame : SoldiersOnly o p) : Splits share p id heal := by
  have wounded : woundedOf p id = woundedOf o id := by
    funext m
    unfold woundedOf
    rw [frame.memberHurt]
  have total : woundedTotal p id = woundedTotal o id := by
    unfold woundedTotal
    rw [wounded,frame.rallySoldierHurt]
  intro some
  rw [total,wounded,frame.memberRef]
  exact splits some

theorem healArmy_even (even : Even o) (splits : ∀ id, Splits share o id (healFor share config call o id)) :
    Even (healArmy share config call o) := by
  have raised : Raised o (healSoldiers share config call o) := healSoldiers_raised even
  have splits : ∀ id, Splits share (healSoldiers share config call o).object id
      (Table.amount (healSoldiers share config call o).allHealInfo (·) id) := fun id => (splits id).congr raised.frame
  unfold healArmy
  generalize healSoldiers share config call o = state at raised splits ⊢
  dsimp only
  have counts : ∀ m id, state.object.memberNum m id = o.memberNum m id :=
    fun m id => memberNum_congr (raised.frame.memberCount even.unshared m id)
  have before : ∀ id, state.object.membersTotal id = o.num id := by
    intro id
    rw [← even.total,membersTotal,membersTotal,raised.frame.rallySoldiers]
    exact congrArg List.sum (List.map_congr_left (fun m _ => counts m id))
  have spread := distributeRallyHeal_total share call.healOrder call.memberOrder raised.unshared
    (fun m id => counts m id ▸ even.members m id) raised.amounts splits
  have frame := distributeRallyHeal_membersOnly share call.healOrder call.memberOrder state.object state.allHealInfo
  generalize distributeRallyHeal share call.healOrder call.memberOrder state.object state.allHealInfo = p at spread frame ⊢
  have known : p.fresh = o.fresh := by rw [frame.rest]; exact raised.frame.fresh
  refine ⟨⟨frame.detailed.trans (raised.frame.detailed.trans even.detailed),frame.unshared raised.unshared,?_,?_,?_,
    fun m id => (spread id).2 m⟩,?_⟩
  · intro id ref found
    rw [known]
    exact even.known (raised.frame.refs (frame.soldiers ▸ found))
  · intro m id ref found
    rw [known]
    exact even.knownMember (raised.frame.memberRef ▸ frame.refs found)
  · intro id
    rw [(spread id).1,before,frame.num raised.unshared,raised.num]
  · intro id
    rw [BattleObject.hurt,frame.soldierHurt]
    exact (raised.turn id).trans (even.settled id)

end Heal

section Soldiers
variable {start : BattleObject} {troops : Troops} {message : Nat}

-- p and o hold the kind alike.
def Kept (id : SoldierId) (o p : BattleObject) : Prop :=
  p.soldiers.lookup id = o.soldiers.lookup id ∧ p.num id = o.num id

-- A loop over kinds that changes each kind's count in soldiers by its own amount.
theorem foldSoldiers (start : BattleObject) {change : BattleObject → SoldierId → BattleObject} {amount : SoldierId → Int}
    {kinds : List SoldierId} (each : kinds.Nodup)
    (one : ∀ now, ∀ id ∈ kinds, Unshared now → Kept id start now → SoldiersOnly now (change now id) ∧
      (change now id).soldierHurt = now.soldierHurt ∧ (change now id).num id = now.num id+amount id ∧
      ∀ j, j ≠ id → Kept j now (change now id))
    {now : BattleObject} (unshared : Unshared now) (agree : ∀ id ∈ kinds, Kept id start now) :
    SoldiersOnly now (kinds.foldl change now) ∧ (kinds.foldl change now).soldierHurt = now.soldierHurt ∧
      (∀ id ∈ kinds, (kinds.foldl change now).num id = now.num id+amount id) ∧
      (∀ id, id ∉ kinds → Kept id now (kinds.foldl change now)) := by
  induction kinds generalizing now with
  | nil => exact ⟨.refl now,rfl,fun id listed => absurd listed List.not_mem_nil,fun id _ => ⟨rfl,rfl⟩⟩
  | cons kind rest ih =>
    obtain ⟨fresh,each⟩ := List.nodup_cons.mp each
    obtain ⟨frame,hurts,own,others⟩ := one now kind List.mem_cons_self unshared (agree kind List.mem_cons_self)
    have apart : ∀ id ∈ rest, id ≠ kind := fun id listed same => fresh (same ▸ listed)
    rw [List.foldl_cons]
    obtain ⟨later,same,counts,untouched⟩ := ih each (fun now id listed => one now id (List.mem_cons_of_mem _ listed))
      (frame.unshared unshared) (fun id listed =>
        ⟨(others id (apart id listed)).1.trans (agree id (List.mem_cons_of_mem _ listed)).1,
          (others id (apart id listed)).2.trans (agree id (List.mem_cons_of_mem _ listed)).2⟩)
    refine ⟨frame.trans later,same.trans hurts,?_,?_⟩
    · intro id listed
      rcases List.mem_cons.mp listed with rfl | listed
      · rw [(untouched id fresh).2,own]
      · rw [counts id listed,(others id (apart id listed)).2]
    · intro id unlisted
      obtain ⟨other,unlisted⟩ := not_or.mp (fun either => unlisted (List.mem_cons.mpr either))
      exact ⟨(untouched id unlisted).1.trans (others id other).1,(untouched id unlisted).2.trans (others id other).2⟩

theorem Troops.num_missing (troops : Troops) (missing : id ∉ troops.table) : troops.num id = 0 :=
  Table.amount_none (AList.lookup_eq_none.mpr missing) _

theorem addSoldier_one (message : Nat) (troops : Troops) (unshared : Unshared o) (present : id ∈ o.soldiers) :
    SoldiersOnly o (addSoldier message troops o id) ∧ (addSoldier message troops o id).soldierHurt = o.soldierHurt ∧
      (addSoldier message troops o id).num id = o.num id+troops.num id ∧
      ∀ j, j ≠ id → Kept j o (addSoldier message troops o id) := by
  obtain ⟨ref,found⟩ := Table.lookup_of_mem present
  simp only [addSoldier,found]
  refine ⟨setNum_soldiersOnly found _,rfl,?_,?_⟩
  · rw [num_setNum found,num_of_cell found]
  · exact fun j other => ⟨rfl,num_setNum_ne unshared found _ other⟩

theorem subSoldier_one (troops : Troops) (unshared : Unshared o) (enough : troops.num id ≤ o.num id)
    (nonneg : 0 ≤ troops.num id) :
    SoldiersOnly o (subSoldier troops o id) ∧ (subSoldier troops o id).soldierHurt = o.soldierHurt ∧
      (subSoldier troops o id).num id = o.num id+-troops.num id ∧ ∀ j, j ≠ id → Kept j o (subSoldier troops o id) := by
  cases found : o.soldiers.lookup id with
  | none =>
    have count := num_missing found
    have same : subSoldier troops o id = o := by simp only [subSoldier,found]
    rw [same]
    exact ⟨.refl o,rfl,by omega,fun j _ => ⟨rfl,rfl⟩⟩
  | some ref =>
    have count := num_of_cell found
    have frame := setNum_soldiersOnly found ((o.cell ref).num-troops.num id)
    have left := num_setNum found ((o.cell ref).num-troops.num id)
    have others : ∀ j, j ≠ id → (o.setNum ref ((o.cell ref).num-troops.num id)).num j = o.num j :=
      fun j other => num_setNum_ne unshared found _ other
    by_cases gone : (o.cell ref).num-troops.num id ≤ 0
    · have erased : subSoldier troops o id =
          {o.setNum ref ((o.cell ref).num-troops.num id) with soldiers:=o.soldiers.erase id} := by
        simp only [subSoldier,found,cell_setNum,if_pos gone,soldiers_setNum]
      have lookup : ∀ j, j ≠ id → (subSoldier troops o id).soldiers.lookup j = o.soldiers.lookup j := by
        intro j other
        rw [erased]
        exact AList.lookup_erase_ne other
      have missing : (subSoldier troops o id).soldiers.lookup id = none := by
        rw [erased]
        exact AList.lookup_erase _ _
      refine ⟨?_,by rw [erased]; rfl,?_,?_⟩
      · rw [erased]
        refine ⟨frame.objectType,frame.detailed,frame.rallySoldiers,frame.rallySoldierHurt,frame.fresh,?_,frame.cells⟩
        intro j held kept
        exact (Table.found_erase kept).2
      · rw [num_missing missing]
        omega
      · intro j other
        refine ⟨lookup j other,?_⟩
        rw [← others j other]
        unfold BattleObject.num Table.amount
        rw [lookup j other,erased]
        rfl
    · have written : subSoldier troops o id = o.setNum ref ((o.cell ref).num-troops.num id) := by
        simp only [subSoldier,found,cell_setNum,if_neg gone]
      rw [written]
      exact ⟨frame,rfl,by omega,fun j other => ⟨rfl,others j other⟩⟩

end Soldiers

section Receive
variable {troops : Troops}

theorem receive_cell (old : ref.1 < o.fresh) : (receive o troops).cell ref = o.cell ref :=
  if_neg (Nat.ne_of_lt old)

theorem receive_new (troops : Troops) (found : troops.table.lookup id = some soldier) :
    (receive o troops).cell (o.fresh,id) = soldier := by
  change (if o.fresh = o.fresh then _ else _) = soldier
  rw [if_pos rfl,found]
  rfl

theorem receive_unshared (unshared : Unshared o) : Unshared (receive o troops) :=
  unshared.shrink (fun found => found) (fun found => found)

theorem receive_num (matched : Matched o) (id : SoldierId) : (receive o troops).num id = o.num id := by
  cases found : o.soldiers.lookup id with
  | none => rw [num_missing found,num_missing (o:=receive o troops) found]
  | some ref =>
    rw [num_of_cell found,num_of_cell (o:=receive o troops) found,receive_cell (matched.known found)]

theorem receive_memberCount (matched : Matched o) (m : Member) (id : SoldierId) :
    (receive o troops).memberCount m id = o.memberCount m id := by
  change (o.memberRef m id).map _ = (o.memberRef m id).map _
  cases found : o.memberRef m id with
  | none => rfl
  | some ref => rw [Option.map_some,Option.map_some,receive_cell (matched.knownMember found)]

-- The aggregate has taken the troops in; the members have not.
structure Joining (troops : Troops) (o now : BattleObject) : Prop where
  unshared : Unshared now
  known : ∀ {id ref}, now.soldiers.lookup id = some ref → ref.1 < o.fresh
  rallySoldiers : now.rallySoldiers = o.rallySoldiers
  fresh : now.fresh = o.fresh+1
  objectType : now.objectType = o.objectType
  detailed : now.detailed = o.detailed
  soldierHurt : now.soldierHurt = o.soldierHurt
  num : ∀ id, now.num id = o.num id+troops.num id
  members : ∀ m id, now.memberCount m id = o.memberCount m id
  cell : ∀ {id soldier}, troops.table.lookup id = some soldier → now.cell (o.fresh,id) = soldier

theorem addSoldiers_joining (matched : Matched o) (order : Order SoldierId) (present : ∀ id ∈ troops.table, id ∈ o.soldiers) :
    Joining troops o ((order.visit troops.table.keys).foldl (addSoldier o.fresh troops) (receive o troops)) := by
  have each := order.nodup_visit (AList.keys_nodup troops.table)
  have listed : ∀ id, id ∈ order.visit troops.table.keys ↔ id ∈ troops.table :=
    fun id => order.mem_visit.trans AList.mem_keys.symm
  obtain ⟨frame,hurts,counts,others⟩ := foldSoldiers (receive o troops) each (fun now id visited unshared kept =>
      addSoldier_one o.fresh troops unshared (by
        rw [← AList.lookup_isSome,kept.1,AList.lookup_isSome]
        exact present id ((listed id).mp visited)))
    (receive_unshared matched.unshared) (fun _ _ => ⟨rfl,rfl⟩)
  generalize (order.visit troops.table.keys).foldl (addSoldier o.fresh troops) (receive o troops) = now
    at frame hurts counts others ⊢
  refine ⟨frame.unshared (receive_unshared matched.unshared),fun found => matched.known (frame.refs found),frame.rallySoldiers,
    frame.fresh,frame.objectType,frame.detailed,hurts,?_,?_,?_⟩
  · intro id
    by_cases sent : id ∈ troops.table
    · rw [counts id ((listed id).mpr sent),receive_num matched]
    · rw [(others id (fun visited => sent ((listed id).mp visited))).2,receive_num matched,troops.num_missing sent,Int.add_zero]
  · intro m id
    rw [frame.memberCount (receive_unshared matched.unshared),receive_memberCount matched]
  · intro id soldier found
    rw [frame.cells,receive_new troops found]
    intro i held
    exact Nat.lt_irrefl _ (matched.known held)

theorem Joining.member_old (joining : Joining troops o now) (matched : Matched o) (held : now.memberRef k id = some ref) :
    ref.1 < o.fresh := by
  apply matched.knownMember (m:=k)
  unfold memberRef at held ⊢
  rwa [joining.rallySoldiers] at held

theorem Joining.membersTotal (joining : Joining troops o now) (matched : Matched o) (id : SoldierId) :
    now.membersTotal id = o.num id := by
  rw [← matched.total,BattleObject.membersTotal,BattleObject.membersTotal,joining.rallySoldiers]
  exact congrArg List.sum (List.map_congr_left (fun m _ => memberNum_congr (joining.members m id)))

theorem Troops.num_nonneg (troops : Troops) (id : SoldierId) : 0 ≤ troops.num id := by
  cases found : troops.table.lookup id with
  | none => exact (Table.amount_none found _).ge
  | some soldier =>
    rw [Troops.num,Table.amount_some found]
    exact troops.counted found

-- The members have taken the same troops in, under references no one else holds.
theorem Joining.finish (joining : Joining troops o now) (even : Even o) (detailed : p.detailed = now.detailed)
    (soldiers : p.soldiers = now.soldiers)
    (soldierHurt : p.soldierHurt = now.soldierHurt) (num : ∀ id, p.num id = now.num id) (fresh : p.fresh = now.fresh)
    (held : ∀ {k id ref}, p.memberRef k id = some ref → (k = m ∧ ref = (o.fresh,id)) ∨ now.memberRef k id = some ref)
    (spends : ∀ id, Spends id [m] now (-troops.num id) p) : Even p := by
  have matched := even.toMatched
  refine ⟨⟨detailed.trans (joining.detailed.trans even.detailed),⟨?_,?_,?_⟩,?_,?_,?_,?_⟩,?_⟩
  · intro i j ref left right
    rw [soldiers] at left right
    exact joining.unshared.soldiers left right
  · intro k n i j ref left right
    rcases held left with ⟨rfl,rfl⟩ | left
    · rcases held right with ⟨rfl,same⟩ | right
      · exact ⟨rfl,(Prod.mk.inj same).2⟩
      · exact absurd (joining.member_old matched right) (Nat.lt_irrefl _)
    · rcases held right with ⟨rfl,rfl⟩ | right
      · exact absurd (joining.member_old matched left) (Nat.lt_irrefl _)
      · exact joining.unshared.members left right
  · intro i k j ref left right
    rw [soldiers] at left
    rcases held right with ⟨rfl,rfl⟩ | right
    · exact Nat.lt_irrefl _ (joining.known left)
    · exact joining.unshared.apart left right
  · intro id ref found
    rw [soldiers] at found
    rw [fresh,joining.fresh]
    exact Nat.lt_succ_of_lt (joining.known found)
  · intro k id ref found
    rw [fresh,joining.fresh]
    rcases held found with ⟨rfl,rfl⟩ | found
    · exact Nat.lt_succ_self _
    · exact Nat.lt_succ_of_lt (joining.member_old matched found)
  · intro id
    rw [(spends id).membersTotal (List.nodup_singleton m),joining.membersTotal matched,num,joining.num,Int.sub_neg]
  · intro k id
    apply (spends id).members_nonneg
    intro n
    rw [memberNum_congr (joining.members n id)]
    exact matched.members n id
  · intro id
    rw [BattleObject.hurt,soldierHurt,joining.soldierHurt]
    exact even.settled id

-- The new slot holds the arriving tables themselves.
theorem Joining.slot (joining : Joining troops o now) (even : Even o) (empty : ∀ id, o.memberNum m id = 0) :
    Even (now.setSlot m (troops.refs o.fresh)) := by
  have refs : ∀ k id, (now.setSlot m (troops.refs o.fresh)).memberRef k id =
      if k = m then (troops.table.lookup id).map (fun _ => (o.fresh,id)) else now.memberRef k id := by
    intro k id
    rw [memberRef_setSlot,Troops.refs,Table.lookup_mapKeyed]
  have counts : ∀ k id, k ≠ m → (now.setSlot m (troops.refs o.fresh)).memberCount k id = now.memberCount k id := by
    intro k id other
    unfold memberCount
    rw [refs,if_neg other]
    rfl
  have own : ∀ id, (now.setSlot m (troops.refs o.fresh)).memberNum m id = troops.num id := by
    intro id
    unfold memberNum memberCount Troops.num Table.amount
    rw [refs,if_pos rfl]
    cases found : troops.table.lookup id with
    | none => rfl
    | some soldier => exact congrArg Soldier.num (joining.cell found)
  refine joining.finish (m:=m) (p:=now.setSlot m (troops.refs o.fresh)) even rfl rfl rfl (fun _ => rfl) rfl ?_ ?_
  · intro k id ref found
    rw [refs] at found
    split at found
    · rename_i same
      obtain ⟨_,_,rfl⟩ := Option.map_eq_some_iff.mp found
      exact .inl ⟨same,rfl⟩
    · exact .inr found
  · intro id
    have before : now.memberNum m id = 0 := (memberNum_congr (joining.members m id)).trans (empty id)
    refine ⟨?_,?_,fun k unlisted => counts k id (fun same => unlisted (List.mem_singleton.mpr same))⟩
    · simp only [List.map_cons,List.map_nil,List.sum_cons,List.sum_nil,own,before]
      omega
    · intro k listed
      rw [List.mem_singleton.mp listed,own]
      exact troops.num_nonneg id

-- Between the writes of the own slot.
structure Entering (troops : Troops) (m : Member) (o now next : BattleObject) : Prop where
  unshared : Unshared next
  rest : next = {now with rallySoldiers:=next.rallySoldiers, cell:=next.cell}
  held : ∀ {k id ref}, next.memberRef k id = some ref → (k = m ∧ ref = (o.fresh,id)) ∨ now.memberRef k id = some ref
  cells : ∀ {ref}, (∀ k id, next.memberRef k id ≠ some ref) → next.cell ref = now.cell ref

theorem Entering.num (entering : Entering troops m o now next) (id : SoldierId) : next.num id = now.num id := by
  have soldiers : next.soldiers = now.soldiers := by rw [entering.rest]
  cases found : next.soldiers.lookup id with
  | none => rw [num_missing found,num_missing (soldiers ▸ found)]
  | some ref =>
    rw [num_of_cell found,num_of_cell (soldiers ▸ found),entering.cells]
    exact fun k j => entering.unshared.apart found

theorem raiseSelf_one (joining : Joining troops o now) (matched : Matched o) (entering : Entering troops m o now next)
    (agree : Agree id now next) (held : next.memberRef m id = some ref) :
    Entering troops m o now (next.setNum ref ((next.cell ref).num+troops.num id)) ∧
      (∀ j, j ≠ id → Agree j next (next.setNum ref ((next.cell ref).num+troops.num id))) ∧
      Spends id [m] next (-troops.num id) (next.setNum ref ((next.cell ref).num+troops.num id)) := by
  have frame := setNum_kindOnly held ((next.cell ref).num+troops.num id)
  have counts := memberCount_setNum entering.unshared held ((next.cell ref).num+troops.num id)
  have own : (next.setNum ref ((next.cell ref).num+troops.num id)).memberNum m id = next.memberNum m id+troops.num id := by
    rw [memberNum,counts,if_pos ⟨rfl,rfl⟩,memberNum_of_ref held]
    rfl
  refine ⟨⟨frame.membersOnly.unshared entering.unshared,?_,entering.held,?_⟩,fun j other => frame.agree entering.unshared other,
    ?_,?_,?_⟩
  · rw [entering.rest]
    rfl
  · intro slot unheld
    have apart : slot ≠ ref := by
      rintro rfl
      exact unheld m id held
    rw [cell_setNum_ne _ _ apart]
    exact entering.cells unheld
  · simp only [List.map_cons,List.map_nil,List.sum_cons,List.sum_nil,own]
    omega
  · intro k listed
    rw [List.mem_singleton.mp listed,own,memberNum_congr (agree m).1,memberNum_congr (joining.members m id)]
    exact Int.add_nonneg (matched.members m id) (troops.num_nonneg id)
  · intro k unlisted
    rw [counts,if_neg (fun both => unlisted (List.mem_singleton.mpr both.1))]

section entry
variable {slot : Nat} {k : Member} {j : SoldierId}

-- A member without the kind points to the arriving table, and nothing else changes.
theorem enterSelf_refs (missing : next.memberRef m id = none) (k : Member) (j : SoldierId) :
    (addSelfSoldier slot troops m next id).memberRef k j = if k = m ∧ j = id then some (slot,id) else next.memberRef k j := by
  simp only [addSelfSoldier,missing,memberRef_setSlot]
  by_cases member : k = m
  · subst member
    by_cases kind : j = id
    · subst kind; simp
    · rw [if_pos rfl,if_neg (fun both => kind both.2),AList.lookup_insert_ne kind]
      unfold memberRef
      cases next.rallySoldiers.lookup k <;> simp
  · rw [if_neg member,if_neg (fun both => member both.1)]

theorem enterSelf_rest (missing : next.memberRef m id = none) : addSelfSoldier slot troops m next id =
    {next with rallySoldiers:=(addSelfSoldier slot troops m next id).rallySoldiers} := by
  simp only [addSelfSoldier,missing]
  rfl

theorem enterSelf_ref (missing : next.memberRef m id = none) (found : (addSelfSoldier slot troops m next id).memberRef k j = some ref) :
    (k = m ∧ j = id ∧ ref = (slot,id)) ∨ next.memberRef k j = some ref := by
  rw [enterSelf_refs missing] at found
  split at found
  · rename_i both
    exact .inl ⟨both.1,both.2,(Option.some.inj found).symm⟩
  · exact .inr found

-- No one holds the arriving table yet, so it still has the count it came with.
theorem Entering.unheld (joining : Joining troops o now) (matched : Matched o) (entering : Entering troops m o now next)
    (missing : next.memberRef m id = none) (k : Member) (j : SoldierId) : next.memberRef k j ≠ some (o.fresh,id) := by
  intro found
  rcases entering.held found with ⟨rfl,same⟩ | old
  · cases (Prod.mk.inj same).2
    cases missing.symm.trans found
  · exact Nat.lt_irrefl _ (joining.member_old matched old)

theorem enterSelf_counts (joining : Joining troops o now) (matched : Matched o) (sent : id ∈ troops.table)
    (entering : Entering troops m o now next) (missing : next.memberRef m id = none) (k : Member) (j : SoldierId) :
    (addSelfSoldier o.fresh troops m next id).memberCount k j = if k = m ∧ j = id then some (troops.num id) else next.memberCount k j := by
  have count : (next.cell (o.fresh,id)).num = troops.num id := by
    obtain ⟨soldier,found⟩ := Table.lookup_of_mem sent
    rw [entering.cells (entering.unheld joining matched missing),joining.cell found,Troops.num,Table.amount_some found]
  have cell : (addSelfSoldier o.fresh troops m next id).cell = next.cell := by
    rw [enterSelf_rest missing]
  unfold memberCount
  rw [enterSelf_refs missing,cell]
  split
  · rw [Option.map_some,count]
  · rfl

theorem enterSelf_entering (joining : Joining troops o now) (matched : Matched o) (entering : Entering troops m o now next)
    (missing : next.memberRef m id = none) : Entering troops m o now (addSelfSoldier o.fresh troops m next id) := by
  have soldiers : (addSelfSoldier o.fresh troops m next id).soldiers = next.soldiers := by
    rw [enterSelf_rest missing]
  have unheld := entering.unheld joining matched missing
  refine ⟨⟨?_,?_,?_⟩,?_,?_,?_⟩
  · intro i j ref left right
    rw [soldiers] at left right
    exact entering.unshared.soldiers left right
  · intro k n i j ref left right
    rcases enterSelf_ref missing left with ⟨rfl,rfl,rfl⟩ | before
    · rcases enterSelf_ref missing right with ⟨rfl,rfl,_⟩ | other
      · exact ⟨rfl,rfl⟩
      · exact absurd other (unheld _ _)
    · rcases enterSelf_ref missing right with ⟨rfl,rfl,rfl⟩ | other
      · exact absurd before (unheld _ _)
      · exact entering.unshared.members before other
  · intro i k j ref left right
    rw [soldiers] at left
    rcases enterSelf_ref missing right with ⟨rfl,rfl,rfl⟩ | right
    · have old : now.soldiers.lookup i = some (o.fresh,j) := by
        rw [entering.rest] at left
        exact left
      exact Nat.lt_irrefl _ (joining.known old)
    · exact entering.unshared.apart left right
  · rw [enterSelf_rest missing,entering.rest]
  · intro k j ref found
    rcases enterSelf_ref missing found with ⟨rfl,rfl,rfl⟩ | found
    · exact .inl ⟨rfl,rfl⟩
    · exact entering.held found
  · intro place free
    rw [enterSelf_rest missing]
    apply entering.cells
    intro k j found
    apply free k j
    rw [enterSelf_refs missing,if_neg]
    · exact found
    · rintro ⟨rfl,rfl⟩
      cases missing.symm.trans found

end entry

theorem enterSelf_one (joining : Joining troops o now) (matched : Matched o) (sent : id ∈ troops.table)
    (entering : Entering troops m o now next) (missing : next.memberRef m id = none) :
    Entering troops m o now (addSelfSoldier o.fresh troops m next id) ∧
      (∀ j, j ≠ id → Agree j next (addSelfSoldier o.fresh troops m next id)) ∧
      Spends id [m] next (-troops.num id) (addSelfSoldier o.fresh troops m next id) := by
  have counts := enterSelf_counts joining matched sent entering missing
  refine ⟨enterSelf_entering joining matched entering missing,?_,?_,?_,?_⟩
  · intro j other k
    have apart : ¬ (k = m ∧ j = id) := fun both => other both.2
    refine ⟨by rw [counts,if_neg apart],by rw [enterSelf_refs missing,if_neg apart],?_⟩
    rw [enterSelf_rest missing]
    rfl
  · have before : next.memberNum m id = 0 := by
      rw [memberNum,memberCount,missing]
      rfl
    have after : (addSelfSoldier o.fresh troops m next id).memberNum m id = troops.num id := by
      rw [memberNum,counts,if_pos ⟨rfl,rfl⟩]
      rfl
    simp only [List.map_cons,List.map_nil,List.sum_cons,List.sum_nil,before,after]
    omega
  · intro k listed
    rw [List.mem_singleton.mp listed,memberNum,counts,if_pos ⟨rfl,rfl⟩]
    exact troops.num_nonneg id
  · intro k unlisted
    rw [counts,if_neg (fun both => unlisted (List.mem_singleton.mpr both.1))]

theorem addSelfSoldier_one (joining : Joining troops o now) (matched : Matched o) (sent : id ∈ troops.table)
    (entering : Entering troops m o now next) (agree : Agree id now next) :
    Entering troops m o now (addSelfSoldier o.fresh troops m next id) ∧
      (∀ j, j ≠ id → Agree j next (addSelfSoldier o.fresh troops m next id)) ∧
      Spends id [m] next (-troops.num id) (addSelfSoldier o.fresh troops m next id) := by
  cases held : next.memberRef m id with
  | some ref =>
    have raised : addSelfSoldier o.fresh troops m next id = next.setNum ref ((next.cell ref).num+troops.num id) := by
      simp only [addSelfSoldier,held]
    rw [raised]
    exact raiseSelf_one joining matched entering agree held
  | none => exact enterSelf_one joining matched sent entering held

theorem Joining.enter (joining : Joining troops o now) (even : Even o) (order : Order SoldierId) (m : Member) :
    Even ((order.visit troops.table.keys).foldl (addSelfSoldier o.fresh troops m) now) := by
  have each := order.nodup_visit (AList.keys_nodup troops.table)
  have listed : ∀ id, id ∈ order.visit troops.table.keys ↔ id ∈ troops.table :=
    fun id => order.mem_visit.trans AList.mem_keys.symm
  have start : Entering troops m o now now := ⟨joining.unshared,rfl,fun found => .inr found,fun _ => rfl⟩
  obtain ⟨entered,others,final⟩ := foldKinds_spends each (fun next id visited (entering : Entering troops m o now next) agree =>
    addSelfSoldier_one joining even.toMatched ((listed id).mp visited) entering agree) start (fun _ _ _ => ⟨rfl,rfl,rfl⟩)
  generalize (order.visit troops.table.keys).foldl (addSelfSoldier o.fresh troops m) now = p at entered others final ⊢
  refine joining.finish (m:=m) even (by rw [final.rest]; rfl) (by rw [final.rest]) (by rw [final.rest]) final.num (by rw [final.rest]) final.held ?_
  intro id
  by_cases sent : id ∈ troops.table
  · exact entered id ((listed id).mpr sent)
  · rw [troops.num_missing sent]
    have nonneg : ∀ k ∈ [m], 0 ≤ now.memberNum k id := by
      intro k _
      rw [memberNum_congr (joining.members k id)]
      exact even.members k id
    exact (Spends.nothing nonneg).congr (fun _ => rfl) (fun k => (others id (fun visited => sent ((listed id).mp visited)) k).1)

-- A kind new to the object would be held once by soldiers and once by the member, and
-- an occupied slot would be overwritten.
def Joinable (troops : Troops) (m : Member) (o : BattleObject) : Prop :=
  o.exitBattleFlag = true ∨ (recordsAdd o.objectType = true ∧ (∀ id ∈ troops.table, id ∈ o.soldiers) ∧
    if m.2 = 0 then m ∈ o.rallySoldiers else ∀ id, o.memberNum m id = 0)

theorem addSoldierOnBattle_even (even : Even o) (joinable : Joinable troops m o) :
    Even (addSoldierOnBattle order troops m o) := by
  unfold addSoldierOnBattle
  split
  · exact even
  · rename_i staying
    obtain ⟨records,present,place⟩ := joinable.resolve_left staying
    have joining := addSoldiers_joining even.toMatched order present
    dsimp only
    generalize (order.visit troops.table.keys).foldl (addSoldier o.fresh troops) (receive o troops) = now at joining ⊢
    rw [if_pos (joining.objectType ▸ records)]
    split
    · rename_i own
      rw [if_pos own,← joining.rallySoldiers] at place
      split
      · rename_i missing
        exact absurd place (AList.lookup_eq_none.mp missing)
      · exact joining.enter even order m
    · rename_i other
      rw [if_neg other] at place
      exact joining.slot even place

end Receive

section Leave
variable {troops : Troops} {now : BattleObject}

theorem Matched.memberNum_le (matched : Matched o) (m : Member) (id : SoldierId) : o.memberNum m id ≤ o.num id := by
  rw [← matched.total]
  by_cases held : m ∈ o.rallySoldiers
  · apply List.single_le_sum
    · intro n listed
      obtain ⟨k,_,rfl⟩ := List.mem_map.mp listed
      exact matched.members k id
    · exact List.mem_map.mpr ⟨m,AList.mem_keys.mp held,rfl⟩
  · rw [memberNum_absent held,matched.total]
    exact matched.num id

-- The aggregate has let the troops go; the members have not.
structure Leaving (troops : Troops) (o now : BattleObject) : Prop where
  frame : SoldiersOnly o now
  unshared : Unshared now
  soldierHurt : now.soldierHurt = o.soldierHurt
  num : ∀ id, now.num id = o.num id-troops.num id
  total : ∀ id, now.membersTotal id = o.num id
  members : ∀ m id, now.memberCount m id = o.memberCount m id

theorem subSoldiers_leaving (matched : Matched o) (order : Order SoldierId) (enough : ∀ id, troops.num id ≤ o.num id) :
    Leaving troops o ((order.visit troops.table.keys).foldl (subSoldier troops) o) := by
  have each := order.nodup_visit (AList.keys_nodup troops.table)
  have listed : ∀ id, id ∈ order.visit troops.table.keys ↔ id ∈ troops.table :=
    fun id => order.mem_visit.trans AList.mem_keys.symm
  obtain ⟨frame,hurts,counts,others⟩ := foldSoldiers o each (fun now id _ unshared kept =>
      subSoldier_one troops unshared (kept.2 ▸ enough id) (troops.num_nonneg id))
    matched.unshared (fun _ _ => ⟨rfl,rfl⟩)
  generalize (order.visit troops.table.keys).foldl (subSoldier troops) o = now at frame hurts counts others ⊢
  refine ⟨frame,frame.unshared matched.unshared,hurts,?_,?_,frame.memberCount matched.unshared⟩
  · intro id
    by_cases sent : id ∈ troops.table
    · rw [counts id ((listed id).mpr sent)]
      omega
    · rw [(others id (fun visited => sent ((listed id).mp visited))).2,troops.num_missing sent,Int.sub_zero]
  · intro id
    rw [← matched.total,BattleObject.membersTotal,BattleObject.membersTotal,frame.rallySoldiers]
    exact congrArg List.sum (List.map_congr_left (fun m _ => memberNum_congr (frame.memberCount matched.unshared m id)))

-- The members have let the same troops go.
theorem Leaving.finish (leaving : Leaving troops o now) (even : Even o) (detailed : p.detailed = now.detailed)
    (soldierHurt : p.soldierHurt = now.soldierHurt)
    (fresh : p.fresh = now.fresh) (soldiers : ∀ {id ref}, p.soldiers.lookup id = some ref → now.soldiers.lookup id = some ref)
    (members : ∀ {k id ref}, p.memberRef k id = some ref → now.memberRef k id = some ref)
    (num : ∀ id, p.membersTotal id = o.num id-troops.num id → p.membersTotal id = p.num id)
    (spends : ∀ id, Spends id [m] now (troops.num id) p) : Even p := by
  have nonneg : ∀ id k, 0 ≤ now.memberNum k id := fun id k => memberNum_congr (leaving.members k id) ▸ even.members k id
  refine ⟨⟨detailed.trans (leaving.frame.detailed.trans even.detailed),leaving.unshared.shrink soldiers members,?_,?_,?_,?_⟩,?_⟩
  · intro id ref found
    rw [fresh,leaving.frame.fresh]
    exact even.known (leaving.frame.refs (soldiers found))
  · intro k id ref found
    rw [fresh,leaving.frame.fresh]
    exact even.knownMember (leaving.frame.memberRef ▸ members found)
  · intro id
    apply num
    rw [(spends id).membersTotal (List.nodup_singleton m),leaving.total]
  · exact fun k id => (spends id).members_nonneg (nonneg id) k
  · intro id
    rw [BattleObject.hurt,soldierHurt,leaving.soldierHurt]
    exact even.settled id

theorem memberRef_eraseSlot (table : o.rallySoldiers.lookup m = some own) (id : SoldierId) (k : Member) (j : SoldierId) :
    (o.setSlot m (own.erase id)).memberRef k j = if k = m ∧ j = id then none else o.memberRef k j := by
  rw [memberRef_setSlot]
  by_cases member : k = m
  · subst member
    have found : o.memberRef k j = own.lookup j := by rw [memberRef,table]; rfl
    by_cases kind : j = id
    · subst kind; simp
    · rw [if_pos rfl,if_neg (fun both => kind both.2),AList.lookup_erase_ne kind,found]
  · rw [if_neg member,if_neg (fun both => member both.1)]

theorem eraseSlot_kindOnly (table : o.rallySoldiers.lookup m = some own) (id : SoldierId) :
    KindOnly id o (o.setSlot m (own.erase id)) where
  rest := rfl
  refs other := by rw [memberRef_eraseSlot table,if_neg (fun both => other both.2)]
  kind {k ref} found := by
    rw [memberRef_eraseSlot table] at found
    split at found
    · cases found
    · exact found
  hurts _ := rfl
  cells _ := rfl

-- The own slot keeps its table when the last kind goes.
theorem leaveSelf_counts (troops : Troops) (unshared : Unshared o) (table : o.rallySoldiers.lookup m = Option.some own)
    (found : own.lookup id = Option.some ref) : KindOnly id o (subSelfSoldier troops m o id) ∧
      ∀ k j, (subSelfSoldier troops m o id).memberCount k j =
        if k = m ∧ j = id then (if (o.cell ref).num-troops.num id ≤ 0 then Option.none else Option.some ((o.cell ref).num-troops.num id))
        else o.memberCount k j := by
  have held : o.memberRef m id = Option.some ref := by
    rw [memberRef,table]
    exact found
  have frame := setNum_kindOnly held ((o.cell ref).num-troops.num id)
  have counts := memberCount_setNum unshared held ((o.cell ref).num-troops.num id)
  by_cases gone : (o.cell ref).num-troops.num id ≤ 0
  · have written : subSelfSoldier troops m o id =
        (o.setNum ref ((o.cell ref).num-troops.num id)).setSlot m (own.erase id) := by
      simp only [subSelfSoldier,table,found,cell_setNum,if_pos gone]
    have kept : (o.setNum ref ((o.cell ref).num-troops.num id)).rallySoldiers.lookup m = Option.some own := table
    rw [written,if_pos gone]
    refine ⟨frame.trans (eraseSlot_kindOnly kept id),fun k j => ?_⟩
    have erased := counts k j
    unfold memberCount at erased ⊢
    rw [memberRef_eraseSlot kept]
    split
    · rfl
    · rename_i apart
      rw [if_neg apart] at erased
      exact erased
  · have written : subSelfSoldier troops m o id = o.setNum ref ((o.cell ref).num-troops.num id) := by
      simp only [subSelfSoldier,table,found,cell_setNum,if_neg gone]
    rw [written,if_neg gone]
    exact ⟨frame,counts⟩

theorem subSelfSoldier_one (troops : Troops) (unshared : Unshared o) (enough : troops.num id ≤ o.memberNum m id)
    (nonneg : ∀ k, 0 ≤ o.memberNum k id) : KindOnly id o (subSelfSoldier troops m o id) ∧
      Spends id [m] o (troops.num id) (subSelfSoldier troops m o id) := by
  have some := troops.num_nonneg id
  have idle : o.memberRef m id = none → subSelfSoldier troops m o id = o →
      KindOnly id o (subSelfSoldier troops m o id) ∧ Spends id [m] o (troops.num id) (subSelfSoldier troops m o id) := by
    intro missing same
    have nothing : o.memberNum m id = 0 := by
      rw [memberNum,memberCount,missing]
      rfl
    have none : troops.num id = 0 := by omega
    rw [same,none]
    exact ⟨.refl _ _,.nothing (fun k _ => nonneg k)⟩
  cases table : o.rallySoldiers.lookup m with
  | none => exact idle (by rw [memberRef,table]; rfl) (by simp only [subSelfSoldier,table])
  | some own =>
    cases found : own.lookup id with
    | none => exact idle (by rw [memberRef,table]; exact found) (by simp only [subSelfSoldier,table,found])
    | some ref =>
      have had : o.memberNum m id = (o.cell ref).num := memberNum_of_ref (by rw [memberRef,table]; exact found)
      obtain ⟨kinds,counts⟩ := leaveSelf_counts troops unshared table found
      have own : (subSelfSoldier troops m o id).memberNum m id = o.memberNum m id-troops.num id := by
        rw [memberNum,counts,if_pos ⟨rfl,rfl⟩]
        split
        · change (0 : Int) = _
          omega
        · change (o.cell ref).num-troops.num id = _
          omega
      refine ⟨kinds,?_,?_,?_⟩
      · simp only [List.map_cons,List.map_nil,List.sum_cons,List.sum_nil,own]
        omega
      · intro k listed
        rw [List.mem_singleton.mp listed,own]
        omega
      · intro k unlisted
        rw [counts,if_neg (fun both => unlisted (List.mem_singleton.mpr both.1))]

theorem Leaving.self (leaving : Leaving troops o now) (even : Even o) (order : Order SoldierId)
    (enough : ∀ id, troops.num id ≤ o.memberNum m id) :
    Even ((order.visit troops.table.keys).foldl (subSelfSoldier troops m) now) := by
  have each := order.nodup_visit (AList.keys_nodup troops.table)
  have listed : ∀ id, id ∈ order.visit troops.table.keys ↔ id ∈ troops.table :=
    fun id => order.mem_visit.trans AList.mem_keys.symm
  have same : ∀ k id, now.memberNum k id = o.memberNum k id := fun k id => memberNum_congr (leaving.members k id)
  have one : ∀ next, ∀ id ∈ order.visit troops.table.keys, MembersOnly now next → Agree id now next →
      MembersOnly now (subSelfSoldier troops m next id) ∧
      (∀ j, j ≠ id → Agree j next (subSelfSoldier troops m next id)) ∧
      Spends id [m] next (troops.num id) (subSelfSoldier troops m next id) := by
    intro next id _ frame agree
    have counts : ∀ k, next.memberNum k id = o.memberNum k id := fun k => (memberNum_congr (agree k).1).trans (same k id)
    have unshared := frame.unshared leaving.unshared
    obtain ⟨kinds,spends⟩ := subSelfSoldier_one troops unshared (counts m ▸ enough id) (fun k => counts k ▸ even.members k id)
    exact ⟨frame.trans kinds.membersOnly,fun j other => kinds.agree unshared other,spends⟩
  obtain ⟨left,others,frame⟩ := foldKinds_spends each one (.refl now) (fun _ _ _ => ⟨rfl,rfl,rfl⟩)
  generalize (order.visit troops.table.keys).foldl (subSelfSoldier troops m) now = p at left others frame ⊢
  refine leaving.finish (m:=m) even frame.detailed frame.soldierHurt (by rw [frame.rest]) (fun found => frame.soldiers ▸ found) frame.refs ?_ ?_
  · intro id total
    rw [total,frame.num leaving.unshared,leaving.num]
  · intro id
    by_cases sent : id ∈ troops.table
    · exact left id ((listed id).mpr sent)
    · rw [troops.num_missing sent]
      have nonneg : ∀ k ∈ [m], 0 ≤ now.memberNum k id := fun k _ => same k id ▸ even.members k id
      exact (Spends.nothing nonneg).congr (fun _ => rfl) (fun k => (others id (fun visited => sent ((listed id).mp visited)) k).1)

theorem memberRef_leaveSlot (o : BattleObject) (m k : Member) (id : SoldierId) :
    (leaveSlot m o).memberRef k id = if k = m then none else o.memberRef k id := by
  unfold memberRef leaveSlot
  by_cases same : k = m
  · subst same
    simp
  · simp [same,AList.lookup_erase_ne same]

theorem Leaving.slot (leaving : Leaving troops o now) (even : Even o) (whole : ∀ id, troops.num id = o.memberNum m id) :
    Even (leaveSlot m now) := by
  refine leaving.finish (m:=m) even rfl rfl rfl ?_ ?_ ?_ ?_
  · intro id ref found
    change (if _ then (∅ : Table SoldierId Ref) else now.soldiers).lookup id = some ref at found
    split at found
    · rw [AList.lookup_empty] at found
      cases found
    · exact found
  · intro k id ref found
    rw [memberRef_leaveSlot] at found
    split at found
    · cases found
    · exact found
  · intro id total
    by_cases empty : (now.rallySoldiers.erase m).keys.isEmpty
    · have none : (leaveSlot m now).soldiers.lookup id = none := by
        simp only [leaveSlot,if_pos empty]
        exact AList.lookup_empty id
      rw [num_missing none,membersTotal]
      change ((now.rallySoldiers.erase m).keys.map _).sum = 0
      rw [List.isEmpty_iff.mp empty]
      rfl
    · have same : (leaveSlot m now).num id = now.num id := by
        simp only [leaveSlot,if_neg empty]
        rfl
      rw [total,same,leaving.num]
  · intro id
    have before : now.memberNum m id = troops.num id := (memberNum_congr (leaving.members m id)).trans (whole id).symm
    have after : (leaveSlot m now).memberNum m id = 0 := by
      rw [memberNum,memberCount,memberRef_leaveSlot,if_pos rfl]
      rfl
    refine ⟨?_,?_,?_⟩
    · simp only [List.map_cons,List.map_nil,List.sum_cons,List.sum_nil,before,after]
      omega
    · intro k listed
      rw [List.mem_singleton.mp listed,after]
    · intro k unlisted
      unfold memberCount
      rw [memberRef_leaveSlot,if_neg (fun same => unlisted (List.mem_singleton.mpr same))]
      rfl

def Leavable (troops : Troops) (m : Member) (o : BattleObject) : Prop :=
  o.exitBattleFlag = true ∨ (recordsSub o.objectType = true ∧
    if m.2 = 0 then ∀ id, troops.num id ≤ o.memberNum m id else ∀ id, troops.num id = o.memberNum m id)

theorem subSoldierOnBattle_even (even : Even o) (leavable : Leavable troops m o) :
    Even (subSoldierOnBattle order troops m o) := by
  unfold subSoldierOnBattle
  split
  · exact even
  · rename_i staying
    obtain ⟨records,amounts⟩ := leavable.resolve_left staying
    have enough : ∀ id, troops.num id ≤ o.memberNum m id := by
      intro id
      split at amounts
      · exact amounts id
      · exact (amounts id).le
    have leaving := subSoldiers_leaving even.toMatched order (fun id => (enough id).trans (even.memberNum_le m id))
    dsimp only
    generalize (order.visit troops.table.keys).foldl (subSoldier troops) o = now at leaving ⊢
    rw [if_pos (leaving.frame.objectType ▸ records)]
    split
    · exact leaving.self even order enough
    · rename_i other
      rw [if_neg other] at amounts
      split
      · rename_i missing
        have none : ∀ id, troops.num id = 0 := by
          intro id
          rw [amounts id]
          apply memberNum_absent
          rw [← leaving.frame.rallySoldiers]
          exact AList.lookup_eq_none.mp missing
        refine leaving.finish (m:=m) even rfl rfl rfl (fun found => found) (fun found => found) ?_ ?_
        · intro id total
          rw [total,leaving.num]
        · intro id
          rw [none id]
          exact .nothing (fun k _ => memberNum_congr (leaving.members k id) ▸ even.members k id)
      · exact leaving.slot even amounts

end Leave

inductive RallyCall where
  | hurt (turnHurt : Nat) (call : HurtCall)
  | heal (call : HealCall)
  | add (order : Order SoldierId) (troops : Troops) (m : Member)
  | sub (order : Order SoldierId) (troops : Troops) (m : Member)

def RallyCall.apply (share : Share) (config : BattleConfig) : RallyCall → BattleObject → BattleObject
  | .hurt turnHurt call,o => cacleObjectHurtDie share config call {o with turnHurt:=turnHurt}
  | .heal call,o => healArmy share config call o
  | .add order troops m,o => addSoldierOnBattle order troops m o
  | .sub order troops m,o => subSoldierOnBattle order troops m o

def RallyActs (share : Share) (config : BattleConfig) (o : BattleObject) (call : RallyCall) (next : BattleObject) : Prop :=
  next = call.apply share config o

def Orderly (share : Share) (config : BattleConfig) (o : BattleObject) : RallyCall → Prop
  | .hurt _ _ => True
  | .heal call => ∀ id, Splits share o id (healFor share config call o id)
  | .add _ troops m => Joinable troops m o
  | .sub _ troops m => Leavable troops m o

theorem rallyActs_even (even : Even o) (acts : Guarded (RallyActs share config) (Orderly share config) o call p) : Even p := by
  obtain ⟨rfl,orderly⟩ := acts
  cases call with
  | hurt turnHurt call =>
    have start : Even {o with turnHurt:=(turnHurt : Int)} := ⟨even.toMatched.of_same ⟨rfl,rfl,rfl,rfl,rfl⟩,even.settled⟩
    exact cacleObjectHurtDie_even start call
  | heal call => exact healArmy_even even orderly
  | add order troops m => exact addSoldierOnBattle_even even orderly
  | sub order troops m => exact subSoldierOnBattle_even even orderly

theorem members_add_up (even : Even o) (path : Runs (Guarded (RallyActs share config) (Orderly share config)) o calls p)
    (id : SoldierId) : p.membersTotal id = p.num id ∧ ∀ m, 0 ≤ p.memberNum m id := by
  have kept : Even p := path.invariant (fun _ _ _ even acts => rallyActs_even even acts) even
  exact ⟨kept.total id,fun m => kept.members m id⟩

section Duo

-- Two armies of ten soldiers each.
def duo : BattleObject :=
  {army (AList.insert 1 (0,1) ∅) (fun ref => if ref.1 = 0 then 20 else 10) with
    isRally:=true, fresh:=3,
    rallySoldiers:=AList.insert (1,1) (AList.insert 1 (1,1) ∅) (AList.insert (2,1) (AList.insert 1 (2,1) ∅) ∅)}

theorem duo_soldier (found : duo.soldiers.lookup id = some ref) : id = 1 ∧ ref = (0,1) := Table.lookup_only found

theorem duo_member (found : duo.memberRef m id = some ref) : id = 1 ∧ ref = m ∧ (m = (1,1) ∨ m = (2,1)) := memberRef_two rfl found

theorem duo_even : Even duo where
  detailed := rfl
  unshared := by
    refine ⟨?_,?_,?_⟩
    · intro i j ref left right
      rw [(duo_soldier left).1,(duo_soldier right).1]
    · intro m k i j ref left right
      obtain ⟨rfl,rfl,_⟩ := duo_member left
      obtain ⟨rfl,same,_⟩ := duo_member right
      exact ⟨same,rfl⟩
    · intro i m j ref left right
      obtain ⟨rfl,rfl⟩ := duo_soldier left
      obtain ⟨_,rfl,one | two⟩ := duo_member right
      · cases one
      · cases two
  known found := by
    obtain ⟨rfl,rfl⟩ := duo_soldier found
    decide
  knownMember found := by
    obtain ⟨rfl,rfl,rfl | rfl⟩ := duo_member found <;> decide
  total id := by
    by_cases same : id = 1
    · subst same
      decide
    · have missing : duo.soldiers.lookup id = none := by
        cases found : duo.soldiers.lookup id with
        | none => rfl
        | some ref => exact absurd (duo_soldier found).1 same
      rw [num_missing missing]
      apply List.sum_eq_zero
      intro n listed
      obtain ⟨m,_,rfl⟩ := List.mem_map.mp listed
      cases found : duo.memberRef m id with
      | none => simp [memberNum,memberCount,found]
      | some ref => exact absurd (duo_member found).1 same
  members m id := by
    cases found : duo.memberRef m id with
    | none => simp [memberNum,memberCount,found]
    | some ref =>
      obtain ⟨rfl,rfl,rfl | rfl⟩ := duo_member found <;> decide
  settled _ := rfl

def scratch : BattleLoss := ⟨0,0,0,0,deadly.death_le,deadly.death_le⟩

-- Each army has one light injury; a heal of one goes to the aggregate alone.
theorem heal_unmatched : Even duo ∧ ∃ p, Runs (RallyActs Share.exact arms) duo [.hurt 3 (strike scratch),.heal (cure 1)] p ∧
    p.num 1 = 18 ∧ p.membersTotal 1 = 17 :=
  ⟨duo_even,_,.more rfl (.more rfl .done),by decide,by decide⟩

def scratched : BattleObject := (RallyCall.hurt 3 (strike scratch)).apply Share.exact arms duo

theorem scratched_splits (id : SoldierId) : Splits Share.exact scratched id (healFor Share.exact arms (cure 2) scratched id) := by
  by_cases same : id = 1
  · subst same
    have whole : ∀ m ∈ scratched.rallySoldierHurt.keys, (scratched.memberRef m 1).isSome ∧
        Share.exact.floor (healFor Share.exact arms (cure 2) scratched 1) (woundedOf scratched 1 m) (woundedTotal scratched 1)*
          woundedTotal scratched 1 = healFor Share.exact arms (cure 2) scratched 1*woundedOf scratched 1 m := by decide
    refine fun _ => ⟨by decide,fun m wounded => whole m ?_⟩
    obtain ⟨hurt,found,_⟩ := woundedOf_pos wounded
    obtain ⟨kinds,table,_⟩ := Option.bind_eq_some_iff.mp found
    exact AList.mem_keys.mp (AList.lookup_isSome.mp (Option.isSome_of_mem table))
  · have only : (healSoldiers Share.exact arms (cure 2) scratched).allHealInfo.keys = [1] := by decide
    have none : healFor Share.exact arms (cure 2) scratched id = 0 := by
      apply Table.amount_none
      rw [AList.lookup_eq_none,AList.mem_keys,only]
      exact fun listed => same (List.mem_singleton.mp listed)
    intro some
    omega

theorem scratched_healed : ((RallyCall.heal (cure 2)).apply Share.exact arms scratched).num 1 = 19 ∧
    ((RallyCall.heal (cure 2)).apply Share.exact arms scratched).membersTotal 1 =
      ((RallyCall.heal (cure 2)).apply Share.exact arms scratched).num 1 ∧
    ∀ m, 0 ≤ ((RallyCall.heal (cure 2)).apply Share.exact arms scratched).memberNum m 1 := by
  have path : Runs (Guarded (RallyActs Share.exact arms) (Orderly Share.exact arms)) duo
      [.hurt 3 (strike scratch),.heal (cure 2)] ((RallyCall.heal (cure 2)).apply Share.exact arms scratched) :=
    .more ⟨rfl,trivial⟩ (.more ⟨rfl,scratched_splits⟩ .done)
  exact ⟨by decide,members_add_up duo_even path 1⟩

end Duo
end OriginGame.Battle
