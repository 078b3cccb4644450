import OriginGame.BattleHeal
import OriginGame.Runs

namespace OriginGame.Battle
open BattleObject

variable {o p : BattleObject} {id : SoldierId} {ref : Ref} {initial : SoldierId → Int}
  {loss : BattleLoss} {share : Share} {config : BattleConfig}

-- Every soldier of the kind is still there or counted once among the losses.
structure Balanced (initial : SoldierId → Int) (o : BattleObject) (id : SoldierId) : Prop where
  total : o.num id+o.hurt Hurt.lost id = initial id
  num : 0 ≤ o.num id
  counted : ∀ {entry}, o.soldierHurt.lookup id = some entry → entry.Counted

structure Steady (initial : SoldierId → Int) (o : BattleObject) : Prop where
  unshared : Unshared o
  positive : ∀ {id ref}, o.soldiers.lookup id = some ref → 0 < (o.cell ref).num
  balanced : ∀ id, Balanced initial o id

theorem Steady.present (steady : Steady initial o) (member : id ∈ o.soldiers) : 0 < o.num id := by
  obtain ⟨ref,found⟩ := Table.lookup_of_mem member
  rw [num_of_cell found]
  exact steady.positive found

theorem Steady.hardHurt (steady : Steady initial o) (id : SoldierId) : 0 ≤ o.hurt Hurt.hardHurt id := by
  cases found : o.soldierHurt.lookup id with
  | none => rw [BattleObject.hurt,Table.amount_none found]
  | some entry =>
    rw [BattleObject.hurt,Table.amount_some found]
    exact ((steady.balanced id).counted found).hardHurt

-- One kind gets a new entry and a new count that together add up as before.
theorem Steady.write (steady : Steady initial o) (unshared : Unshared p)
    (positive : ∀ {id ref}, p.soldiers.lookup id = some ref → 0 < (p.cell ref).num)
    (others : ∀ j, j ≠ id → p.num j = o.num j) (table : p.soldierHurt = o.soldierHurt.insert id entry)
    (counted : entry.Counted) (num : 0 ≤ p.num id) (total : p.num id+entry.lost = o.num id+o.hurt Hurt.lost id) :
    Steady initial p := by
  refine ⟨unshared,positive,?_⟩
  intro j
  have before := steady.balanced j
  by_cases same : j = id
  · subst same
    refine ⟨?_,num,?_⟩
    · rw [BattleObject.hurt,table,Table.amount_insert,total]
      exact before.total
    · intro held found
      rw [table,AList.lookup_insert] at found
      cases Option.some.inj found
      exact counted
  · refine ⟨?_,?_,?_⟩
    · rw [BattleObject.hurt,table,Table.amount_insert_ne _ _ _ same,others j same]
      exact before.total
    · rw [others j same]
      exact before.num
    · intro held found
      rw [table,AList.lookup_insert_ne same] at found
      exact before.counted found

-- The invariant reads four fields only.
theorem Steady.congr (steady : Steady initial o) (soldiers : p.soldiers = o.soldiers) (cell : p.cell = o.cell)
    (rallySoldiers : p.rallySoldiers = o.rallySoldiers) (soldierHurt : p.soldierHurt = o.soldierHurt) :
    Steady initial p := by
  obtain ⟨_,_,_,_,_,_,_,_,_,_,_,_,_,_⟩ := p
  simp only at soldiers cell rallySoldiers soldierHurt
  subst soldiers cell rallySoldiers soldierHurt
  have unshared := steady.unshared
  have balanced := steady.balanced
  exact ⟨⟨unshared.soldiers,unshared.members,unshared.apart⟩,steady.positive,
    fun id => ⟨(balanced id).total,(balanced id).num,(balanced id).counted⟩⟩

theorem Steady.members (steady : Steady initial o) (frame : MembersOnly o p) : Steady initial p where
  unshared := frame.unshared steady.unshared
  positive {id ref} found := by
    have before : o.soldiers.lookup id = some ref := frame.soldiers ▸ found
    rw [frame.cells (fun m i => steady.unshared.apart before)]
    exact steady.positive before
  balanced id := by
    have before := steady.balanced id
    refine ⟨?_,?_,?_⟩ <;> simp only [frame.num steady.unshared,BattleObject.hurt,frame.soldierHurt]
    · exact before.total
    · exact before.num
    · exact before.counted

-- The entry a hit kind starts from.
theorem Steady.entry (steady : Steady initial o) (id : SoldierId) (soldier : Soldier) :
    ((o.soldierHurt.lookup id).getD (Hurt.none soldier)).Counted ∧
      ((o.soldierHurt.lookup id).getD (Hurt.none soldier)).lost = o.hurt Hurt.lost id := by
  cases found : o.soldierHurt.lookup id with
  | none => exact ⟨Hurt.counted_none soldier,(Table.amount_none found _).symm⟩
  | some entry => exact ⟨(steady.balanced id).counted found,(Table.amount_some found _).symm⟩

section HurtKind
variable {attackIndex : ObjectIndex} {extra : Bool} {hurt : Int}

theorem hurtKind_soldiers : (hurtKind loss attackIndex extra o id ref hurt).soldiers =
    if (o.cell ref).num-(casualties loss extra (o.cell ref).num hurt).hardHurt-(casualties loss extra (o.cell ref).num hurt).die-
      (casualties loss extra (o.cell ref).num hurt).minor ≤ 0 then o.soldiers.erase id else o.soldiers := rfl

theorem hurtKind_cell : ((hurtKind loss attackIndex extra o id ref hurt).cell ref).num =
    (o.cell ref).num-(casualties loss extra (o.cell ref).num hurt).hardHurt-(casualties loss extra (o.cell ref).num hurt).die-
      (casualties loss extra (o.cell ref).num hurt).minor := cell_setNum _ _ _

theorem hurtKind_num (found : o.soldiers.lookup id = some ref) :
    (hurtKind loss attackIndex extra o id ref hurt).num id = o.num id-(casualties loss extra (o.num id) hurt).hardHurt-
      (casualties loss extra (o.num id) hurt).die-(casualties loss extra (o.num id) hurt).minor := by
  have left : 0 ≤ o.num id-(casualties loss extra (o.num id) hurt).hardHurt-(casualties loss extra (o.num id) hurt).die-
    (casualties loss extra (o.num id) hurt).minor := casualties_left
  rw [num_of_cell found] at left ⊢
  by_cases gone : (o.cell ref).num-(casualties loss extra (o.cell ref).num hurt).hardHurt-
      (casualties loss extra (o.cell ref).num hurt).die-(casualties loss extra (o.cell ref).num hurt).minor ≤ 0
  · have missing : (hurtKind loss attackIndex extra o id ref hurt).soldiers.lookup id = none := by
      rw [hurtKind_soldiers,if_pos gone]; simp
    rw [num_missing missing]
    omega
  · have kept : (hurtKind loss attackIndex extra o id ref hurt).soldiers.lookup id = some ref := by
      rw [hurtKind_soldiers,if_neg gone]; exact found
    rw [num_of_cell kept,hurtKind_cell]

theorem hurtKind_num_ne (unshared : Unshared o) (found : o.soldiers.lookup id = some ref) (other : j ≠ id) :
    (hurtKind loss attackIndex extra o id ref hurt).num j = o.num j := by
  have same : (hurtKind loss attackIndex extra o id ref hurt).soldiers.lookup j = o.soldiers.lookup j := by
    rw [hurtKind_soldiers]
    split
    · exact AList.lookup_erase_ne other
    · rfl
  cases held : o.soldiers.lookup j with
  | none => rw [num_missing held,num_missing (same.trans held)]
  | some slot =>
    have apart : slot ≠ ref := by
      rintro rfl
      exact other (unshared.soldiers held found)
    rw [num_of_cell held,num_of_cell (same.trans held)]
    exact congrArg Soldier.num (cell_setNum_ne o _ apart)

theorem hurtKind_positive (steady : Steady initial o) (found : o.soldiers.lookup id = some ref)
    (held : (hurtKind loss attackIndex extra o id ref hurt).soldiers.lookup j = some slot) :
    0 < ((hurtKind loss attackIndex extra o id ref hurt).cell slot).num := by
  have before := hurtKind_lookup held
  by_cases same : j = id
  · subst same
    cases Option.some.inj (before.symm.trans found)
    rw [hurtKind_cell]
    rw [hurtKind_soldiers] at held
    split at held
    · simp at held
    · omega
  · have count := steady.positive before
    rw [← num_of_cell before,← hurtKind_num_ne steady.unshared found same] at count
    rwa [num_of_cell held] at count

theorem hurtKind_steady (steady : Steady initial o) (found : o.soldiers.lookup id = some ref) (nonneg : 0 ≤ hurt)
    (spared : loss.severe ≤ loss.deathProportion) (enough : seriousInjuries loss extra hurt ≤ o.num id) :
    Steady initial (hurtKind loss attackIndex extra o id ref hurt) := by
  have lost := casualties_nonneg nonneg spared enough
  have left : 0 ≤ o.num id-(casualties loss extra (o.num id) hurt).hardHurt-(casualties loss extra (o.num id) hurt).die-
    (casualties loss extra (o.num id) hurt).minor := casualties_left
  obtain ⟨counted,before⟩ := steady.entry id (o.cell ref)
  refine steady.write ((hurtKind_soldiersOnly found).unshared steady.unshared) (hurtKind_positive steady found)
    (fun j other => hurtKind_num_ne steady.unshared found other) rfl ?_ ?_ ?_
  · rw [num_of_cell found] at lost
    obtain ⟨hardHurt,die,minor⟩ := lost
    exact ⟨Int.add_nonneg counted.hardHurt hardHurt,Int.add_nonneg counted.die die,Int.add_nonneg counted.minor minor,
      counted.allHardHurt,counted.allDie,counted.allMinor⟩
  · rw [hurtKind_num found]
    exact left
  · rw [hurtKind_num found,← before,num_of_cell found]
    simp only [Hurt.lost,Hurt.hard,Hurt.dead,Hurt.light]
    omega

-- Each kind is visited once, so the bound taken before the loop still holds at its turn.
theorem hurtKinds_steady (steady : Steady initial o) (spared : loss.severe ≤ loss.deathProportion)
    {kinds : List SoldierId} (distinct : kinds.Nodup)
    (bound : ∀ id ∈ kinds, ∀ hurt, hurts.lookup id = some hurt →
      0 ≤ hurt ∧ ∀ index, seriousInjuries loss (decide (chosen = some index)) hurt ≤ o.num id) :
    Steady initial (hurtKinds loss attackIndex chosen hurts kinds index o) := by
  induction kinds generalizing o index with
  | nil => exact steady
  | cons id rest ih =>
    obtain ⟨fresh,distinct⟩ := List.nodup_cons.mp distinct
    have tail := fun other listed => bound other (List.mem_cons_of_mem id listed)
    unfold hurtKinds
    split
    · rename_i ref hurt found assigned
      obtain ⟨nonneg,enough⟩ := bound id List.mem_cons_self hurt assigned
      refine ih (hurtKind_steady steady found nonneg spared (enough _)) distinct ?_
      intro other listed value given
      have apart : other ≠ id := fun same => fresh (same ▸ listed)
      rw [hurtKind_num_ne steady.unshared found apart]
      exact tail other listed value given
    · exact ih steady distinct tail

end HurtKind

section Hospital
variable {attackIndex : ObjectIndex}

-- A reported death moves soldiers from the serious injuries to the dead.
theorem hospitalDie_steady (steady : Steady initial o) (room : (death.2 : Int) ≤ o.hurt Hurt.hardHurt death.1) :
    Steady initial (hospitalDie attackIndex o death) := by
  unfold hospitalDie
  split
  · exact steady
  · rename_i entry found
    have counted := (steady.balanced death.1).counted found
    have whole : ¬ entry.hardHurt-(death.2 : Int) < 0 := by
      rw [BattleObject.hurt,Table.amount_some found] at room
      omega
    dsimp only
    rw [if_neg whole]
    refine steady.write (steady.unshared.shrink (fun held => held) (fun held => held)) steady.positive
      (fun j other => rfl) rfl ?_ (steady.balanced death.1).num ?_
    · exact ⟨Int.not_lt.mp whole,Int.add_nonneg counted.die (Int.natCast_nonneg _),counted.minor,
        counted.allHardHurt,counted.allDie,counted.allMinor⟩
    · rw [BattleObject.hurt,Table.amount_some found]
      simp only [Hurt.lost,Hurt.hard,Hurt.dead,Hurt.light]
      change o.num death.1+_ = _
      omega

theorem hospitalDie_hardHurt (attackIndex : ObjectIndex) (id : SoldierId)
    (room : (death.2 : Int) ≤ o.hurt Hurt.hardHurt death.1) :
    o.hurt Hurt.hardHurt id-(if death.1 = id then death.2 else 0) ≤ (hospitalDie attackIndex o death).hurt Hurt.hardHurt id := by
  cases found : o.soldierHurt.lookup death.1 with
  | none =>
    have same : hospitalDie attackIndex o death = o := by simp only [hospitalDie,found]
    rw [same]
    split <;> omega
  | some entry =>
    have held : o.hurt Hurt.hardHurt death.1 = entry.hardHurt := Table.amount_some found _
    simp only [hospitalDie,found]
    change _ ≤ Table.amount (o.soldierHurt.insert _ _) Hurt.hardHurt id
    by_cases same : id = death.1
    · subst same
      rw [Table.amount_insert,held,if_pos rfl]
      dsimp only
      split <;> omega
    · rw [Table.amount_insert_ne _ _ _ same,if_neg (Ne.symm same)]
      simp only [BattleObject.hurt]
      omega

theorem deathsOf_cons (death : SoldierId × Nat) (deaths : List (SoldierId × Nat)) (id : SoldierId) :
    deathsOf (death::deaths) id = (if death.1 = id then death.2 else 0)+deathsOf deaths id := by
  unfold deathsOf
  by_cases same : death.1 = id <;> simp [same]

theorem deathsOf_nonneg (deaths : List (SoldierId × Nat)) (id : SoldierId) : 0 ≤ deathsOf deaths id :=
  Int.natCast_nonneg _

-- Several deaths of one kind may be reported; together they fit its serious injuries.
theorem hospitalDieRecord_steady (steady : Steady initial o) (room : ∀ id, deathsOf deaths id ≤ o.hurt Hurt.hardHurt id) :
    Steady initial (hospitalDieRecord o attackIndex deaths) := by
  unfold hospitalDieRecord
  induction deaths generalizing o with
  | nil => exact steady
  | cons death rest ih =>
    have first : (death.2 : Int) ≤ o.hurt Hurt.hardHurt death.1 := by
      have all := room death.1
      have rest := deathsOf_nonneg rest death.1
      rw [deathsOf_cons,if_pos rfl] at all
      omega
    refine ih (hospitalDie_steady steady first) ?_
    intro id
    have all := room id
    have left := hospitalDie_hardHurt attackIndex id first
    rw [deathsOf_cons] at all
    omega

theorem resetHurtDie_steady (steady : Steady initial o) : Steady initial (resetHurtDie o) where
  unshared := steady.unshared.shrink (fun found => found) (fun found => found)
  positive := steady.positive
  balanced id := by
    have before := steady.balanced id
    refine ⟨?_,before.num,?_⟩
    · change o.num id+Table.amount (Table.mapValues Hurt.reset o.soldierHurt) Hurt.lost id = initial id
      simp only [Table.amount_mapValues,Hurt.lost_reset]
      exact before.total
    · intro entry found
      obtain ⟨old,held,rfl⟩ := Option.map_eq_some_iff.mp ((Table.lookup_mapValues _ _ _).symm.trans found)
      exact (before.counted held).reset

end Hospital

section Hurt
variable {call : HurtCall} {turnHurt hurt : Int}

-- With several kinds left the loop assigns each at most its own soldiers. A
-- last kind is assigned the whole turnHurt, so its serious injuries must still
-- fit. Deaths are drawn from deathProportion less the severe share.
def Survivable (loss : BattleLoss) (turnHurt : Int) (o : BattleObject) : Prop :=
  0 < turnHurt → loss.severe ≤ loss.deathProportion ∧ ∀ id, o.soldiers.keys = [id] →
    seriousInjuries loss (decide (roundDiv (turnHurt*(loss.seriousInjuryProportion+loss.severeInjuredMulti)) 1000 ≤ 0)) turnHurt ≤
      o.num id

theorem single_drawn (only : o.soldiers.keys = [id]) (done : ranHurtIndex loss o (AList.insert id turnHurt ∅) draw = some (some index)) :
    roundDiv (turnHurt*(loss.seriousInjuryProportion+loss.severeInjuredMulti)) 1000 ≤ 0 := by
  have all := ranHurtIndex_some done
  have kept : o.soldiers.keys.filter (· ∈ (AList.insert id turnHurt ∅ : Table SoldierId Int)) = [id] := by
    have member : id ∈ (AList.insert id turnHurt ∅ : Table SoldierId Int) := (AList.mem_insert _).mpr (.inl rfl)
    simp only [only,List.filter_cons,List.filter_nil,member,decide_true,if_true]
  rw [kept,List.map_singleton,List.sum_singleton,Table.amount_insert] at all
  exact all

-- What the loop of cacleObjectHurtDie relies on for every kind it visits.
theorem assigned_bound (steady : Steady initial o) (hit : 0 < o.turnHurt) (survivable : Survivable loss o.turnHurt o)
    (assigned : cacleSoldierHurt share order o = some hurts) (drawn : ranHurtIndex loss o hurts draw = some chosen)
    (found : hurts.lookup id = some hurt) :
    0 ≤ hurt ∧ ∀ index, seriousInjuries loss (decide (chosen = some index)) hurt ≤ o.num id := by
  have present : ∀ id ∈ o.soldiers, 0 ≤ o.num id := fun id member => Int.le_of_lt (steady.present member)
  rcases cacleSoldierHurt_bound present hit assigned with within | ⟨last,member,rfl⟩ | ⟨last,only,rfl⟩
  · obtain ⟨nonneg,room⟩ := within _ _ found
    exact ⟨nonneg,fun index => seriousInjuries_le.trans room⟩
  · obtain ⟨rfl,rfl⟩ := Table.lookup_only found
    exact ⟨by decide,fun index => seriousInjuries_le.trans (steady.present member)⟩
  · obtain ⟨rfl,rfl⟩ := Table.lookup_only found
    refine ⟨Int.le_of_lt hit,fun index => ?_⟩
    refine (seriousInjuries_mono ?_).trans ((survivable hit).2 id only)
    intro extra
    rw [of_decide_eq_true extra] at drawn
    exact decide_eq_true (single_drawn only drawn)

-- Everything after the loop.
theorem settled_steady (steady : Steady initial o) : Steady initial
    (let o := if o.detailed then distributeRallyHurt share config call.hurtOrder call.memberOrder o else o
     let o := hospitalDieRecord o call.attackIndex (call.hospital.reply o.soldierHurt)
     {resetHurtDie o with turnHurt:=0}) := by
  have spread : Steady initial (if o.detailed then distributeRallyHurt share config call.hurtOrder call.memberOrder o else o) := by
    split
    · exact steady.members (distributeRallyHurt_membersOnly share config call.hurtOrder call.memberOrder o)
    · exact steady
  generalize (if o.detailed then distributeRallyHurt share config call.hurtOrder call.memberOrder o else o) = p at spread ⊢
  have reported : Steady initial (hospitalDieRecord p call.attackIndex (call.hospital.reply p.soldierHurt)) := by
    apply hospitalDieRecord_steady spread
    intro id
    have most : deathsOf _ id ≤ max 0 (p.hurt Hurt.hardHurt id) := call.hospital.bounded p.soldierHurt id
    rwa [max_eq_right (spread.hardHurt id)] at most
  exact (resetHurtDie_steady reported).congr rfl rfl rfl rfl

theorem cacleObjectHurtDie_steady (steady : Steady initial o) (survivable : Survivable call.loss o.turnHurt o) :
    Steady initial (cacleObjectHurtDie share config call o) := by
  unfold cacleObjectHurtDie
  split
  · exact steady
  · rename_i hit
    have hit : 0 < o.turnHurt := Int.not_le.mp hit
    split
    · exact steady
    · rename_i hurts assigned
      split
      · exact steady
      · rename_i chosen drawn
        have distinct := call.soldierOrder.nodup_visit (AList.keys_nodup o.soldiers)
        have struck : Steady initial (hurtKinds call.loss call.attackIndex chosen hurts
            (call.soldierOrder.visit o.soldiers.keys) 0 o) :=
          hurtKinds_steady steady (survivable hit).1 distinct
            (fun id _ hurt found => assigned_bound steady hit survivable assigned drawn found)
        exact settled_steady struck

end Hurt

section Heal
variable {state : Healing} {healMinor : Int}

theorem raise_steady (steady : Steady initial o) (nonneg : 0 ≤ healMinor) (held : o.soldiers.lookup id = some ref)
    (found : o.soldierHurt.lookup id = some entry) :
    Steady initial ((afterHeal o id entry healMinor).setNum ref ((o.cell ref).num+healed entry healMinor)) := by
  have counted := (steady.balanced id).counted found
  have given := healed_nonneg counted.allMinor nonneg
  have positive := steady.positive held
  have kept : (afterHeal o id entry healMinor).soldiers.lookup id = some ref := held
  have unshared : Unshared (afterHeal o id entry healMinor) := steady.unshared.shrink (fun kept => kept) (fun kept => kept)
  have raised := num_setNum kept ((o.cell ref).num+healed entry healMinor)
  refine steady.write (unshared.shrink (fun kept => kept) (fun kept => kept)) ?_
    (fun j other => num_setNum_ne unshared kept _ other) rfl (healed_counted counted) ?_ ?_
  · intro j slot other
    by_cases same : slot = ref
    · subst same
      rw [cell_setNum]
      omega
    · rw [cell_setNum_ne _ _ same]
      exact steady.positive other
  · rw [raised]
    omega
  · rw [raised,lost_heal,BattleObject.hurt,Table.amount_some found,num_of_cell held]
    omega

-- Troops come back only to a kind that is still in soldiers.
theorem healKind_steady (steady : Steady initial state.object) (nonneg : 0 ≤ healMinor)
    (present : healMinor = 0 ∨ id ∈ state.object.soldiers) : Steady initial (healKind state id healMinor).object := by
  cases found : state.object.soldierHurt.lookup id with
  | none =>
    have same : healKind state id healMinor = state := by simp only [healKind,found]
    rwa [same]
  | some entry =>
    have counted := (steady.balanced id).counted found
    have given := healed_nonneg counted.allMinor nonneg
    cases held : state.object.soldiers.lookup id with
    | none =>
      have nothing : healed entry healMinor = 0 := by
        rcases present with zero | member
        · have most : healed entry healMinor ≤ healMinor := healed_le.2
          omega
        · rw [← AList.lookup_isSome,held] at member
          cases member
      rw [healKind_absent held found]
      refine steady.write (steady.unshared.shrink (fun kept => kept) (fun kept => kept)) steady.positive
        (fun j other => rfl) rfl (healed_counted counted) (steady.balanced id).num ?_
      rw [lost_heal,nothing,Int.sub_zero,BattleObject.hurt,Table.amount_some found]
      rfl
    | some ref =>
      rw [healKind_present held found]
      exact (raise_steady steady nonneg held found).congr rfl rfl rfl rfl

-- healArmy sheds the light injuries of a removed kind without giving its soldiers back.
def Curable (config : BattleConfig) (heal : Nat) (o : BattleObject) : Prop :=
  heal = 0 ∨ ∀ id ∈ o.soldierHurt, healable config o id = true → id ∈ o.soldiers

theorem healArmy_steady (steady : Steady initial o) (curable : Curable config call.heal o) :
    Steady initial (healArmy share config call o) := by
  have cured : Steady initial (healSoldiers share config call o).object ∧
      (healSoldiers share config call o).object.soldiers = o.soldiers := by
    apply healSoldiers_keeps (fun state => Steady initial state.object ∧ state.object.soldiers = o.soldiers)
    · rintro state id healMinor held able ⟨steady,same⟩ _ nonneg most
      refine ⟨healKind_steady steady nonneg ?_,healKind_soldiers.trans same⟩
      rcases curable with zero | all
      · left; omega
      · right; rw [same]; exact all id held able
    · exact ⟨steady,rfl⟩
  exact cured.1.members (distributeRallyHeal_membersOnly share call.healOrder call.memberOrder _ _)

end Heal

inductive Call where
  | hurt (turnHurt : Nat) (call : HurtCall)
  | reset
  | heal (call : HealCall)

def Call.apply (share : Share) (config : BattleConfig) : Call → BattleObject → BattleObject
  | .hurt turnHurt call,o => cacleObjectHurtDie share config call {o with turnHurt:=turnHurt}
  | .reset,o => resetHurtDie o
  | .heal call,o => healArmy share config call o

def Acts (share : Share) (config : BattleConfig) (o : BattleObject) (call : Call) (next : BattleObject) : Prop :=
  next = call.apply share config o

-- An object as it joins a battle: positive counts and nothing lost yet.
structure Enters (o : BattleObject) : Prop where
  unshared : Unshared o
  positive : ∀ {id ref}, o.soldiers.lookup id = some ref → 0 < (o.cell ref).num
  unhurt : o.soldierHurt = ∅

def Sparing (config : BattleConfig) (o : BattleObject) : Call → Prop
  | .hurt turnHurt call => Survivable call.loss turnHurt o
  | .reset => True
  | .heal call => Curable config call.heal o

theorem Enters.steady (enters : Enters o) : Steady o.num o where
  unshared := enters.unshared
  positive := enters.positive
  balanced id := by
    have missing : o.soldierHurt.lookup id = none := by rw [enters.unhurt,AList.lookup_empty]
    refine ⟨?_,?_,?_⟩
    · rw [BattleObject.hurt,Table.amount_none missing,Int.add_zero]
    · cases found : o.soldiers.lookup id with
      | none => rw [num_missing found]
      | some ref => rw [num_of_cell found]; exact Int.le_of_lt (enters.positive found)
    · intro entry found
      cases missing.symm.trans found

theorem acts_steady (steady : Steady initial o) (acts : Guarded (Acts share config) (Sparing config) o call p) :
    Steady initial p := by
  obtain ⟨rfl,sparing⟩ := acts
  cases call with
  | hurt turnHurt call =>
    have start : Steady initial {o with turnHurt:=(turnHurt : Int)} := steady.congr rfl rfl rfl rfl
    exact cacleObjectHurtDie_steady start sparing
  | reset => exact resetHurtDie_steady steady
  | heal call => exact healArmy_steady steady sparing

theorem troops_conserved (enters : Enters o) (path : Runs (Guarded (Acts share config) (Sparing config)) o calls p)
    (id : SoldierId) : Balanced o.num p id :=
  (path.invariant (fun _ _ _ steady acts => acts_steady steady acts) enters.steady).balanced id

section Overkill

def arms : BattleConfig := ⟨fun _ => some 1,0⟩

def army (soldiers : Table SoldierId Ref) (nums : Ref → Int) : BattleObject where
  objectIndex := 1
  objectType := .army
  isRally := false
  rallyLeader := 1
  exitBattleFlag := false
  attackTargetIndex := 2
  turnHurt := 0
  soldiers := soldiers
  soldierHurt := ∅
  soldierHurtWithObjectIndex := ∅
  rallySoldiers := ∅
  rallySoldierHurt := ∅
  cell := fun ref => ⟨1,1,nums ref⟩
  fresh := 1

def strike (loss : BattleLoss) : HurtCall := ⟨2,loss,1,.stored,.stored,.stored,.silent⟩
def cure (heal : Nat) : HealCall := ⟨heal,.stored,.stored,.stored⟩

def tenLeft : BattleObject := army (AList.insert 1 (0,1) ∅) (fun _ => 10)
def twoKinds : BattleObject := army (AList.insert 1 (0,1) (AList.insert 2 (0,2) ∅)) (fun ref => if ref.2 = 1 then 10 else 20)

theorem held {soldiers : Table SoldierId Ref} (found : soldiers.lookup id = some ref) : id ∈ soldiers.keys :=
  AList.mem_keys.mp (AList.lookup_isSome.mp (Option.isSome_of_mem found))

theorem army_enters {soldiers : Table SoldierId Ref} (positive : ∀ i ∈ soldiers.keys, 0 < (army soldiers nums).num i)
    (distinct : ∀ i ∈ soldiers.keys, ∀ j ∈ soldiers.keys, soldiers.lookup i = soldiers.lookup j → i = j) :
    Enters (army soldiers nums) where
  unshared := by
    refine ⟨?_,?_,?_⟩
    · intro i j ref left right
      exact distinct i (held left) j (held right) (left.trans right.symm)
    · intro m n i j ref found
      simp [army,BattleObject.memberRef] at found
    · intro i m j ref _ found
      simp [army,BattleObject.memberRef] at found
  positive {i ref} found := by
    rw [← num_of_cell found]
    exact positive i (held found)
  unhurt := rfl

def deadly : BattleLoss := ⟨1000,0,0,0,by decide,by decide⟩
def light : BattleLoss := ⟨500,500,0,0,by decide,by decide⟩

-- Ten soldiers of the last kind take a hundred points: a hundred serious injuries
-- and minus ninety light ones.
theorem overkill_unbalanced : Enters tenLeft ∧ ∃ p, Runs (Acts Share.exact arms) tenLeft [.hurt 100 (strike deadly)] p ∧
    ¬ Balanced tenLeft.num p 1 := by
  refine ⟨army_enters (by decide) (by decide),_,.more rfl .done,?_⟩
  intro balanced
  have counted : Hurt.Counted ⟨1,1,0,0,0,100,0,-90⟩ := balanced.counted (by decide)
  exact absurd counted.allMinor (by decide)

-- A heavy turn on two kinds, then a heal.
theorem twoKinds_conserved : twoKinds.num 1 = 10 ∧ Balanced twoKinds.num
    ((Call.heal (cure 3)).apply Share.exact arms ((Call.hurt 20 (strike light)).apply Share.exact arms twoKinds)) 1 := by
  refine ⟨rfl,troops_conserved (army_enters (by decide) (by decide)) (.more ⟨rfl,?_⟩ (.more ⟨rfl,?_⟩ .done)) 1⟩
  · intro _
    refine ⟨by decide,?_⟩
    intro id only
    cases only
  · have kept : ∀ id ∈ ((Call.hurt 20 (strike light)).apply Share.exact arms twoKinds).soldierHurt.keys,
        id ∈ ((Call.hurt 20 (strike light)).apply Share.exact arms twoKinds).soldiers := by decide
    exact .inr (fun id member _ => kept id (AList.mem_keys.mp member))

end Overkill
end OriginGame.Battle
