import OriginGame.TroopConservation

namespace OriginGame.Battle
open BattleObject

def Ledger.part (ledger : Ledger) : Component → Int
  | .hardHurt => ledger.hardHurt
  | .die => ledger.die
  | .minor => ledger.minor

-- A component of this turn and of the turns before.
def Hurt.whole (hurt : Hurt) : Component → Int
  | .hardHurt => hurt.hard
  | .die => hurt.dead
  | .minor => hurt.light

-- What the report sums over all targets.
def BattleObject.reported (o : BattleObject) (part : Component) (id : SoldierId) : Int :=
  Table.sumOver (fun kinds => Table.amount kinds (Ledger.part · part) id) o.soldierHurtWithObjectIndex

-- What the result has more than the report.
def BattleObject.lag (o : BattleObject) (part : Component) (id : SoldierId) : Int := o.hurt (Hurt.whole · part) id-o.reported part id

-- For hardHurt, die and minor of every kind the report has what the result has.
def Agrees (o : BattleObject) : Prop := ∀ part id, o.reported part id = o.hurt (Hurt.whole · part) id

-- cacleObjectHurtDie with any answer of the game server to the losses it is sent.
def hurtDie (share : Share) (config : BattleConfig) (call : HurtCall) (reply : Table SoldierId Hurt → List (SoldierId × Nat)) (o : BattleObject) : BattleObject :=
  if o.turnHurt ≤ 0 then o else
  match cacleSoldierHurt share call.soldierOrder o with
  | none => o
  | some hurts =>
    match ranHurtIndex call.loss o hurts call.draw with
    | none => o
    | some chosen =>
      let o := hurtKinds call.loss call.attackIndex chosen hurts (call.soldierOrder.visit o.soldiers.keys) 0 o
      let o := if o.detailed then distributeRallyHurt share config call.hurtOrder call.memberOrder o else o
      let o := hospitalDieRecord o call.attackIndex (reply o.soldierHurt)
      {resetHurtDie o with turnHurt:=0}

theorem hurtDie_hospital (share : Share) (config : BattleConfig) (call : HurtCall) (o : BattleObject) :
    cacleObjectHurtDie share config call o = hurtDie share config call call.hospital.reply o := rfl

-- The losses the game server is sent, as they stand when its answer comes.
def sent (share : Share) (config : BattleConfig) (call : HurtCall) (o : BattleObject) : Option BattleObject :=
  if o.turnHurt ≤ 0 then none else
  (cacleSoldierHurt share call.soldierOrder o).bind (fun hurts => (ranHurtIndex call.loss o hurts call.draw).map (fun chosen =>
    let o := hurtKinds call.loss call.attackIndex chosen hurts (call.soldierOrder.visit o.soldiers.keys) 0 o
    if o.detailed then distributeRallyHurt share config call.hurtOrder call.memberOrder o else o))

inductive LedgerCall where
  | cacleObjectHurtDie (share : Share) (config : BattleConfig) (call : HurtCall) (reply : Table SoldierId Hurt → List (SoldierId × Nat))
  | hospitalDieRecord (attackIndex : ObjectIndex) (deaths : List (SoldierId × Nat))

def LedgerCall.next (o : BattleObject) : LedgerCall → BattleObject
  | .cacleObjectHurtDie share config call reply => hurtDie share config call reply o
  | .hospitalDieRecord attackIndex deaths => Battle.hospitalDieRecord o attackIndex deaths

-- No more deaths of a kind than serious injuries of this turn.
def DeathsFit (o : BattleObject) (deaths : List (SoldierId × Nat)) : Prop :=
  ∀ death ∈ deaths, death.1 ∈ o.soldierHurt → deathsOf deaths death.1 ≤ o.hurt Hurt.hardHurt death.1

def LedgerCall.Fits (o : BattleObject) : LedgerCall → Prop
  | .cacleObjectHurtDie share config call reply => ∀ p, sent share config call o = some p → DeathsFit p (reply p.soldierHurt)
  | .hospitalDieRecord _ deaths => DeathsFit o deaths

section ledger
variable {o p : BattleObject} {part : Component} {id j : SoldierId} {ref : Ref} {attackIndex : ObjectIndex} {loss : BattleLoss} {hurts : Table SoldierId Int}
  {deaths : List (SoldierId × Nat)}

theorem agrees_iff : Agrees o ↔ ∀ part id, o.lag part id = 0 := by
  unfold Agrees lag
  exact forall_congr' fun _ => forall_congr' fun _ => ⟨fun same => by omega,fun none_ => by omega⟩

theorem record_reported (o : BattleObject) (attackIndex : ObjectIndex) (id : SoldierId) (minor hardHurt die : Int) (part : Component) (j : SoldierId) :
    (recordSoldierHurtWithObjectIndex o attackIndex id minor hardHurt die).reported part j =
      o.reported part j+if j = id then (⟨hardHurt,die,minor,0⟩ : Ledger).part part else 0 := by
  unfold recordSoldierHurtWithObjectIndex reported
  dsimp only
  generalize (if attackIndex = o.objectIndex then o.attackTargetIndex else attackIndex) = target
  rw [Table.sumOver_insert]
  have before : Table.amount o.soldierHurtWithObjectIndex (fun kinds => Table.amount kinds (Ledger.part · part) j) target =
      Table.amount ((o.soldierHurtWithObjectIndex.lookup target).getD ∅) (Ledger.part · part) j := by
    unfold Table.amount
    cases o.soldierHurtWithObjectIndex.lookup target <;> rfl
  rw [before]
  generalize (o.soldierHurtWithObjectIndex.lookup target).getD ∅ = kinds
  by_cases same : j = id
  · subst same
    rw [if_pos rfl,Table.amount_insert]
    cases found : kinds.lookup j with
    | none =>
      dsimp only
      rw [Table.amount_none found]
      omega
    | some old =>
      rw [Table.amount_some found]
      cases part <;> simp only [Ledger.part] <;> omega
  · rw [if_neg same,Table.amount_insert_ne _ _ _ same]
    omega

-- A kind that is hit gets the same in both ledgers.
theorem hurtKind_lag (extra : Bool) (hurt : Int) : (hurtKind loss attackIndex extra o id ref hurt).lag part j = o.lag part j := by
  unfold hurtKind
  dsimp only
  generalize casualties loss extra (o.cell ref).num hurt = lost
  unfold lag
  rw [record_reported]
  change Table.amount (o.soldierHurt.insert id _) (Hurt.whole · part) j-(o.reported part j+_) = Table.amount o.soldierHurt (Hurt.whole · part) j-_
  by_cases same : j = id
  · subst same
    rw [if_pos rfl,Table.amount_insert]
    cases found : o.soldierHurt.lookup j with
    | none =>
      rw [Table.amount_none found]
      cases part <;> simp only [Option.getD_none,Hurt.whole,Hurt.hard,Hurt.dead,Hurt.light,Hurt.none,Ledger.part] <;> omega
    | some entry =>
      rw [Table.amount_some found]
      cases part <;> simp only [Option.getD_some,Hurt.whole,Hurt.hard,Hurt.dead,Hurt.light,Ledger.part] <;> omega
  · rw [if_neg same,Table.amount_insert_ne _ _ _ same]
    omega

theorem hurtKinds_lag (chosen : Option Nat) (kinds : List SoldierId) (index : Nat) :
    (hurtKinds loss attackIndex chosen hurts kinds index o).lag part j = o.lag part j := by
  induction kinds generalizing o index with
  | nil => rfl
  | cons kind rest ih =>
    unfold hurtKinds
    split
    · rw [ih,hurtKind_lag]
    · exact ih index

theorem MembersOnly.lag (frame : MembersOnly o p) : p.lag part j = o.lag part j := by
  rw [frame.rest]
  rfl

theorem reset_lag (o : BattleObject) : (resetHurtDie o).lag part j = o.lag part j := by
  have whole (hurt : Hurt) : hurt.reset.whole part = hurt.whole part := by
    cases part <;> simp only [Hurt.whole,Hurt.hard,Hurt.dead,Hurt.light,Hurt.reset] <;> omega
  unfold BattleObject.lag
  change Table.amount (Table.mapValues Hurt.reset o.soldierHurt) (Hurt.whole · part) j-_ = Table.amount o.soldierHurt (Hurt.whole · part) j-_
  rw [Table.amount_mapValues]
  simp only [whole]
  rfl

theorem clamp_max (n : Int) : (if n < 0 then 0 else n) = max 0 n := by
  split <;> omega

-- The injuries a death takes from the turn are cut off at zero, those it takes from the report are not.
theorem hospitalDie_lag (o : BattleObject) (attackIndex : ObjectIndex) (death : SoldierId × Nat) :
    (hospitalDie attackIndex o death).lag part j =
      o.lag part j+if part = .hardHurt ∧ j = death.1 ∧ j ∈ o.soldierHurt then max 0 (death.2-o.hurt Hurt.hardHurt j) else 0 := by
  unfold hospitalDie
  cases found : o.soldierHurt.lookup death.1 with
  | none =>
    have absent : ¬ (part = .hardHurt ∧ j = death.1 ∧ j ∈ o.soldierHurt) := by
      rintro ⟨_,rfl,there⟩
      exact AList.lookup_eq_none.mp found there
    rw [if_neg absent,Int.add_zero]
  | some entry =>
    dsimp only
    rw [clamp_max]
    unfold lag
    rw [record_reported]
    change Table.amount (o.soldierHurt.insert death.1 _) (Hurt.whole · part) j-(o.reported part j+_) = Table.amount o.soldierHurt (Hurt.whole · part) j-_+_
    by_cases same : j = death.1
    · subst same
      have there : death.1 ∈ o.soldierHurt := Table.mem_of_lookup found
      have hard : o.hurt Hurt.hardHurt death.1 = entry.hardHurt := Table.amount_some found _
      rw [if_pos rfl,Table.amount_insert,Table.amount_some found,hard]
      cases part with
      | hardHurt =>
        rw [if_pos ⟨rfl,rfl,there⟩]
        simp only [Hurt.whole,Hurt.hard,Ledger.part]
        omega
      | die =>
        rw [if_neg (fun all => by cases all.1)]
        simp only [Hurt.whole,Hurt.dead,Ledger.part]
        omega
      | minor =>
        rw [if_neg (fun all => by cases all.1)]
        simp only [Hurt.whole,Hurt.light,Ledger.part]
        omega
    · rw [if_neg same,if_neg (fun all => same all.2.1),Table.amount_insert_ne _ _ _ same]
      omega

theorem hospitalDie_left (o : BattleObject) (attackIndex : ObjectIndex) (death : SoldierId × Nat) :
    (j ∈ (hospitalDie attackIndex o death).soldierHurt ↔ j ∈ o.soldierHurt) ∧
      (hospitalDie attackIndex o death).hurt Hurt.hardHurt j =
        if j = death.1 ∧ j ∈ o.soldierHurt then max 0 (o.hurt Hurt.hardHurt j-death.2) else o.hurt Hurt.hardHurt j := by
  unfold hospitalDie
  cases found : o.soldierHurt.lookup death.1 with
  | none =>
    refine ⟨Iff.rfl,(if_neg ?_).symm⟩
    rintro ⟨rfl,there⟩
    exact AList.lookup_eq_none.mp found there
  | some entry =>
    have there : death.1 ∈ o.soldierHurt := Table.mem_of_lookup found
    dsimp only
    rw [clamp_max]
    refine ⟨?_,?_⟩
    · change j ∈ o.soldierHurt.insert death.1 _ ↔ _
      rw [AList.mem_insert]
      exact ⟨fun either => either.elim (fun same => same ▸ there) (fun old => old),.inr⟩
    · change Table.amount (o.soldierHurt.insert death.1 _) Hurt.hardHurt j = _
      by_cases same : j = death.1
      · subst same
        have hard : o.hurt Hurt.hardHurt death.1 = entry.hardHurt := Table.amount_some found _
        rw [if_pos ⟨rfl,there⟩,Table.amount_insert,hard]
      · rw [if_neg (fun both => same both.1),Table.amount_insert_ne _ _ _ same]
        rfl

theorem deathsOf_unlisted (unlisted : j ∉ deaths.map Prod.fst) : deathsOf deaths j = 0 := by
  unfold deathsOf
  rw [List.filter_eq_nil_iff.mpr]
  · rfl
  · intro death mem same
    exact unlisted (List.mem_map.mpr ⟨death,mem,of_decide_eq_true same⟩)

-- What the deaths of a kind have over its serious injuries stays in the result and leaves the report.
theorem hospitalDieRecord_lag (o : BattleObject) (attackIndex : ObjectIndex) (deaths : List (SoldierId × Nat)) :
    (hospitalDieRecord o attackIndex deaths).lag part j = o.lag part j+
      if part = .hardHurt ∧ j ∈ deaths.map Prod.fst ∧ j ∈ o.soldierHurt then max 0 (deathsOf deaths j-o.hurt Hurt.hardHurt j) else 0 := by
  induction deaths generalizing o with
  | nil =>
    rw [if_neg (fun all => List.not_mem_nil all.2.1),Int.add_zero]
    rfl
  | cons death rest ih =>
    obtain ⟨kept,left⟩ := @hospitalDie_left j o attackIndex death
    change (hospitalDieRecord (hospitalDie attackIndex o death) attackIndex rest).lag part j = _
    rw [ih,hospitalDie_lag,left,deathsOf_cons]
    simp only [kept,List.map_cons,List.mem_cons]
    by_cases counted : part = .hardHurt ∧ j ∈ o.soldierHurt
    · obtain ⟨rfl,there⟩ := counted
      have nonneg := deathsOf_nonneg rest j
      by_cases same : j = death.1
      · subst same
        by_cases again : death.1 ∈ rest.map Prod.fst
        · simp only [again,there,and_self,or_self,if_true]
          omega
        · have unlisted := deathsOf_unlisted again
          simp only [again,there,unlisted,and_self,and_true,and_false,or_false,if_true,if_false]
          omega
      · have own : death.1 ≠ j := Ne.symm same
        by_cases again : j ∈ rest.map Prod.fst
        · simp only [again,there,same,own,and_self,and_true,and_false,or_true,if_true,if_false]
          omega
        · simp only [again,same,own,false_and,and_false,or_self,if_false]
          omega
    · rw [if_neg (fun all => counted ⟨all.1,all.2.2⟩),if_neg (fun all => counted ⟨all.1,all.2.2⟩),if_neg (fun all => counted ⟨all.1,all.2.2⟩)]
      omega

theorem hospitalDieRecord_agrees (agrees : Agrees o) (attackIndex : ObjectIndex) (deaths : List (SoldierId × Nat)) :
    Agrees (hospitalDieRecord o attackIndex deaths) ↔ DeathsFit o deaths := by
  have before := agrees_iff.mp agrees
  rw [agrees_iff]
  constructor
  · intro after death mem there
    have same := after .hardHurt death.1
    rw [hospitalDieRecord_lag,before,if_pos ⟨rfl,List.mem_map_of_mem mem,there⟩] at same
    omega
  · intro fits part j
    rw [hospitalDieRecord_lag,before]
    split
    · rename_i listed
      obtain ⟨death,mem,rfl⟩ := List.mem_map.mp listed.2.1
      have fit := fits death mem listed.2.2
      omega
    · rfl

-- The object the deaths of a call are applied to has the lag the call found.
theorem sent_lag {share : Share} {config : BattleConfig} {call : HurtCall} (done : sent share config call o = some p) : p.lag part j = o.lag part j := by
  unfold sent at done
  split at done
  · cases done
  · obtain ⟨hurts,_,done⟩ := Option.bind_eq_some_iff.mp done
    obtain ⟨chosen,_,rfl⟩ := Option.map_eq_some_iff.mp done
    dsimp only
    split
    · rw [(distributeRallyHurt_membersOnly share config call.hurtOrder call.memberOrder _).lag,hurtKinds_lag]
    · rw [hurtKinds_lag]

theorem hurtDie_sent (share : Share) (config : BattleConfig) (call : HurtCall) (reply : Table SoldierId Hurt → List (SoldierId × Nat)) (o : BattleObject) :
    hurtDie share config call reply o = ((sent share config call o).map (fun p =>
      {resetHurtDie (hospitalDieRecord p call.attackIndex (reply p.soldierHurt)) with turnHurt:=0})).getD o := by
  unfold hurtDie sent
  split
  · rfl
  · cases cacleSoldierHurt share call.soldierOrder o with
    | none => rfl
    | some hurts =>
      dsimp only
      rw [Option.bind_some]
      cases ranHurtIndex call.loss o hurts call.draw with
      | none => rfl
      | some chosen => rfl

-- One call.
theorem next_agrees (agrees : Agrees o) (call : LedgerCall) : Agrees (call.next o) ↔ call.Fits o := by
  cases call with
  | hospitalDieRecord attackIndex deaths => exact hospitalDieRecord_agrees agrees attackIndex deaths
  | cacleObjectHurtDie share config call reply =>
    change Agrees (hurtDie share config call reply o) ↔ ∀ p, sent share config call o = some p → DeathsFit p (reply p.soldierHurt)
    rw [hurtDie_sent]
    cases done : sent share config call o with
    | none => exact ⟨fun _ p no => (by cases no),fun _ => agrees⟩
    | some p =>
      have reached : Agrees p := agrees_iff.mpr (fun part id => (sent_lag done).trans (agrees_iff.mp agrees part id))
      have reset : Agrees {resetHurtDie (hospitalDieRecord p call.attackIndex (reply p.soldierHurt)) with turnHurt:=0} ↔
          Agrees (hospitalDieRecord p call.attackIndex (reply p.soldierHurt)) := by
        rw [agrees_iff,agrees_iff]
        refine forall_congr' fun part => forall_congr' fun id => ?_
        rw [← @reset_lag part id (hospitalDieRecord p call.attackIndex (reply p.soldierHurt))]
        rfl
      refine (reset.trans (hospitalDieRecord_agrees reached _ _)).trans ⟨?_,fun fits => fits p rfl⟩
      intro fits q same
      cases same
      exact fits

end ledger

theorem ledgers_agree {o : BattleObject} (agrees : Agrees o) (calls : List LedgerCall) :
    (∀ n, Agrees ((calls.take n).foldl LedgerCall.next o)) ↔ Runs.Passes LedgerCall.next (fun o call => call.Fits o) o calls :=
  Runs.always_iff Agrees (fun _ call agrees => next_agrees agrees call) agrees calls

section late

-- Ten soldiers are hit for four, half of them seriously; then the hospital reports a death.
def injured : BattleObject := {tenLeft with turnHurt:=4}

def half : BattleLoss := ⟨500,0,0,0,light.serious_le,deadly.death_le⟩

def deathAfter : List LedgerCall :=
  [.cacleObjectHurtDie Share.exact arms (strike half) (fun _ => []),.hospitalDieRecord 2 [(1,1)]]

theorem injured_agrees : Agrees injured := fun part id => by
  have nothing : injured.hurt (Hurt.whole · part) id = 0 := Table.amount_none (AList.lookup_empty id) _
  rw [nothing]
  rfl

theorem deathAfter_disagrees : ¬ ∀ n, Agrees ((deathAfter.take n).foldl LedgerCall.next injured) := by
  intro always
  exact absurd (always 2 .hardHurt 1) (by decide)

theorem injured_reported : Agrees injured ∧
    ((∀ n, Agrees (([LedgerCall.hospitalDieRecord 2 [(1,1)]].take n).foldl LedgerCall.next injured)) ↔
      Runs.Passes LedgerCall.next (fun o call => call.Fits o) injured [.hospitalDieRecord 2 [(1,1)]]) :=
  ⟨injured_agrees,ledgers_agree injured_agrees _⟩

end late
end OriginGame.Battle
