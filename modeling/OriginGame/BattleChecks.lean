import OriginGame.BattleExits

namespace OriginGame.BattleScene

section checks
variable {objects : Objects} {look after last : Nat → Option Seen} {checks : Checks} {order : Order Nat} {inRange : Nat → Nat → Bool} {turn : Int}
variable {own : Nat}

-- The checks change who leaves, and nobody is found beaten after the first of them.
def Marks (a b : Seen) : Prop :=
  b = {a with exitBattleFlag:=b.exitBattleFlag, exitBattleWin:=b.exitBattleWin} ∧
  (b.exitBattleFlag = a.exitBattleFlag ∧ b.exitBattleWin = a.exitBattleWin ∨ b.exitBattleFlag = true ∧ b.exitBattleWin ≠ .fail)

theorem Marks.refl (a : Seen) : Marks a a := ⟨rfl,.inl ⟨rfl,rfl⟩⟩

theorem Marks.trans {a b c : Seen} (first : Marks a b) (second : Marks b c) : Marks a c := by
  obtain ⟨ab,change⟩ := first
  obtain ⟨bc,next⟩ := second
  constructor
  · rw [ab] at bc
    exact bc
  · rcases next with ⟨flag,win⟩ | later
    · rw [flag,win]
      exact change
    · exact .inr later

def AllMark (look after : Nat → Option Seen) : Prop := ∀ i, (look i = none → after i = none) ∧ ∀ a ∈ look i, ∃ b ∈ after i, Marks a b

theorem AllMark.refl (look : Nat → Option Seen) : AllMark look look := fun _ => ⟨id,fun a found => ⟨a,found,.refl a⟩⟩

theorem AllMark.trans (first : AllMark look after) (second : AllMark after last) : AllMark look last := by
  intro i
  refine ⟨fun none => (second i).1 ((first i).1 none),?_⟩
  intro a found
  obtain ⟨b,there,one⟩ := (first i).2 a found
  obtain ⟨c,here,two⟩ := (second i).2 b there
  exact ⟨c,here,one.trans two⟩

theorem AllMark.back (marks : AllMark look after) {i : Nat} {b : Seen} (found : b ∈ after i) : ∃ a ∈ look i, Marks a b := by
  cases there : look i with
  | none =>
    rw [(marks i).1 there] at found
    cases found
  | some a =>
    obtain ⟨c,here,one⟩ := (marks i).2 a there
    cases Option.mem_unique here found
    exact ⟨a,rfl,one⟩

def leaving (result : BattleResult) (o : Seen) : Seen := {o with exitBattleFlag:=true, exitBattleWin:=result}

theorem AllMark.leaving {result : BattleResult} (other : result ≠ .fail) (k : Nat) : AllMark look (altered look k (leaving result)) := by
  intro i
  by_cases here : i = k
  · subst here
    constructor
    · intro none
      rw [altered,Function.update_self,none]
      rfl
    · intro a found
      exact ⟨_,altered_self found,rfl,.inr ⟨rfl,other⟩⟩
  · rw [altered_other here]
    exact AllMark.refl look i

theorem sight_leaveBattle (objects : Objects) (k : Nat) : ∃ result, result ≠ .fail ∧ (checkTargetFail objects k = true → result = .win) ∧
    sight (leaveBattle objects k) = altered (sight objects) k (BattleScene.leaving result) := by
  refine ⟨if checkTargetFail objects k then .win else .noResult,?_,?_,?_⟩
  · split <;> nofun
  · exact fun failed => if_pos failed
  · unfold leaveBattle
    apply sight_modify
    intro _
    rfl

-- Only an object that did not leave is changed.
theorem sight_checkNoTarget (order : Order Nat) (inRange : Nat → Nat → Bool) (turn : Int) (objects : Objects) (k : Nat) : sight (checkNoTarget order inRange turn objects k) = sight objects ∨
    ∃ result, result ≠ .fail ∧ (∀ o ∈ sight objects k, o.exitBattleFlag = false) ∧
      sight (checkNoTarget order inRange turn objects k) = altered (sight objects) k (BattleScene.leaving result) := by
  unfold checkNoTarget
  cases found : objects.lookup k with
  | none => exact .inl rfl
  | some objectInfo =>
    dsimp only
    split
    · exact .inl rfl
    · rename_i stays
      have same := sight_getAttackTarget order inRange turn objects k
      split
      · rename_i target after result
        rw [result] at same
        exact .inl same
      · rename_i after result
        rw [result] at same
        obtain ⟨given,other,_,left⟩ := sight_leaveBattle after k
        refine .inr ⟨given,other,?_,?_⟩
        · intro o there
          rw [sight,found] at there
          cases there
          exact Bool.eq_false_iff.mpr stays
        · rw [left]
          exact congrArg (altered · k _) same

-- An attack gives its object a target or has a building leave.
theorem sight_attack (order : Order Nat) (inRange : Nat → Nat → Bool) (turn : Int) (objects : Objects) (k : Nat) : sight (attack order inRange turn objects k) = sight objects ∨
    (∃ target, sight (attack order inRange turn objects k) = altered (sight objects) k (fun o => {o with attackTargetIndex:=target})) ∨
    ∃ result, result ≠ .fail ∧ sight (attack order inRange turn objects k) = altered (sight objects) k (BattleScene.leaving result) := by
  unfold attack
  split
  · exact .inl rfl
  · split
    · exact .inl rfl
    · have same := sight_getAttackTarget order inRange turn objects k
      split
      · rename_i target after result
        rw [result] at same
        dsimp only at same
        split
        · refine .inr (.inl ⟨target.index,?_⟩)
          rw [← same]
          apply sight_modify
          intro _
          rfl
        · exact .inl same
      · rename_i after result
        rw [result] at same
        dsimp only at same
        split
        · obtain ⟨given,other,_,left⟩ := sight_leaveBattle after k
          refine .inr (.inr ⟨given,other,?_⟩)
          rw [left,same]
        · exact .inl same

theorem noTarget_marks (turn : Int) (checks : Checks) (objects : Objects) : AllMark (sight objects) (sight (noTarget checks turn objects)) := by
  unfold noTarget
  induction checks.order.visit objects.keys generalizing objects with
  | nil => exact .refl _
  | cons k rest ih =>
    rw [List.foldl_cons]
    refine AllMark.trans ?_ (ih _)
    rcases sight_checkNoTarget (checks.targetOrder k) checks.inRange turn objects k with same | ⟨result,other,_,same⟩
    · rw [same]
      exact .refl _
    · rw [same]
      exact .leaving other k

theorem turnOut_sight (outOfCombat turn : Int) (objects : Objects) (i : Nat) :
    sight (turnOutExitBattle outOfCombat turn objects) i = (objects.lookup i).map (fun objectInfo =>
      if timedOut outOfCombat turn objects i objectInfo then leaving .noResult (seen objectInfo) else seen objectInfo) := by
  rw [sight,turnOutExitBattle,Table.lookup_mapKeyed,Option.map_map]
  congr 1
  funext objectInfo
  dsimp only [Function.comp]
  split <;> rfl

theorem turnOut_marks (outOfCombat turn : Int) (objects : Objects) : AllMark (sight objects) (sight (turnOutExitBattle outOfCombat turn objects)) := by
  intro i
  rw [turnOut_sight,sight]
  cases objects.lookup i with
  | none =>
    refine ⟨id,?_⟩
    intro a found
    cases found
  | some objectInfo =>
    refine ⟨fun none => absurd none (Option.some_ne_none _),?_⟩
    intro a found
    cases found
    refine ⟨_,rfl,?_⟩
    dsimp only
    split
    · refine ⟨rfl,.inr ⟨rfl,?_⟩⟩
      intro failed
      cases failed
    · exact .refl _

-- At most one object that was to stay.
theorem sight_lastSurvivor (objects : Objects) : sight (lastSurvivor objects) = sight objects ∨
    ∃ k result, result ≠ .fail ∧ (∀ o ∈ sight objects k, o.exitBattleFlag = false) ∧ sight (lastSurvivor objects) = altered (sight objects) k (leaving result) := by
  unfold lastSurvivor
  split
  · rename_i k only
    have mem : k ∈ objects.keys.filter (fun objectIndex => (objects.lookup objectIndex).any (fun objectInfo => !objectInfo.exitBattleFlag)) := by
      rw [only]
      exact List.mem_singleton_self k
    have stays := (List.mem_filter.mp mem).2
    cases found : objects.lookup k with
    | none =>
      rw [found] at stays
      cases stays
    | some objectInfo =>
      rw [found] at stays
      let result (o : Seen) := if checkArmyWalkStatus o.status then BattleResult.noResult
        else if checkOtherAllFail objects k then .win else .noResult
      refine .inr ⟨k,result (seen objectInfo),?_,?_,?_⟩
      · dsimp only [result]
        split
        · nofun
        · split <;> nofun
      · intro o there
        rw [sight,found] at there
        cases there
        exact Bool.not_eq_true' _ |>.mp stays
      · have changed : sight (objects.modify k (fun objectInfo => {objectInfo with exitBattleFlag:=true, exitBattleWin:=result (seen objectInfo)})) =
            Function.update (sight objects) k ((sight objects k).map (fun o => leaving (result o) o)) := by
          apply sight_modify
          intro _
          rfl
        refine changed.trans ?_
        rw [altered,sight,found]
        rfl
  · exact .inl rfl

theorem lastSurvivor_marks (objects : Objects) : AllMark (sight objects) (sight (lastSurvivor objects)) := by
  rcases sight_lastSurvivor objects with same | ⟨k,result,other,_,same⟩
  · rw [same]
    exact .refl _
  · rw [same]
    exact .leaving other k

theorem check_marks (checks : Checks) (turn : Int) (objects : Objects) : AllMark (sight (rout objects)) (sight (check checks turn objects)) :=
  (noTarget_marks turn checks _).trans ((turnOut_marks _ _ _).trans (lastSurvivor_marks _))

def lastTurn (objects : Objects) (i : Nat) : Option Int := (objects.lookup i).map (·.lastBattleTurn)

theorem lastTurn_keep {change : ObjectInfo → ObjectInfo} (same : ∀ objectInfo, (change objectInfo).lastBattleTurn = objectInfo.lastBattleTurn) (k i : Nat) :
    lastTurn (objects.modify k change) i = lastTurn objects i := by
  rw [lastTurn,Table.lookup_modify,lastTurn]
  split
  · rename_i here
    subst here
    cases objects.lookup i with
    | none => rfl
    | some objectInfo => exact congrArg some (same objectInfo)
  · rfl

-- Only the object itself may have followed.
theorem lastTurn_getAttackTarget (order : Order Nat) (inRange : Nat → Nat → Bool) (turn : Int) (objects : Objects) {i : Nat} (other : i ≠ own) :
    lastTurn (getAttackTarget order inRange turn objects own).2 i = lastTurn objects i := by
  have listed (objects : Objects) (t : Nat) (objectType : RoleType) : lastTurn (addAttacker objects t own objectType) i = lastTurn objects i := by
    apply lastTurn_keep
    intro _
    rfl
  have old (objectInfo : ObjectInfo) : lastTurn (oldTarget inRange turn objects own objectInfo).2.2 i = lastTurn objects i := by
    unfold oldTarget
    split
    · rfl
    · split
      · rfl
      · dsimp only
        split
        · exact listed _ _ _
        · rw [lastTurn,Table.lookup_modify_ne _ _ other]
          exact listed _ _ _
  unfold getAttackTarget
  split
  · rfl
  · dsimp only
    split
    · exact old _
    · split
      · exact old _
      · split
        · rw [listed]
          exact old _
        · exact old _

theorem lastTurn_leaveBattle (k i : Nat) : lastTurn (leaveBattle objects k) i = lastTurn objects i := by
  apply lastTurn_keep
  intro _
  rfl

theorem lastTurn_checkNoTarget {k i : Nat} (other : i ≠ k ∨ ∃ o ∈ sight objects i, o.exitBattleFlag = true) :
    lastTurn (checkNoTarget order inRange turn objects k) i = lastTurn objects i := by
  unfold checkNoTarget
  split
  · rfl
  · rename_i objectInfo found
    split
    · rfl
    · rename_i stays
      have apart : i ≠ k := by
        rcases other with apart | ⟨o,there,leaves⟩
        · exact apart
        · rintro rfl
          rw [sight,found] at there
          cases there
          exact stays leaves
      have same := lastTurn_getAttackTarget order inRange turn objects apart
      split
      · rename_i result
        rw [result] at same
        exact same
      · rename_i result
        rw [result] at same
        rw [lastTurn_leaveBattle]
        exact same

-- Who leaves already is left alone.
theorem checkNoTarget_leaving (order : Order Nat) (inRange : Nat → Nat → Bool) (turn : Int) (k : Nat) {i : Nat} {o : Seen} (found : sight objects i = some o) (leaves : o.exitBattleFlag = true) :
    sight (checkNoTarget order inRange turn objects k) i = some o := by
  rcases sight_checkNoTarget order inRange turn objects k with same | ⟨result,_,stays,same⟩
  · rw [same]
    exact found
  · rw [same,altered_other]
    · exact found
    · rintro rfl
      rw [stays o found] at leaves
      cases leaves

theorem noTarget_leaving (checks : Checks) (turn : Int) {i : Nat} {o : Seen} (found : sight objects i = some o) (leaves : o.exitBattleFlag = true) (keys : List Nat) :
    sight (keys.foldl (fun objects k => checkNoTarget (checks.targetOrder k) checks.inRange turn objects k) objects) i = some o ∧
    lastTurn (keys.foldl (fun objects k => checkNoTarget (checks.targetOrder k) checks.inRange turn objects k) objects) i = lastTurn objects i := by
  induction keys generalizing objects with
  | nil => exact ⟨found,rfl⟩
  | cons k rest ih =>
    rw [List.foldl_cons]
    obtain ⟨same,turns⟩ := ih (checkNoTarget_leaving (checks.targetOrder k) checks.inRange turn k found leaves)
    refine ⟨same,turns.trans ?_⟩
    exact lastTurn_checkNoTarget (.inr ⟨o,found,leaves⟩)

-- It stays so far, its target is beaten or gone, and so is who attacks it.
structure Ready (objects : Objects) (i : Nat) (o : Seen) : Prop where
  found : sight objects i = some o
  target : ∀ b ∈ sight objects o.attackTargetIndex, b.exitBattleFlag = true ∧ b.armyCount ≤ 0
  attackers : ∀ t, ∀ b ∈ sight objects t, b.tmpObjectFlag = false → b.attackTargetIndex = i → b.armyCount ≤ 0

theorem Marks.same {a b : Seen} (one : Marks a b) : b.armyCount = a.armyCount ∧ b.tmpObjectFlag = a.tmpObjectFlag ∧
    b.attackTargetIndex = a.attackTargetIndex ∧ b.status = a.status ∧ b.exitBattleBlockBlag = a.exitBattleBlockBlag := by
  rw [one.1]
  exact ⟨rfl,rfl,rfl,rfl,rfl⟩

theorem Marks.leaves {a b : Seen} (one : Marks a b) (goes : a.exitBattleFlag = true) : b.exitBattleFlag = true := by
  rcases one.2 with ⟨same,_⟩ | ⟨flag,_⟩
  · rw [same]
    exact goes
  · exact flag

theorem checkNoTarget_marks (order : Order Nat) (inRange : Nat → Nat → Bool) (turn : Int) (objects : Objects) (k : Nat) :
    AllMark (sight objects) (sight (checkNoTarget order inRange turn objects k)) := by
  rcases sight_checkNoTarget order inRange turn objects k with same | ⟨result,other,_,same⟩
  · rw [same]
    exact .refl _
  · rw [same]
    exact .leaving other k

theorem Ready.other {i k : Nat} {o : Seen} (ready : Ready objects i o) (other : i ≠ k) : Ready (checkNoTarget order inRange turn objects k) i o := by
  have marks := checkNoTarget_marks order inRange turn objects k
  refine ⟨?_,?_,?_⟩
  · rcases sight_checkNoTarget order inRange turn objects k with same | ⟨result,_,_,same⟩
    · rw [same]
      exact ready.found
    · rw [same,altered_other other]
      exact ready.found
  · intro b there
    obtain ⟨a,before,one⟩ := marks.back there
    obtain ⟨goes,down⟩ := ready.target a before
    refine ⟨one.leaves goes,?_⟩
    rw [one.same.1]
    exact down
  · intro t b there lasting its
    obtain ⟨a,before,one⟩ := marks.back there
    obtain ⟨count,tmp,target,_⟩ := one.same
    rw [count]
    exact ready.attackers t a before (tmp.symm.trans lasting) (target.symm.trans its)

theorem isDie_iff {i : Nat} : isDie objects i = true ↔ ∀ o ∈ sight objects i, o.armyCount ≤ 0 := by
  rw [isDie_sight]
  cases sight objects i with
  | none => exact ⟨fun _ => nofun,fun _ => rfl⟩
  | some o => simp

-- Without anyone to fight it leaves as the winner.
theorem Ready.getAttackTarget {i : Nat} {o : Seen} (ready : Ready objects i o) : getAttackTarget order inRange turn objects i = (none,objects) := by
  obtain ⟨objectInfo,found,rfl⟩ := Option.map_eq_some_iff.mp ready.found
  have old : oldTarget inRange turn objects i objectInfo = (none,false,objects) := by
    unfold oldTarget
    cases there : objects.lookup objectInfo.attackTargetIndex with
    | none => rfl
    | some targetInfo =>
      have goes := (ready.target (seen targetInfo) (Option.map_eq_some_iff.mpr ⟨targetInfo,there,rfl⟩)).1
      exact if_pos goes
  have nobody : (order.visit objects.keys).find? (attacksBack inRange objects i) = none := by
    rw [List.find?_eq_none]
    intro t _ back
    rw [attacksBack_sight] at back
    obtain ⟨b,there,holds⟩ := Option.any_eq_true _ _ |>.mp back
    simp only [Bool.and_eq_true,Bool.not_eq_true',decide_eq_true_eq] at holds
    obtain ⟨⟨⟨⟨lasting,_⟩,its⟩,alive⟩,_⟩ := holds
    have down := ready.attackers t b there lasting its
    have died : isDie objects t = true := isDie_iff.mpr (fun c here => by
      cases Option.mem_unique here there
      exact down)
    rw [died] at alive
    cases alive
  unfold BattleScene.getAttackTarget
  rw [found]
  dsimp only
  rw [old]
  dsimp only [Option.filter_none]
  split
  · rfl
  · rw [nobody]

theorem Ready.leaves {i : Nat} {o : Seen} (ready : Ready objects i o) (order : Order Nat) (inRange : Nat → Nat → Bool) (turn : Int) (stays : o.exitBattleFlag = false) :
    sight (checkNoTarget order inRange turn objects i) i = some (leaving .win o) ∧
    lastTurn (checkNoTarget order inRange turn objects i) i = lastTurn objects i := by
  obtain ⟨objectInfo,found,rfl⟩ := Option.map_eq_some_iff.mp ready.found
  have still : ¬objectInfo.exitBattleFlag = true := Bool.eq_false_iff.mp stays
  have goes : checkNoTarget order inRange turn objects i = leaveBattle objects i := by
    unfold checkNoTarget
    rw [found]
    dsimp only
    rw [if_neg still,ready.getAttackTarget]
  have gone : isDie objects objectInfo.attackTargetIndex = true := isDie_iff.mpr (fun b there => (ready.target b there).2)
  have failed : checkTargetFail objects i = true := by
    unfold checkTargetFail
    rw [found,Option.all_some,gone,Bool.or_true]
  obtain ⟨result,_,wins,left⟩ := sight_leaveBattle objects i
  rw [goes,left,wins failed]
  exact ⟨altered_self ready.found,lastTurn_leaveBattle i i⟩

theorem Ready.others {i : Nat} {o : Seen} (ready : Ready objects i o) (checks : Checks) (turn : Int) (keys : List Nat) (apart : i ∉ keys) :
    Ready (keys.foldl (fun objects k => checkNoTarget (checks.targetOrder k) checks.inRange turn objects k) objects) i o ∧
    lastTurn (keys.foldl (fun objects k => checkNoTarget (checks.targetOrder k) checks.inRange turn objects k) objects) i = lastTurn objects i := by
  induction keys generalizing objects with
  | nil => exact ⟨ready,rfl⟩
  | cons k rest ih =>
    obtain ⟨other,later⟩ := List.ne_and_not_mem_of_not_mem_cons apart
    rw [List.foldl_cons]
    obtain ⟨still,turns⟩ := ih (ready.other other) later
    exact ⟨still,turns.trans (lastTurn_checkNoTarget (.inl other))⟩

theorem noTarget_wins (checks : Checks) (turn : Int) {i : Nat} {o : Seen} (ready : Ready objects i o) (stays : o.exitBattleFlag = false) :
    sight (noTarget checks turn objects) i = some (leaving .win o) ∧ lastTurn (noTarget checks turn objects) i = lastTurn objects i := by
  have inside : i ∈ checks.order.visit objects.keys := by
    obtain ⟨objectInfo,found,_⟩ := Option.map_eq_some_iff.mp ready.found
    exact checks.order.mem_visit.mpr (mem_of_found found)
  have distinct := checks.order.nodup_visit objects.keys_nodup
  obtain ⟨first,later,split⟩ := List.append_of_mem inside
  unfold noTarget
  rw [split] at distinct ⊢
  have apart : i ∉ first := fun early => (List.nodup_append.mp distinct).2.2 i early i List.mem_cons_self rfl
  rw [List.foldl_append,List.foldl_cons]
  obtain ⟨still,before⟩ := ready.others checks turn first apart
  obtain ⟨left,own⟩ := still.leaves (checks.targetOrder i) checks.inRange turn stays
  obtain ⟨same,after⟩ := noTarget_leaving checks turn left rfl later
  exact ⟨same,after.trans (own.trans before)⟩

-- What the time limit reads of the others.
def stance (o : Seen) : Nat × Nat := (o.status,o.attackTargetIndex)

def Followed (look : Nat → Option Seen) (i : Nat) : Prop :=
  ∃ other, other ≠ i ∧ ∃ p ∈ (look other).map stance, p.2 = i ∧ checkArmyStatus p.1 ArmyStatus.followUp = true

theorem timedOut_iff {outOfCombat : Int} {i : Nat} {objectInfo : ObjectInfo} : timedOut outOfCombat turn objects i objectInfo = true ↔
    checkArmyStatus objectInfo.status ArmyStatus.followUp = false ∧ ¬Followed (sight objects) i ∧ objectInfo.lastBattleTurn+outOfCombat ≤ turn := by
  have chased : (objects.keys.any (fun other => other ≠ i && (objects.lookup other).any (fun subObjectInfo =>
      decide (subObjectInfo.attackTargetIndex = i) && checkArmyStatus subObjectInfo.status ArmyStatus.followUp))) = true ↔ Followed (sight objects) i := by
    rw [List.any_eq_true]
    constructor
    · rintro ⟨other,_,holds⟩
      simp only [Bool.and_eq_true,decide_eq_true_eq] at holds
      obtain ⟨apart,follows⟩ := holds
      obtain ⟨info,found,its⟩ := Option.any_eq_true _ _ |>.mp follows
      simp only [Bool.and_eq_true,decide_eq_true_eq] at its
      refine ⟨other,apart,(info.status,info.attackTargetIndex),?_,its⟩
      rw [sight,found]
      rfl
    · rintro ⟨other,apart,p,there,its⟩
      rw [sight,Option.map_map] at there
      obtain ⟨info,found,rfl⟩ := Option.map_eq_some_iff.mp there
      refine ⟨other,mem_of_found found,?_⟩
      rw [found]
      simp only [Bool.and_eq_true,decide_eq_true_eq,Option.any_some]
      exact ⟨apart,its⟩
  unfold timedOut
  rw [← chased]
  simp only [Bool.and_eq_true,Bool.not_eq_true',decide_eq_true_eq,Bool.not_eq_true,and_assoc]

theorem AllMark.stance (marks : AllMark look after) (i : Nat) : (after i).map stance = (look i).map stance := by
  cases found : look i with
  | none => rw [(marks i).1 found]
  | some a =>
    obtain ⟨b,there,one⟩ := (marks i).2 a found
    obtain ⟨_,_,target,status,_⟩ := one.same
    rw [Option.mem_def.mp there,Option.map_some,Option.map_some,BattleScene.stance,status,target]
    rfl

def routs (o : Seen) : Seen := if o.armyCount ≤ 0 then leaving .fail o else o

theorem sight_rout (objects : Objects) (i : Nat) : sight (rout objects) i = (sight objects i).map routs := by
  rw [sight,rout,Table.lookup_mapValues,Option.map_map,sight,Option.map_map]
  congr 1
  funext objectInfo
  unfold isRout routs
  dsimp only [Function.comp]
  by_cases down : objectInfo.armyCount ≤ 0
  · have few : (seen objectInfo).armyCount ≤ 0 := down
    rw [if_pos (decide_eq_true down),if_pos few]
    rfl
  · have some : ¬(seen objectInfo).armyCount ≤ 0 := down
    rw [if_neg (by simpa using down),if_neg some]

theorem stance_noTarget (checks : Checks) (turn : Int) (objects : Objects) (i : Nat) : (sight (noTarget checks turn (rout objects)) i).map stance = (sight objects i).map stance := by
  rw [(noTarget_marks turn checks (rout objects)).stance,sight_rout,Option.map_map]
  congr 1
  funext o
  unfold routs
  dsimp only [Function.comp]
  split <;> rfl

-- Who leaves after the search for targets and is not out of time leaves with that result.
theorem check_settled {i : Nat} {objectInfo : ObjectInfo} (found : objects.lookup i = some objectInfo)
    (calm : timedOut checks.outOfCombat turn objects i objectInfo = false) {b : Seen} (there : sight (noTarget checks turn (rout objects)) i = some b)
    (leaves : b.exitBattleFlag = true) (last : lastTurn (noTarget checks turn (rout objects)) i = lastTurn objects i) :
    sight (check checks turn objects) i = some b := by
  obtain ⟨info,here,rfl⟩ := Option.map_eq_some_iff.mp there
  have stances := stance_noTarget checks turn objects i
  have status : info.status = objectInfo.status := by
    rw [sight,here,sight,found] at stances
    exact congrArg Prod.fst (Option.some.inj stances)
  have turns : info.lastBattleTurn = objectInfo.lastBattleTurn := by
    rw [lastTurn,here,lastTurn,found] at last
    exact Option.some.inj last
  have still : ¬timedOut checks.outOfCombat turn (noTarget checks turn (rout objects)) i info = true := by
    intro out
    rw [timedOut_iff,status,turns] at out
    obtain ⟨free,alone,late⟩ := out
    have before : timedOut checks.outOfCombat turn objects i objectInfo = true := by
      refine timedOut_iff.mpr ⟨free,?_,late⟩
      rintro ⟨other,apart,p,mem,its⟩
      refine alone ⟨other,apart,p,?_,its⟩
      rw [stance_noTarget]
      exact mem
    rw [calm] at before
    cases before
  have stays : sight (turnOutExitBattle checks.outOfCombat turn (noTarget checks turn (rout objects))) i = some (seen info) := by
    rw [turnOut_sight,here,Option.map_some,if_neg still]
  unfold check
  rcases sight_lastSurvivor (turnOutExitBattle checks.outOfCombat turn (noTarget checks turn (rout objects))) with same | ⟨k,result,_,remains,same⟩
  · rw [same]
    exact stays
  · rw [same,altered_other]
    · exact stays
    · rintro rfl
      rw [remains _ stays] at leaves
      cases leaves

theorem routs_down {o : Seen} (down : o.armyCount ≤ 0) : routs o = leaving .fail o := if_pos down

theorem routs_alive {o : Seen} (alive : ¬o.armyCount ≤ 0) : routs o = o := if_neg alive

theorem rout_from {i : Nat} {a : Seen} (found : a ∈ sight (rout objects) i) : ∃ o ∈ sight objects i, a = routs o := by
  rw [sight_rout] at found
  obtain ⟨o,there,same⟩ := Option.map_eq_some_iff.mp found
  exact ⟨o,there,same.symm⟩

theorem rout_to {i : Nat} {o : Seen} (found : o ∈ sight objects i) : routs o ∈ sight (rout objects) i := by
  rw [sight_rout,Option.mem_def.mp found]
  rfl

-- Before the checks nobody counts as beaten that has soldiers.
theorem Early.beaten_down {log : Log} (early : Early (sight objects) log) {i : Nat} {a : Seen} (found : a ∈ sight (rout objects) i) (beaten : a.beaten) :
    a.armyCount ≤ 0 := by
  obtain ⟨o,there,rfl⟩ := rout_from found
  by_cases down : o.armyCount ≤ 0
  · rw [routs_down down]
    exact down
  · rw [routs_alive down] at beaten
    exact absurd beaten.2 (early.leaving i o there beaten.1)

theorem check_down {i : Nat} {objectInfo : ObjectInfo} (found : objects.lookup i = some objectInfo) (down : objectInfo.armyCount ≤ 0)
    (calm : timedOut checks.outOfCombat turn objects i objectInfo = false) : sight (check checks turn objects) i = some (leaving .fail (seen objectInfo)) := by
  have there : sight (rout objects) i = some (leaving .fail (seen objectInfo)) := by
    rw [sight_rout,sight,found,Option.map_some,Option.map_some,routs_down down]
  obtain ⟨same,last⟩ := noTarget_leaving checks turn there rfl (checks.order.visit (rout objects).keys)
  refine check_settled found calm same rfl (last.trans ?_)
  rw [lastTurn,rout,Table.lookup_mapValues,found,lastTurn,found,Option.map_some,Option.map_some,Option.map_some]
  split <;> rfl

theorem AllMark.outdone (marks : AllMark look after) {i : Nat} (outdone : Outdone after i) : Outdone look i := by
  refine outdone.before ?_ ?_ ?_
  · intro b found
    obtain ⟨a,there,one⟩ := marks.back found
    exact ⟨a,there,one.same.2.2.1.symm⟩
  · intro j a found
    obtain ⟨b,there,one⟩ := (marks j).2 a found
    refine ⟨b,there,one.same.2.2.1,one.same.2.1,?_⟩
    intro beaten
    rcases one.2 with ⟨flag,win⟩ | ⟨_,other⟩
    · exact ⟨flag ▸ beaten.1,win ▸ beaten.2⟩
    · exact absurd beaten.2 other
  · intro j b found _
    obtain ⟨a,there,one⟩ := marks.back found
    exact ⟨a,there,one.same.2.2.1.symm,one.same.2.1.symm⟩

theorem lastTurn_rout (i : Nat) : lastTurn (rout objects) i = lastTurn objects i := by
  rw [lastTurn,rout,Table.lookup_mapValues,lastTurn,Option.map_map]
  congr 1
  funext objectInfo
  dsimp only [Function.comp]
  split <;> rfl

theorem Early.check_wins {log : Log} (early : Early (sight objects) log) {i : Nat} {objectInfo : ObjectInfo} (found : objects.lookup i = some objectInfo)
    (alive : ¬objectInfo.armyCount ≤ 0) (outdone : Outdone (sight (rout objects)) i) (wins : objectInfo.exitBattleFlag = true → objectInfo.exitBattleWin = .win)
    (calm : timedOut checks.outOfCombat turn objects i objectInfo = false) :
    ∃ b ∈ sight (check checks turn objects) i, b.exitBattleFlag = true ∧ b.exitBattleWin = .win := by
  have inside : seen objectInfo ∈ sight objects i := Option.map_eq_some_iff.mpr ⟨objectInfo,found,rfl⟩
  have there : sight (rout objects) i = some (seen objectInfo) := by
    have mem := rout_to inside
    rw [routs_alive alive] at mem
    exact mem
  cases flag : objectInfo.exitBattleFlag with
  | true =>
    obtain ⟨same,last⟩ := noTarget_leaving checks turn there flag (checks.order.visit (rout objects).keys)
    exact ⟨_,check_settled found calm same flag (last.trans (lastTurn_rout i)),flag,wins flag⟩
  | false =>
    have ready : Ready (rout objects) i (seen objectInfo) := by
      refine ⟨there,?_,?_⟩
      · intro b mem
        have opposes : Opponent (sight (rout objects)) i (seen objectInfo).attackTargetIndex := ⟨b,mem,.inl ⟨_,there,rfl⟩⟩
        obtain ⟨p,here,beaten⟩ := outdone.2 _ opposes
        cases Option.mem_unique mem here
        exact ⟨beaten.1,early.beaten_down mem beaten⟩
      · intro t b mem lasting its
        have opposes : Opponent (sight (rout objects)) i t := ⟨b,mem,.inr ⟨lasting,its⟩⟩
        obtain ⟨p,here,beaten⟩ := outdone.2 _ opposes
        cases Option.mem_unique mem here
        exact early.beaten_down mem beaten
    obtain ⟨same,last⟩ := noTarget_wins checks turn ready flag
    exact ⟨_,check_settled found calm same rfl (last.trans (lastTurn_rout i)),rfl,rfl⟩

-- Where an object after the checks comes from.
theorem check_from {i : Nat} {b : Seen} (found : b ∈ sight (check checks turn objects) i) :
    ∃ objectInfo, objects.lookup i = some objectInfo ∧ Marks (routs (seen objectInfo)) b := by
  obtain ⟨a,there,one⟩ := (check_marks checks turn objects).back found
  obtain ⟨o,before,rfl⟩ := rout_from there
  obtain ⟨objectInfo,here,rfl⟩ := Option.map_eq_some_iff.mp before
  exact ⟨objectInfo,here,one⟩

-- Those told off before the checks have soldiers, so the rout passes them by.
theorem Early.told_marks {log : Log} (early : Early (sight objects) log) (checks : Checks) (turn : Int) {i : Nat} (telling : log.told i ≠ []) :
    ∃ o ∈ sight objects i, o.exitBattleFlag = true ∧ 2 ≤ o.exitBattleBlockBlag ∧ ∃ b ∈ sight (check checks turn objects) i, Marks o b := by
  obtain ⟨_,_,o,found,leaves,marked,alive⟩ := early.told i telling
  have there := rout_to found
  rw [routs_alive (by omega)] at there
  obtain ⟨b,here,one⟩ := (check_marks checks turn objects i).2 o there
  exact ⟨o,found,leaves,marked,b,here,one⟩

theorem Early.check {log : Log} (early : Early (sight objects) log)
    (orderly : ∀ i, ∀ o ∈ objects.lookup i, (o.armyCount ≤ 0 → timedOut checks.outOfCombat turn objects i o = false) ∧
      (0 < o.armyCount → log.asked i = false → checkArmyWalkStatus o.status = false → Outdone (sight (rout objects)) i →
        (o.exitBattleFlag = true → o.exitBattleWin = .win) ∧ timedOut checks.outOfCombat turn objects i o = false)) :
    Late (sight (check checks turn objects)) .checked {log with routed:=fun i => (objects.lookup i).any isRout} := by
  constructor
  case distinct => exact List.nodup_nil
  case known =>
    intro i telling
    obtain ⟨o,_,leaves,_,b,here,one⟩ := early.told_marks checks turn telling
    exact ⟨b,here,one.leaves leaves⟩
  case once =>
    intro i
    by_cases telling : log.told i = []
    · rw [telling]
      exact Nat.zero_le 1
    · rw [(early.told i telling).1]
      exact Nat.le_refl 1
  case strong =>
    intro i b found marked
    obtain ⟨objectInfo,there,one⟩ := check_from found
    have before : seen objectInfo ∈ sight objects i := Option.map_eq_some_iff.mpr ⟨objectInfo,there,rfl⟩
    refine early.strong i _ before ?_
    rw [one.same.2.2.2.2] at marked
    by_cases down : (seen objectInfo).armyCount ≤ 0
    · rw [routs_down down] at marked
      exact marked
    · rw [routs_alive down] at marked
      exact marked
  case awaits => exact fun _ _ _ _ _ => trivial
  case again =>
    intro i b found telling
    obtain ⟨o,_,_,marked,c,here,one⟩ := early.told_marks checks turn telling
    cases Option.mem_unique here found
    refine .inl ?_
    rw [one.same.2.2.2.2]
    exact marked
  case fails =>
    intro i b found leaves down
    obtain ⟨objectInfo,there,one⟩ := check_from found
    by_cases few : objectInfo.armyCount ≤ 0
    · have fate := check_down there few ((orderly i objectInfo there).1 few)
      cases Option.mem_unique found fate
      rfl
    · have alive : ¬(seen objectInfo).armyCount ≤ 0 := few
      rw [routs_alive alive] at one
      rw [one.same.1] at down
      exact absurd down alive
  case beaten =>
    intro i b found beaten result mem
    obtain ⟨o,before,_,_,c,here,one⟩ := early.told_marks checks turn (List.ne_nil_of_mem mem)
    cases Option.mem_unique here found
    rcases one.2 with ⟨flag,given⟩ | ⟨_,other⟩
    · exact absurd (given.symm.trans beaten.2) (early.leaving i o before (flag.symm.trans beaten.1))
    · exact absurd beaten.2 other
  case lost =>
    intro i mem
    obtain ⟨told,_⟩ := early.told i (List.ne_nil_of_mem mem)
    change BattleResult.fail ∈ log.told i at mem
    rw [told] at mem
    cases List.mem_singleton.mp mem
  case unasked =>
    intro i b found telling calm
    rw [(early.told i telling).2.1] at calm
    cases calm
  case wins =>
    intro i b found standing calm stays outdone
    obtain ⟨objectInfo,there,one⟩ := check_from found
    by_cases down : objectInfo.armyCount ≤ 0
    · have fate := check_down there down ((orderly i objectInfo there).1 down)
      cases Option.mem_unique found fate
      exact absurd ⟨⟨rfl,rfl⟩,down⟩ standing
    · have alive : ¬(seen objectInfo).armyCount ≤ 0 := down
      rw [routs_alive alive] at one
      have status : objectInfo.status = b.status := one.same.2.2.2.1.symm
      have already := (check_marks checks turn objects).outdone outdone
      obtain ⟨wins,inTime⟩ := (orderly i objectInfo there).2 (by omega) calm (by rw [status]; exact stays) already
      obtain ⟨c,here,goes⟩ := early.check_wins there down already wins inTime
      cases Option.mem_unique here found
      exact goes
  case routed =>
    intro i down
    change (objects.lookup i).any isRout = true at down
    cases there : objects.lookup i with
    | none =>
      rw [there] at down
      cases down
    | some objectInfo =>
      rw [there] at down
      have few : objectInfo.armyCount ≤ 0 := of_decide_eq_true down
      exact ⟨_,check_down there few ((orderly i objectInfo there).1 few),rfl,rfl⟩

end checks

end OriginGame.BattleScene
