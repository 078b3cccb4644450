import OriginGame.BattleScene
import OriginGame.Runs

namespace OriginGame.BattleScene

-- What changes the targets and the lists of attackers of a scene. `update` stands for all
-- that changes other fields; `leave` and `remove` end a turn.
inductive Label where
  | objectJoinBattle (turn : Int) (objectIndex : Nat) (objectInfo : ObjectInfo) (targetIndex : Nat)
  | changeAttackTarget (objectIndex newTargetIndex : Nat)
  | removeObjectStopAttack (order : Order Nat) (objectIndex : Nat)
  | multiObjectAddBattle (turn : Int) (objectInfos : Objects) (attackIndex defenseIndex : Nat)
  | attack (order : Order Nat) (inRange : Nat → Nat → Bool) (turn : Int) (attackIndex : Nat)
  | getAttackTarget (order : Order Nat) (inRange : Nat → Nat → Bool) (turn : Int) (objectIndex : Nat)
  | useSkill (objectIndex : Nat) (objectInfo : ObjectInfo) (attackIndex : Nat)
  | update (objectIndex : Nat) (change : ObjectInfo → ObjectInfo)
  | leave (objectIndex : Nat)
  | remove

def step (objects : Objects) : Label → Objects
  | .objectJoinBattle turn objectIndex objectInfo targetIndex => objectJoinBattle turn objects objectIndex objectInfo targetIndex
  | .changeAttackTarget objectIndex newTargetIndex => changeAttackTarget objects objectIndex newTargetIndex
  | .removeObjectStopAttack order objectIndex => removeObjectStopAttack order objects objectIndex
  | .multiObjectAddBattle turn objectInfos attackIndex defenseIndex => multiObjectAddBattle turn objects objectInfos attackIndex defenseIndex
  | .attack order inRange turn attackIndex => attack order inRange turn objects attackIndex
  | .getAttackTarget order inRange turn objectIndex => (getAttackTarget order inRange turn objects objectIndex).2
  | .useSkill objectIndex objectInfo attackIndex => enterBattle objects objectIndex objectInfo attackIndex
  | .update objectIndex change => objects.modify objectIndex (fun objectInfo =>
    {change objectInfo with attackTargetIndex:=objectInfo.attackTargetIndex, allAttackers:=objectInfo.allAttackers})
  | .leave objectIndex => leave objects objectIndex
  | .remove => objects.keepValues (fun objectInfo => !objectInfo.exitBattleFlag)

def Listed (objects : Objects) (targetIndex objectIndex : Nat) : Prop :=
  ∃ targetInfo ∈ objects.lookup targetIndex, objectIndex ∈ targetInfo.allAttackers

def Attacks (objects : Objects) (objectIndex targetIndex : Nat) : Prop :=
  ∃ objectInfo ∈ objects.lookup objectIndex, objectInfo.attackTargetIndex = targetIndex

def Matched (objects : Objects) : Prop := ∀ targetIndex objectIndex, Listed objects targetIndex objectIndex → Attacks objects objectIndex targetIndex

-- No list but that of this target has the object.
def Free (objects : Objects) (objectIndex targetIndex : Nat) : Prop :=
  ∀ objectInfo ∈ objects.lookup objectIndex, objectInfo.attackTargetIndex = targetIndex ∨ ¬Listed objects objectInfo.attackTargetIndex objectIndex

-- Its target is gone, or leaves and does not list it any more.
def Loose (objects : Objects) (objectIndex : Nat) : Prop :=
  ∀ objectInfo ∈ objects.lookup objectIndex, ∀ targetInfo ∈ objects.lookup objectInfo.attackTargetIndex,
    targetInfo.exitBattleFlag = true ∧ objectIndex ∉ targetInfo.allAttackers

-- Its target is not there, leaves, is out of reach and not followed, or has no soldiers.
def lostTarget (inRange : Nat → Nat → Bool) (turn : Int) (objects : Objects) (objectIndex : Nat) (objectInfo : ObjectInfo) : Bool :=
  (objects.lookup objectInfo.attackTargetIndex).all (fun targetInfo => targetInfo.exitBattleFlag ||
    !inRange objectIndex objectInfo.attackTargetIndex && (followUp turn objectIndex objectInfo targetInfo).1 || isDie objects objectInfo.attackTargetIndex)

-- It has lost its target and looks for another, and this one attacks it.
def Turns (inRange : Nat → Nat → Bool) (turn : Int) (objects : Objects) (objectIndex targetIndex : Nat) : Prop :=
  ∃ objectInfo ∈ objects.lookup objectIndex, lostTarget inRange turn objects objectIndex objectInfo = true ∧
    keepsTarget objects objectInfo = false ∧ attacksBack inRange objects objectIndex targetIndex = true

def Fights (objects : Objects) (objectIndex : Nat) : Prop :=
  ∃ objectInfo ∈ objects.lookup objectIndex, objectInfo.tmpObjectFlag = false ∧ checkArmyWalkStatus objectInfo.status = false ∧ isDie objects objectIndex = false

def Tidy (objects : Objects) : Label → Prop
  | .objectJoinBattle _ objectIndex _ targetIndex => targetIndex ∈ objects → Free objects objectIndex targetIndex
  | .changeAttackTarget objectIndex newTargetIndex => Free objects objectIndex newTargetIndex
  | .removeObjectStopAttack _ objectIndex => ∀ objectInfo ∈ objects.lookup objectIndex,
    objectInfo.tmpObjectFlag = false → objectInfo.attackTargetIndex ∉ objects →
      ∀ targetIndex ∈ objects, targetIndex ≠ objectIndex → Attacks objects targetIndex objectIndex
  | .multiObjectAddBattle turn objectInfos attackIndex defenseIndex =>
    (∀ targetIndex ∉ objects, ∀ targetInfo ∈ objectInfos.lookup targetIndex, ∀ objectIndex ∈ targetInfo.allAttackers.keys,
      Attacks (withMerged turn objects objectInfos) objectIndex targetIndex) ∧
    (defenseIndex ∈ withMerged turn objects objectInfos → Free (withMerged turn objects objectInfos) attackIndex defenseIndex)
  | .attack _ inRange turn attackIndex => Fights objects attackIndex → ∀ targetIndex, Turns inRange turn objects attackIndex targetIndex →
    Attacks objects attackIndex targetIndex ∨ Loose objects attackIndex ∧ sameGuild objects attackIndex targetIndex = false
  | .getAttackTarget _ inRange turn objectIndex => ∀ targetIndex, Turns inRange turn objects objectIndex targetIndex →
    Attacks objects objectIndex targetIndex
  | .remove => ∀ objectIndex, ∀ objectInfo ∈ objects.lookup objectIndex, objectInfo.exitBattleFlag = true →
    ∀ targetInfo ∈ objects.lookup objectInfo.attackTargetIndex, targetInfo.exitBattleFlag = false → objectIndex ∉ targetInfo.allAttackers
  | _ => True

section matched
variable {objects after : Objects} {own targetIndex : Nat} {change : ObjectInfo → ObjectInfo}

theorem attacks_modify (same : ∀ objectInfo, (change objectInfo).attackTargetIndex = objectInfo.attackTargetIndex) (k i t : Nat) :
    Attacks (objects.modify k change) i t ↔ Attacks objects i t := by
  unfold Attacks
  rw [Table.lookup_modify]
  split
  · rename_i here
    subst here
    cases objects.lookup i with
    | none => rfl
    | some objectInfo => simp [same]
  · rfl

theorem listed_modify (same : ∀ objectInfo, (change objectInfo).allAttackers = objectInfo.allAttackers) (k i j : Nat) :
    Listed (objects.modify k change) i j ↔ Listed objects i j := by
  unfold Listed
  rw [Table.lookup_modify]
  split
  · rename_i here
    subst here
    cases objects.lookup i with
    | none => rfl
    | some objectInfo => simp [same]
  · rfl

theorem Matched.modify (matched : Matched objects) (target : ∀ objectInfo, (change objectInfo).attackTargetIndex = objectInfo.attackTargetIndex)
    (list : ∀ objectInfo, (change objectInfo).allAttackers = objectInfo.allAttackers) (k : Nat) : Matched (objects.modify k change) := by
  intro i j listed
  rw [listed_modify list] at listed
  rw [attacks_modify target]
  exact matched i j listed

theorem attacks_addAttacker (t j : Nat) (objectType : RoleType) (k i : Nat) :
    Attacks (addAttacker objects t j objectType) k i ↔ Attacks objects k i := by
  rw [addAttacker,attacks_modify]
  exact fun _ => rfl

theorem listed_addAttacker {t j : Nat} {objectType : RoleType} {i k : Nat} (listed : Listed (addAttacker objects t j objectType) i k) :
    Listed objects i k ∨ i = t ∧ k = j := by
  obtain ⟨targetInfo,found,mem⟩ := listed
  rw [addAttacker,Table.lookup_modify] at found
  split at found
  · rename_i here
    subst here
    obtain ⟨before,there,rfl⟩ := Option.map_eq_some_iff.mp found
    rcases AList.mem_insert _ |>.mp mem with rfl | old
    · exact .inr ⟨rfl,rfl⟩
    · exact .inl ⟨before,there,old⟩
  · exact .inl ⟨targetInfo,found,mem⟩

theorem addAttacker_matched {t j : Nat} (matched : Matched objects) (attacks : Attacks objects j t) (objectType : RoleType) :
    Matched (addAttacker objects t j objectType) := by
  intro i k listed
  rw [attacks_addAttacker]
  rcases listed_addAttacker listed with before | ⟨rfl,rfl⟩
  · exact matched i k before
  · exact attacks

theorem attacks_setTarget {k t i j : Nat} (attacks : Attacks objects i j) (other : i ≠ k) : Attacks (setTarget objects k t) i j := by
  obtain ⟨objectInfo,found,same⟩ := attacks
  exact ⟨objectInfo,(Table.lookup_modify_ne _ _ other).trans found,same⟩

theorem setTarget_attacks (there : own ∈ objects) (t : Nat) : Attacks (setTarget objects own t) own t := by
  obtain ⟨objectInfo,found⟩ := Table.lookup_of_mem there
  refine ⟨{objectInfo with attackTargetIndex:=t},?_,rfl⟩
  rw [setTarget,Table.lookup_modify_self,found]
  rfl

theorem listed_setTarget (k t i j : Nat) : Listed (setTarget objects k t) i j ↔ Listed objects i j := by
  rw [setTarget,listed_modify]
  exact fun _ => rfl

-- One object has a new target; what is new on a list attacks its owner.
theorem Matched.retarget (matched : Matched objects) (free : Free objects own targetIndex)
    (lists : ∀ i k, Listed after i k → Listed objects i k ∨ Attacks after k i) (attacks : Attacks after own targetIndex)
    (others : ∀ k ≠ own, ∀ i, Attacks objects k i → Attacks after k i) : Matched after := by
  intro i k listed
  rcases lists i k listed with before | attacked
  · have attacked := matched i k before
    by_cases same : k = own
    · subst same
      obtain ⟨objectInfo,found,rfl⟩ := attacked
      rcases free objectInfo found with its | unlisted
      · rw [its]
        exact attacks
      · exact absurd before unlisted
    · exact others k same i attacked
  · exact attacked

theorem mem_modify {k j : Nat} : j ∈ objects.modify k change ↔ j ∈ objects := by
  rw [← AList.lookup_isSome,← AList.lookup_isSome,Table.lookup_modify]
  split
  · rename_i same
    rw [same,Option.isSome_map]
  · rfl

end matched

section steps
variable {objects : Objects} {own : Nat} {objectInfo : ObjectInfo} {order : Order Nat} {inRange : Nat → Nat → Bool} {turn : Int}

theorem Attacks.free {targetIndex : Nat} (attacks : Attacks objects own targetIndex) : Free objects own targetIndex := by
  obtain ⟨objectInfo,found,same⟩ := attacks
  intro other there
  rw [found] at there
  cases there
  exact .inl same

theorem Loose.free (loose : Loose objects own) (targetIndex : Nat) : Free objects own targetIndex := by
  intro objectInfo found
  refine .inr ?_
  rintro ⟨targetInfo,there,mem⟩
  exact (loose objectInfo found targetInfo there).2 mem

-- Objects that are in the scene have room for an index that is not.
theorem Matched.insert {targetIndex : Nat} (matched : Matched objects) (absent : targetIndex ∉ objects) {new : ObjectInfo}
    (lists : ∀ k ∈ new.allAttackers, Attacks (objects.insert targetIndex new) k targetIndex) : Matched (objects.insert targetIndex new) := by
  rintro i k ⟨targetInfo,found,mem⟩
  rcases Table.found_insert found with ⟨rfl,rfl⟩ | ⟨_,found⟩
  · exact lists k mem
  · obtain ⟨info,there,its⟩ := matched i k ⟨targetInfo,found,mem⟩
    refine ⟨info,?_,its⟩
    have other : k ≠ targetIndex := by
      rintro rfl
      exact absent (mem_of_found there)
    exact (AList.lookup_insert_ne other).trans there

theorem join_matched (matched : Matched objects) (new : ObjectInfo) (targetIndex : Nat) (free : targetIndex ∈ objects → Free objects own targetIndex) :
    Matched (objectJoinBattle turn objects own new targetIndex) := by
  unfold objectJoinBattle
  split
  · rename_i there
    have joined : Attacks (addAttacker (objects.insert own {defaultObjectInfo new with attackTargetIndex:=targetIndex, lastBattleTurn:=turn})
        targetIndex own new.objectType) own targetIndex := (attacks_addAttacker _ _ _ _ _).mpr ⟨_,AList.lookup_insert _,rfl⟩
    refine matched.retarget (free there) ?_ joined ?_
    · intro i k listed
      rcases listed_addAttacker listed with ⟨targetInfo,found,mem⟩ | ⟨rfl,rfl⟩
      · rcases Table.found_insert found with ⟨rfl,rfl⟩ | ⟨_,found⟩
        · exact absurd mem (AList.notMem_empty k)
        · exact .inl ⟨targetInfo,found,mem⟩
      · exact .inr joined
    · rintro k other i ⟨info,found,same⟩
      exact (attacks_addAttacker _ _ _ _ _).mpr ⟨info,(AList.lookup_insert_ne other).trans found,same⟩
  · exact matched

theorem retarget_matched (matched : Matched objects) (there : own ∈ objects) {targetIndex : Nat} (free : Free objects own targetIndex)
    (objectType : RoleType) : Matched (addAttacker (setTarget objects own targetIndex) targetIndex own objectType) := by
  have attacks : Attacks (addAttacker (setTarget objects own targetIndex) targetIndex own objectType) own targetIndex :=
    (attacks_addAttacker _ _ _ _ _).mpr (setTarget_attacks there _)
  refine matched.retarget free ?_ attacks ?_
  · intro i k listed
    rcases listed_addAttacker listed with before | ⟨rfl,rfl⟩
    · exact .inl ((listed_setTarget _ _ _ _).mp before)
    · exact .inr attacks
  · intro k other i attacked
    exact (attacks_addAttacker _ _ _ _ _).mpr (attacks_setTarget attacked other)

theorem changeAttackTarget_matched (matched : Matched objects) {newTargetIndex : Nat} (free : Free objects own newTargetIndex) :
    Matched (changeAttackTarget objects own newTargetIndex) := by
  unfold changeAttackTarget
  split
  · exact matched
  · rename_i info found
    have lasting : Matched (objects.modify own (fun objectInfo => {objectInfo with tmpObjectFlag:=false})) := by
      refine matched.modify ?_ ?_ own
      · intro _
        rfl
      · intro _
        rfl
    refine retarget_matched lasting (mem_modify.mpr (mem_of_found found)) ?_ _
    intro other there
    rw [Table.lookup_modify_self,found] at there
    cases there
    rcases free info found with its | unlisted
    · exact .inl its
    · refine .inr ?_
      rw [listed_modify]
      · exact unlisted
      · exact fun _ => rfl

-- Two objects on the list of each other.
theorem facing_matched (matched : Matched objects) (there : own ∈ objects) {targetIndex : Nat} (free : Free objects own targetIndex)
    (other : targetIndex ≠ own) (back : Attacks objects targetIndex own) (first second : RoleType) :
    Matched (setTarget (addAttacker (addAttacker objects targetIndex own first) own targetIndex second) own targetIndex) := by
  have kept : ∀ k ≠ own, ∀ i, Attacks objects k i →
      Attacks (setTarget (addAttacker (addAttacker objects targetIndex own first) own targetIndex second) own targetIndex) k i := by
    intro k apart i attacked
    refine attacks_setTarget ?_ apart
    rw [attacks_addAttacker,attacks_addAttacker]
    exact attacked
  have attacks : Attacks (setTarget (addAttacker (addAttacker objects targetIndex own first) own targetIndex second) own targetIndex) own targetIndex := by
    apply setTarget_attacks
    exact mem_modify.mpr (mem_modify.mpr there)
  refine matched.retarget free ?_ attacks kept
  intro i k listed
  rw [listed_setTarget] at listed
  rcases listed_addAttacker listed with one | ⟨rfl,rfl⟩
  · rcases listed_addAttacker one with before | ⟨rfl,rfl⟩
    · exact .inl before
    · exact .inr attacks
  · exact .inr (kept k other i back)

theorem removeObjectStopAttack_matched (matched : Matched objects)
    (back : ∀ objectInfo ∈ objects.lookup own, objectInfo.tmpObjectFlag = false → objectInfo.attackTargetIndex ∉ objects →
      ∀ targetIndex ∈ objects, targetIndex ≠ own → Attacks objects targetIndex own) : Matched (removeObjectStopAttack order objects own) := by
  unfold removeObjectStopAttack
  split
  · exact matched
  · rename_i info found
    split
    · exact matched
    · rename_i lasting
      split
      · exact matched
      · rename_i gone
        split
        · exact matched
        · rename_i targetIndex picked
          unfold anyTarget at picked
          have differs := List.find?_some picked
          have other : targetIndex ≠ own := of_decide_eq_true differs
          have inside : targetIndex ∈ objects := order.mem_visit.mp (List.mem_of_find?_eq_some picked)
          have backs := back info found (Bool.eq_false_iff.mpr lasting) gone targetIndex inside other
          have free : Free objects own targetIndex := by
            intro mine here
            rw [found] at here
            cases here
            refine .inr ?_
            rintro ⟨_,missing,_⟩
            exact gone (mem_of_found missing)
          obtain ⟨targetInfo,there,same⟩ := backs
          dsimp only
          rw [there,Option.elim_some]
          exact facing_matched matched (mem_of_found found) free other ⟨targetInfo,there,same⟩ _ _

theorem multiObjectAddBattle_matched (matched : Matched objects) {objectInfos : Objects} {attackIndex defenseIndex : Nat}
    (lists : ∀ targetIndex ∉ objects, ∀ targetInfo ∈ objectInfos.lookup targetIndex, ∀ objectIndex ∈ targetInfo.allAttackers.keys,
      Attacks (withMerged turn objects objectInfos) objectIndex targetIndex)
    (free : defenseIndex ∈ withMerged turn objects objectInfos → Free (withMerged turn objects objectInfos) attackIndex defenseIndex) :
    Matched (multiObjectAddBattle turn objects objectInfos attackIndex defenseIndex) := by
  have both : Matched (withMerged turn objects objectInfos) := by
    rintro i k ⟨targetInfo,found,mem⟩
    rw [withMerged,Table.lookup_addMissing] at found
    cases there : objects.lookup i with
    | none =>
      rw [there,Option.none_or,Table.lookup_mapValues] at found
      obtain ⟨before,came,rfl⟩ := Option.map_eq_some_iff.mp found
      exact lists i (AList.lookup_eq_none.mp there) before came k mem
    | some info =>
      rw [there,Option.some_or] at found
      cases found
      obtain ⟨objectInfo,here,same⟩ := matched i k ⟨targetInfo,there,mem⟩
      refine ⟨objectInfo,?_,same⟩
      rw [withMerged,Table.lookup_addMissing,Option.mem_def.mp here,Option.some_or]
      rfl
  unfold multiObjectAddBattle
  dsimp only
  split
  · rename_i found there
    exact retarget_matched both (mem_of_found found) (free (mem_of_found there)) _
  · exact both

-- The old target of the object is listed where it attacks.
theorem oldTarget_matched (matched : Matched objects) (found : objects.lookup own = some objectInfo) :
    Matched (oldTarget inRange turn objects own objectInfo).2.2 := by
  have listed := addAttacker_matched matched ⟨objectInfo,found,rfl⟩ objectInfo.objectType
  unfold oldTarget
  split
  · exact matched
  · split
    · exact matched
    · dsimp only
      split
      · exact listed
      · refine listed.modify ?_ ?_ own
        · intro _
          rfl
        · intro _
          rfl

theorem oldTarget_attacks (k i : Nat) : Attacks (oldTarget inRange turn objects own objectInfo).2.2 k i ↔ Attacks objects k i := by
  unfold oldTarget
  split
  · rfl
  · split
    · rfl
    · dsimp only
      split
      · exact attacks_addAttacker _ _ _ _ _
      · rw [attacks_modify]
        · exact attacks_addAttacker _ _ _ _ _
        · exact fun _ => rfl

theorem Loose.oldTarget_same (loose : Loose objects own) (found : objects.lookup own = some objectInfo) :
    (oldTarget inRange turn objects own objectInfo).2.2 = objects := by
  unfold oldTarget
  split
  · rfl
  · rename_i targetInfo there
    rw [if_pos (loose objectInfo found targetInfo there).1]

theorem oldTarget_lost (lost : (oldTarget inRange turn objects own objectInfo).1.filter (fun targetIndex => !isDie objects targetIndex) = none) :
    lostTarget inRange turn objects own objectInfo = true := by
  unfold lostTarget
  unfold oldTarget at lost
  cases found : objects.lookup objectInfo.attackTargetIndex with
  | none => rfl
  | some targetInfo =>
    rw [found] at lost
    rw [Option.all_some]
    dsimp only at lost
    split at lost
    · rename_i leaves
      rw [leaves,Bool.true_or,Bool.true_or]
    · split at lost
      · cases died : isDie objects objectInfo.attackTargetIndex with
        | true => exact Bool.or_true _
        | false => simp [died] at lost
      · rename_i far
        rw [Bool.eq_false_iff.mpr far]
        cases dropped : (followUp turn own objectInfo targetInfo).1 with
        | true => simp
        | false =>
          cases died : isDie objects objectInfo.attackTargetIndex with
          | true => exact Bool.or_true _
          | false => simp [died,dropped] at lost

-- Without a new target only the old one has been looked at.
theorem getAttackTarget_result (order : Order Nat) (inRange : Nat → Nat → Bool) (turn : Int) (found : objects.lookup own = some objectInfo) :
    ((∀ target ∈ (getAttackTarget order inRange turn objects own).1, target.newTarget = false) ∧
      (getAttackTarget order inRange turn objects own).2 = (oldTarget inRange turn objects own objectInfo).2.2) ∨
    ∃ targetIndex, Turns inRange turn objects own targetIndex ∧ getAttackTarget order inRange turn objects own =
      (some ⟨targetIndex,true,false⟩,addAttacker (oldTarget inRange turn objects own objectInfo).2.2 targetIndex own objectInfo.objectType) := by
  unfold getAttackTarget
  rw [found]
  dsimp only
  split
  · refine .inl ⟨?_,rfl⟩
    intro target is
    cases is
    rfl
  · rename_i lost
    simp only [isDie_oldTarget] at lost
    split
    · exact .inl ⟨nofun,rfl⟩
    · rename_i keeps
      split
      · rename_i targetIndex picked
        have back := List.find?_some picked
        rw [attacksBack_oldTarget] at back
        exact .inr ⟨targetIndex,⟨objectInfo,found,oldTarget_lost lost,Bool.eq_false_iff.mpr keeps,back⟩,rfl⟩
      · exact .inl ⟨nofun,rfl⟩

theorem getAttackTarget_matched (matched : Matched objects) (old : ∀ targetIndex, Turns inRange turn objects own targetIndex → Attacks objects own targetIndex) :
    Matched (getAttackTarget order inRange turn objects own).2 := by
  cases found : objects.lookup own with
  | none =>
    unfold getAttackTarget
    rw [found]
    exact matched
  | some objectInfo =>
    have looked : Matched (oldTarget inRange turn objects own objectInfo).2.2 := oldTarget_matched matched found
    rcases getAttackTarget_result order inRange turn found with ⟨_,same⟩ | ⟨targetIndex,turns,same⟩
    · rw [same]
      exact looked
    · rw [same]
      refine addAttacker_matched looked ?_ _
      rw [oldTarget_attacks]
      exact old targetIndex turns

theorem leaveBattle_matched (matched : Matched objects) (own : Nat) : Matched (leaveBattle objects own) := by
  unfold leaveBattle
  refine matched.modify ?_ ?_ own
  · intro _
    rfl
  · intro _
    rfl

-- A new target, after the object has been put on its list.
theorem taken_matched (matched : Matched objects) (there : own ∈ objects) {targetIndex : Nat} (free : Free objects own targetIndex)
    (objectType : RoleType) : Matched (setTarget (addAttacker objects targetIndex own objectType) own targetIndex) := by
  have attacks : Attacks (setTarget (addAttacker objects targetIndex own objectType) own targetIndex) own targetIndex := by
    apply setTarget_attacks
    exact mem_modify.mpr there
  refine matched.retarget free ?_ attacks ?_
  · intro i k listed
    rw [listed_setTarget] at listed
    rcases listed_addAttacker listed with before | ⟨rfl,rfl⟩
    · exact .inl before
    · exact .inr attacks
  · intro k other i attacked
    refine attacks_setTarget ?_ other
    rw [attacks_addAttacker]
    exact attacked

theorem attack_matched (matched : Matched objects)
    (tidy : Fights objects own → ∀ targetIndex, Turns inRange turn objects own targetIndex →
      Attacks objects own targetIndex ∨ Loose objects own ∧ sameGuild objects own targetIndex = false) :
    Matched (attack order inRange turn objects own) := by
  unfold attack
  split
  · exact matched
  · rename_i objectInfo found
    split
    · exact matched
    · rename_i idle
      simp only [Bool.or_eq_true,not_or,Bool.not_eq_true] at idle
      have fights : Fights objects own := ⟨objectInfo,found,idle.1.1,idle.1.2,idle.2⟩
      have looked : Matched (oldTarget inRange turn objects own objectInfo).2.2 := oldTarget_matched matched found
      rcases getAttackTarget_result order inRange turn found with ⟨old,same⟩ | ⟨targetIndex,turns,same⟩
      · -- the old target, or none
        cases result : getAttackTarget order inRange turn objects own with
        | mk target after =>
          rw [result] at old same
          cases same
          cases target with
          | none =>
            dsimp only
            split
            · exact leaveBattle_matched looked own
            · exact looked
          | some target =>
            dsimp only
            rw [old target rfl,Bool.false_and,if_neg Bool.false_ne_true]
            exact looked
      · rw [same]
        dsimp only
        rcases tidy fights targetIndex turns with attacks | ⟨loose,guild⟩
        · have its : Attacks (oldTarget inRange turn objects own objectInfo).2.2 own targetIndex := (oldTarget_attacks _ _).mpr attacks
          split
          · obtain ⟨info,there,_⟩ := id its
            exact taken_matched looked (mem_of_found there) its.free _
          · exact addAttacker_matched looked its _
        · rw [loose.oldTarget_same found,guild]
          exact taken_matched matched (mem_of_found found) (loose.free targetIndex) _

theorem leave_matched (matched : Matched objects) (own : Nat) : Matched (leave objects own) := by
  unfold leave
  cases objects.lookup own with
  | none => exact matched
  | some objectInfo =>
    rintro i k ⟨targetInfo,found,mem⟩
    rw [Option.elim_some,removeAttacker,Table.lookup_modify] at found
    rw [Option.elim_some,removeAttacker,attacks_modify]
    case same => exact fun _ => rfl
    split at found
    · rename_i here
      subst here
      obtain ⟨before,there,rfl⟩ := Option.map_eq_some_iff.mp found
      exact matched _ k ⟨before,there,(AList.mem_erase.mp mem).2⟩
    · exact matched i k ⟨targetInfo,found,mem⟩

theorem remove_matched (matched : Matched objects)
    (gone : ∀ objectIndex, ∀ objectInfo ∈ objects.lookup objectIndex, objectInfo.exitBattleFlag = true →
      ∀ targetInfo ∈ objects.lookup objectInfo.attackTargetIndex, targetInfo.exitBattleFlag = false → objectIndex ∉ targetInfo.allAttackers) :
    Matched (objects.keepValues (fun objectInfo => !objectInfo.exitBattleFlag)) := by
  rintro i k ⟨targetInfo,found,mem⟩
  rw [Table.lookup_keepValues] at found
  obtain ⟨there,stays⟩ := Option.filter_eq_some_iff.mp found
  obtain ⟨objectInfo,here,rfl⟩ := matched i k ⟨targetInfo,there,mem⟩
  refine ⟨objectInfo,?_,rfl⟩
  rw [Table.lookup_keepValues]
  refine Option.filter_eq_some_iff.mpr ⟨here,?_⟩
  cases flag : objectInfo.exitBattleFlag with
  | false => rfl
  | true => exact absurd mem (gone k objectInfo here flag targetInfo there (by simpa using stays))

theorem step_matched (matched : Matched objects) (label : Label) (tidy : Tidy objects label) : Matched (step objects label) := by
  cases label with
  | objectJoinBattle turn own new targetIndex => exact join_matched matched new targetIndex tidy
  | changeAttackTarget own newTargetIndex => exact changeAttackTarget_matched matched tidy
  | removeObjectStopAttack order own => exact removeObjectStopAttack_matched matched tidy
  | multiObjectAddBattle turn objectInfos attackIndex defenseIndex => exact multiObjectAddBattle_matched matched tidy.1 tidy.2
  | attack order inRange turn own => exact attack_matched matched tidy
  | getAttackTarget order inRange turn own => exact getAttackTarget_matched matched tidy
  | useSkill own new attackIndex =>
    rw [step,enterBattle]
    split
    · exact matched
    · rename_i absent
      refine matched.insert absent ?_
      intro k mem
      exact absurd mem (AList.notMem_empty k)
  | update own change =>
    refine matched.modify ?_ ?_ own
    · intro _
      rfl
    · intro _
      rfl
  | leave own => exact leave_matched matched own
  | remove => exact remove_matched matched tidy

end steps

theorem createBattle_matched (objectInfos : Objects) : Matched (createBattle objectInfos) := by
  rintro i k ⟨targetInfo,found,mem⟩
  rw [createBattle,Table.lookup_mapValues] at found
  obtain ⟨_,_,rfl⟩ := Option.map_eq_some_iff.mp found
  exact absurd mem (AList.notMem_empty k)

theorem attackers_attack {objectInfos objects : Objects} {labels : List Label}
    (path : Runs (Guarded (fun objects label next => next = step objects label) Tidy) (createBattle objectInfos) labels objects) :
    ∀ targetIndex, ∀ targetInfo ∈ objects.lookup targetIndex, ∀ objectIndex ∈ targetInfo.allAttackers,
      ∃ objectInfo ∈ objects.lookup objectIndex, objectInfo.attackTargetIndex = targetIndex := by
  have matched : Matched objects := by
    refine path.invariant ?_ (createBattle_matched objectInfos)
    rintro before label after matched ⟨rfl,tidy⟩
    exact step_matched matched label tidy
  intro i targetInfo found k mem
  exact matched i k ⟨targetInfo,found,mem⟩

-- The first attacks, a third joins against it, and the second changes over to the third.
def fought : List Label := [.getAttackTarget .stored (fun _ _ => true) 1 1,.objectJoinBattle 1 3 (column 0) 1,.changeAttackTarget 2 3]

theorem duel_attack : ∃ objectInfo ∈ (fought.foldl step (createBattle duel)).lookup 2, objectInfo.attackTargetIndex = 3 := by
  refine @attackers_attack duel _ fought ?_ 3 _ rfl 2 (by decide)
  refine .more ⟨rfl,?_⟩ (.more ⟨rfl,?_⟩ (.more ⟨rfl,?_⟩ .done))
  · rintro targetIndex ⟨objectInfo,found,lost,_⟩
    cases found
    change false = true at lost
    cases lost
  · intro _ objectInfo found
    cases found
  · intro objectInfo found
    cases found
    refine .inr ?_
    rintro ⟨targetInfo,there,mem⟩
    cases there
    revert mem
    decide

-- The first, on the list of its target, changes over to a third.
theorem change_stays_listed : ¬∀ (objectInfos objects : Objects) (labels : List Label),
    Runs (fun objects label next => next = step objects label) (createBattle objectInfos) labels objects →
    ∀ targetIndex, ∀ targetInfo ∈ objects.lookup targetIndex, ∀ objectIndex ∈ targetInfo.allAttackers,
      ∃ objectInfo ∈ objects.lookup objectIndex, objectInfo.attackTargetIndex = targetIndex := by
  intro all
  have listed := all duel _ [.getAttackTarget .stored (fun _ _ => true) 1 1,.objectJoinBattle 1 3 (column 0) 1,.changeAttackTarget 1 3]
    (.more rfl (.more rfl (.more rfl .done))) 2 _ rfl 1 (by decide)
  obtain ⟨objectInfo,found,same⟩ := listed
  cases found
  revert same
  decide

end OriginGame.BattleScene
