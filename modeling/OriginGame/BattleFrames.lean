import OriginGame.BattleLosses

namespace OriginGame.Battle
open BattleObject

variable {o p q : BattleObject} {id : SoldierId} {m n : Member} {ref : Ref}

-- p differs from o only in the members' tables and in the soldierInfo tables they hold.
structure MembersOnly (o p : BattleObject) : Prop where
  rest : p = {o with rallySoldiers:=p.rallySoldiers, rallySoldierHurt:=p.rallySoldierHurt, cell:=p.cell}
  refs : ∀ {m i ref}, p.memberRef m i = some ref → o.memberRef m i = some ref
  cells : ∀ {ref}, (∀ m i, o.memberRef m i ≠ some ref) → p.cell ref = o.cell ref

namespace MembersOnly

theorem refl (o : BattleObject) : MembersOnly o o := ⟨rfl,id,fun _ => rfl⟩

theorem trans (left : MembersOnly o p) (right : MembersOnly p q) : MembersOnly o q where
  rest := by
    have one := left.rest
    have two := right.rest
    rw [one] at two
    exact two
  refs found := left.refs (right.refs found)
  cells unheld := (right.cells (fun m i found => unheld m i (left.refs found))).trans (left.cells unheld)

theorem soldiers (frame : MembersOnly o p) : p.soldiers = o.soldiers := by rw [frame.rest]
theorem soldierHurt (frame : MembersOnly o p) : p.soldierHurt = o.soldierHurt := by rw [frame.rest]
theorem detailed (frame : MembersOnly o p) : p.detailed = o.detailed := by rw [frame.rest]; rfl

theorem unshared (frame : MembersOnly o p) (unshared : Unshared o) : Unshared p :=
  unshared.shrink (fun found => frame.soldiers ▸ found) frame.refs

theorem num (frame : MembersOnly o p) (unshared : Unshared o) (id : SoldierId) : p.num id = o.num id := by
  cases found : o.soldiers.lookup id with
  | none => rw [num_missing found,num_missing (frame.soldiers ▸ found)]
  | some ref =>
    have same : p.cell ref = o.cell ref := frame.cells (fun m i => unshared.apart found)
    rw [num_of_cell found,num_of_cell (frame.soldiers ▸ found),same]

end MembersOnly

-- p differs from o in soldiers, the tables it holds and the records of losses; entries
-- may have been removed, and the members are left alone.
structure SoldiersOnly (o p : BattleObject) : Prop where
  objectType : p.objectType = o.objectType
  detailed : p.detailed = o.detailed
  rallySoldiers : p.rallySoldiers = o.rallySoldiers
  rallySoldierHurt : p.rallySoldierHurt = o.rallySoldierHurt
  fresh : p.fresh = o.fresh
  refs : ∀ {i ref}, p.soldiers.lookup i = some ref → o.soldiers.lookup i = some ref
  cells : ∀ {ref}, (∀ i, o.soldiers.lookup i ≠ some ref) → p.cell ref = o.cell ref

namespace SoldiersOnly

theorem refl (o : BattleObject) : SoldiersOnly o o := ⟨rfl,rfl,rfl,rfl,rfl,fun found => found,fun _ => rfl⟩

theorem trans (left : SoldiersOnly o p) (right : SoldiersOnly p q) : SoldiersOnly o q where
  objectType := right.objectType.trans left.objectType
  detailed := right.detailed.trans left.detailed
  rallySoldiers := right.rallySoldiers.trans left.rallySoldiers
  rallySoldierHurt := right.rallySoldierHurt.trans left.rallySoldierHurt
  fresh := right.fresh.trans left.fresh
  refs found := left.refs (right.refs found)
  cells unheld := (right.cells (fun i found => unheld i (left.refs found))).trans (left.cells unheld)

theorem memberRef (frame : SoldiersOnly o p) : p.memberRef = o.memberRef := by
  unfold BattleObject.memberRef
  rw [frame.rallySoldiers]

theorem memberHurt (frame : SoldiersOnly o p) : p.memberHurt = o.memberHurt := by
  unfold BattleObject.memberHurt
  rw [frame.rallySoldierHurt]

theorem unshared (frame : SoldiersOnly o p) (unshared : Unshared o) : Unshared p :=
  unshared.shrink frame.refs (fun found => frame.memberRef ▸ found)

theorem memberCount (frame : SoldiersOnly o p) (unshared : Unshared o) (m : Member) (id : SoldierId) :
    p.memberCount m id = o.memberCount m id := by
  unfold BattleObject.memberCount
  rw [frame.memberRef]
  cases found : o.memberRef m id with
  | none => rfl
  | some ref =>
    have same : p.cell ref = o.cell ref := frame.cells (fun i held => unshared.apart held found)
    simp [same]

end SoldiersOnly

-- MembersOnly with one kind of soldier named: nothing of another kind changes.
structure KindOnly (id : SoldierId) (o p : BattleObject) : Prop where
  rest : p = {o with rallySoldiers:=p.rallySoldiers, rallySoldierHurt:=p.rallySoldierHurt, cell:=p.cell}
  refs : ∀ {m j}, j ≠ id → p.memberRef m j = o.memberRef m j
  kind : ∀ {m ref}, p.memberRef m id = some ref → o.memberRef m id = some ref
  hurts : ∀ {m j}, j ≠ id → p.memberHurt m j = o.memberHurt m j
  cells : ∀ {ref}, (∀ m, o.memberRef m id ≠ some ref) → p.cell ref = o.cell ref

namespace KindOnly

theorem refl (id : SoldierId) (o : BattleObject) : KindOnly id o o :=
  ⟨rfl,fun _ => rfl,fun found => found,fun _ => rfl,fun _ => rfl⟩

theorem trans (left : KindOnly id o p) (right : KindOnly id p q) : KindOnly id o q where
  rest := by
    have one := left.rest
    have two := right.rest
    rw [one] at two
    exact two
  refs other := (right.refs other).trans (left.refs other)
  kind found := left.kind (right.kind found)
  hurts other := (right.hurts other).trans (left.hurts other)
  cells unheld := (right.cells (fun m found => unheld m (left.kind found))).trans (left.cells unheld)

theorem membersOnly (frame : KindOnly id o p) : MembersOnly o p where
  rest := frame.rest
  refs {m i ref} found := by
    by_cases same : i = id
    · subst same; exact frame.kind found
    · rwa [frame.refs same] at found
  cells unheld := frame.cells (fun m => unheld m id)

theorem memberCount (frame : KindOnly id o p) (unshared : Unshared o) (other : j ≠ id) (m : Member) :
    p.memberCount m j = o.memberCount m j := by
  unfold BattleObject.memberCount
  rw [frame.refs other]
  cases found : o.memberRef m j with
  | none => rfl
  | some ref =>
    have same : p.cell ref = o.cell ref :=
      frame.cells (fun n held => other (unshared.members found held).2)
    simp [same]

end KindOnly

theorem setNum_soldiersOnly (held : o.soldiers.lookup id = some ref) (n : Int) : SoldiersOnly o (o.setNum ref n) :=
  ⟨rfl,rfl,rfl,rfl,rfl,fun found => found,fun unheld => cell_setNum_ne o n (fun same => unheld id (same ▸ held))⟩

theorem hurtKind_lookup (found : (hurtKind loss attackIndex extra o id ref points).soldiers.lookup j = some held) :
    o.soldiers.lookup j = some held := by
  change (if _ ≤ (0 : Int) then o.soldiers.erase id else o.soldiers).lookup j = some held at found
  split at found
  · exact (Table.found_erase found).2
  · exact found

theorem hurtKind_soldiersOnly (held : o.soldiers.lookup id = some ref) :
    SoldiersOnly o (hurtKind loss attackIndex extra o id ref points) :=
  ⟨rfl,rfl,rfl,rfl,rfl,hurtKind_lookup,fun unheld => cell_setNum_ne o _ (fun same => unheld id (same ▸ held))⟩

theorem memberHurt_setMemberHurt (o : BattleObject) (m : Member) (id : SoldierId) (hurt : Hurt) (n : Member)
    (j : SoldierId) : (o.setMemberHurt m id hurt).memberHurt n j = if n = m ∧ j = id then some hurt else o.memberHurt n j := by
  unfold BattleObject.memberHurt setMemberHurt
  by_cases member : n = m
  · subst member
    simp only [AList.lookup_insert,Option.bind_some,true_and]
    by_cases kind : j = id
    · subst kind; simp
    · rw [if_neg kind,AList.lookup_insert_ne kind]
      cases o.rallySoldierHurt.lookup n <;> simp
  · rw [if_neg (fun both => member both.1)]
    simp [AList.lookup_insert_ne member]

theorem memberRef_dropMemberKind (o : BattleObject) (m : Member) (id : SoldierId) (n : Member) (j : SoldierId) :
    (o.dropMemberKind m id).memberRef n j = if n = m ∧ j = id then none else o.memberRef n j := by
  unfold dropMemberKind
  cases table : o.rallySoldiers.lookup m with
  | none =>
    by_cases both : n = m ∧ j = id
    · obtain ⟨rfl,rfl⟩ := both
      simp [BattleObject.memberRef,table]
    · rw [if_neg both]
  | some kinds =>
    dsimp only
    have erased : ∀ k, (kinds.erase id).lookup k = if k = id then none else kinds.lookup k := by
      intro k
      by_cases same : k = id
      · subst same; simp
      · rw [if_neg same,AList.lookup_erase_ne same]
    by_cases member : n = m
    · subst member
      have found : o.memberRef n j = kinds.lookup j := by simp [BattleObject.memberRef,table]
      simp only [true_and,found,← erased]
      split
      · rename_i empty
        have none : (kinds.erase id).lookup j = none := by
          rw [AList.lookup_eq_none,AList.mem_keys,List.isEmpty_iff.mp empty]
          exact List.not_mem_nil
        simp [BattleObject.memberRef,none]
      · rw [memberRef_setSlot,if_pos rfl]
    · have apart : ¬ (n = m ∧ j = id) := fun both => member both.1
      simp only [if_neg apart]
      split
      · simp [BattleObject.memberRef,AList.lookup_erase_ne member]
      · rw [memberRef_setSlot,if_neg member]

theorem dropMemberKind_rest (o : BattleObject) (m : Member) (id : SoldierId) :
    o.dropMemberKind m id = {o with rallySoldiers:=(o.dropMemberKind m id).rallySoldiers} := by
  unfold dropMemberKind
  split
  · rfl
  · dsimp only
    split <;> rfl

theorem setMemberHurt_kindOnly (o : BattleObject) (m : Member) (id : SoldierId) (hurt : Hurt) :
    KindOnly id o (o.setMemberHurt m id hurt) where
  rest := rfl
  refs _ := rfl
  kind found := found
  hurts {n j} other := by rw [memberHurt_setMemberHurt,if_neg (fun both => other both.2)]
  cells _ := rfl

theorem setNum_kindOnly (held : o.memberRef m id = some ref) (n : Int) : KindOnly id o (o.setNum ref n) where
  rest := rfl
  refs _ := rfl
  kind found := found
  hurts _ := rfl
  cells unheld := cell_setNum_ne o n (fun same => unheld m (same ▸ held))

theorem dropMemberKind_kindOnly (o : BattleObject) (m : Member) (id : SoldierId) :
    KindOnly id o (o.dropMemberKind m id) where
  rest := by rw [dropMemberKind_rest]
  refs {n j} other := by rw [memberRef_dropMemberKind,if_neg (fun both => other both.2)]
  kind {n ref} found := by
    rw [memberRef_dropMemberKind] at found
    split at found
    · cases found
    · exact found
  hurts _ := by rw [dropMemberKind_rest]; rfl
  cells _ := by rw [dropMemberKind_rest]

theorem settleMember_kindOnly (held : o.memberRef m id = some ref) (n : Int) :
    KindOnly id o (settleMember o m id ref n) := by
  unfold settleMember
  dsimp only
  split
  · exact (setNum_kindOnly held n).trans (dropMemberKind_kindOnly _ _ _)
  · exact setNum_kindOnly held n

-- The record of a member's losses and then its count.
theorem writeMember_kindOnly (held : o.memberRef m id = some ref) (hurt : Hurt) (n : Int) :
    KindOnly id o (settleMember (o.setMemberHurt m id hurt) m id ref n) := by
  have kept : (o.setMemberHurt m id hurt).memberRef m id = some ref := held
  exact (setMemberHurt_kindOnly o m id hurt).trans (settleMember_kindOnly kept n)

theorem raiseMember_kindOnly (held : o.memberRef m id = some ref) (hurt : Hurt) (n : Int) :
    KindOnly id o ((o.setMemberHurt m id hurt).setNum ref n) := by
  have kept : (o.setMemberHurt m id hurt).memberRef m id = some ref := held
  exact (setMemberHurt_kindOnly o m id hurt).trans (setNum_kindOnly kept n)

theorem hurtMember_kindOnly (share : Share) (config : BattleConfig) (hurt : Hurt) (all : Int)
    (before : Member → Option Int) (left : Left) : KindOnly id o (hurtMember share config hurt id all before (o,left) m).1 := by
  unfold hurtMember
  dsimp only
  split
  · rename_i had ref _ held
    exact writeMember_kindOnly held _ _
  · exact .refl _ _

theorem hurtMembers_kindOnly (share : Share) (config : BattleConfig) (hurt : Hurt) (all : Int)
    (before : Member → Option Int) (members : List Member) (left : Left) :
    KindOnly id o (members.foldl (hurtMember share config hurt id all before) (o,left)).1 := by
  induction members generalizing o left with
  | nil => exact .refl _ _
  | cons m rest ih =>
    have first : KindOnly id o (hurtMember share config hurt id all before (o,left) m).1 :=
      hurtMember_kindOnly share config hurt all before left
    exact first.trans (ih _)

theorem spendLeft_kindOnly (part : Component) (members : List Member) (left : Int) :
    KindOnly id o (spendLeft part id members o left) := by
  induction members generalizing o left with
  | nil => exact .refl _ _
  | cons m rest ih =>
    unfold spendLeft
    split
    · exact ih _
    · rename_i ref held
      dsimp only
      generalize (if left ≤ (o.cell ref).num then left else (o.cell ref).num) = taken
      split
      · exact writeMember_kindOnly held _ _
      · exact (writeMember_kindOnly held _ _).trans (ih _)

theorem spendIf_kindOnly (part : Component) (members : List Member) (left : Int) :
    KindOnly id o (spendIf part id members o left) := by
  unfold spendIf
  split
  · exact spendLeft_kindOnly part members left
  · exact .refl _ _

theorem distributeKind_kindOnly (share : Share) (config : BattleConfig) (start : BattleObject)
    (members : List Member) (hurts : Table SoldierId Hurt) :
    KindOnly id o (distributeKind share config start members hurts o id) := by
  unfold distributeKind
  split
  · exact .refl _ _
  · dsimp only
    split
    · exact (((hurtMembers_kindOnly share config _ _ _ members _).trans
        (spendIf_kindOnly .minor members _)).trans (spendIf_kindOnly .hardHurt members _)).trans
        (spendIf_kindOnly .die members _)
    · exact .refl _ _

theorem distributeRallyHurt_membersOnly (share : Share) (config : BattleConfig) (kinds : Order SoldierId)
    (members : Order Member) (o : BattleObject) : MembersOnly o (distributeRallyHurt share config kinds members o) := by
  have run : ∀ (ids : List SoldierId) (now : BattleObject), MembersOnly o now → MembersOnly o
      (ids.foldl (distributeKind share config o (members.visit o.rallySoldiers.keys) o.soldierHurt) now) := by
    intro ids
    induction ids with
    | nil => exact fun now frame => frame
    | cons id rest ih =>
      intro now frame
      exact ih _ (frame.trans (distributeKind_kindOnly share config o _ _).membersOnly)
  exact run _ o (.refl o)

theorem healMember_kindOnly (share : Share) (start : BattleObject) (all heal : Int) :
    KindOnly id o (healMember share start all id heal o m) := by
  unfold healMember
  split
  · rename_i was ref hurt _ held _
    split
    · exact raiseMember_kindOnly held _ _
    · exact .refl _ _
  · exact .refl _ _

theorem healMembers_kindOnly (share : Share) (start : BattleObject) (all heal : Int) (members : List Member) :
    KindOnly id o (members.foldl (healMember share start all id heal) o) := by
  induction members generalizing o with
  | nil => exact .refl _ _
  | cons m rest ih => exact (healMember_kindOnly share start all heal).trans ih

theorem distributeHealKind_kindOnly (share : Share) (start : BattleObject) (members : List Member)
    (soldierHeal : Table SoldierId Int) :
    KindOnly id o (distributeHealKind share start members soldierHeal o id) := by
  unfold distributeHealKind
  dsimp only
  split
  · exact healMembers_kindOnly share start _ _ members
  · exact .refl _ _

theorem distributeRallyHeal_membersOnly (share : Share) (kinds : Order SoldierId) (members : Order Member)
    (o : BattleObject) (soldierHeal : Table SoldierId Int) :
    MembersOnly o (distributeRallyHeal share kinds members o soldierHeal) := by
  have run : ∀ (ids : List SoldierId) (now : BattleObject), MembersOnly o now → MembersOnly o
      (ids.foldl (distributeHealKind share o (members.visit o.rallySoldierHurt.keys) soldierHeal) now) := by
    intro ids
    induction ids with
    | nil => exact fun now frame => frame
    | cons id rest ih =>
      intro now frame
      exact ih _ (frame.trans (distributeHealKind_kindOnly share o _ _).membersOnly)
  unfold distributeRallyHeal
  split
  · exact .refl o
  · exact run _ o (.refl o)

end OriginGame.Battle
