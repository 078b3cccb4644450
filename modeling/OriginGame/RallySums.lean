import Mathlib.Algebra.BigOperators.Ring.List
import OriginGame.BattleFrames

namespace OriginGame.Battle
open BattleObject

variable {o p : BattleObject} {id : SoldierId} {m k : Member} {ref : Ref} {share : Share} {config : BattleConfig}

namespace BattleObject

-- The sum of rallySoldiers[rid][armyIndex][id].num over all (rid, armyIndex).
def membersTotal (o : BattleObject) (id : SoldierId) : Int := (o.rallySoldiers.keys.map (o.memberNum · id)).sum

theorem memberRef_absent (absent : m ∉ o.rallySoldiers) : o.memberRef m id = none := by
  rw [memberRef,AList.lookup_eq_none.mpr absent]
  rfl

-- Two members with one kind each.
theorem memberRef_two {first second : Member} (two : o.rallySoldiers =
      AList.insert first (AList.insert kind first ∅) (AList.insert second (AList.insert kind second ∅) ∅))
    (found : o.memberRef m id = some ref) : id = kind ∧ ref = m ∧ (m = first ∨ m = second) := by
  unfold memberRef at found
  rw [two] at found
  obtain ⟨table,there,entry⟩ := Option.bind_eq_some_iff.mp found
  rcases Table.found_insert there with ⟨rfl,rfl⟩ | ⟨_,there⟩
  · obtain ⟨rfl,rfl⟩ := Table.lookup_only entry
    exact ⟨rfl,rfl,.inl rfl⟩
  · obtain ⟨rfl,rfl⟩ := Table.lookup_only there
    obtain ⟨rfl,rfl⟩ := Table.lookup_only entry
    exact ⟨rfl,rfl,.inr rfl⟩

theorem memberNum_absent (absent : m ∉ o.rallySoldiers) : o.memberNum m id = 0 := by
  rw [memberNum,memberCount,memberRef_absent absent]
  rfl

-- Members without soldiers may be added to the sum.
theorem membersTotal_over {members : Finset Member} (all : ∀ m ∈ o.rallySoldiers, m ∈ members) :
    o.membersTotal id = ∑ m ∈ members, o.memberNum m id := by
  rw [membersTotal,← List.sum_toFinset _ (AList.keys_nodup _)]
  apply Finset.sum_subset
  · intro m listed
    exact all m (AList.mem_keys.mpr (List.mem_toFinset.mp listed))
  · intro m _ absent
    exact memberNum_absent (fun held => absent (List.mem_toFinset.mpr (AList.mem_keys.mp held)))

theorem memberNum_of_ref (held : o.memberRef m id = some ref) : o.memberNum m id = (o.cell ref).num := by
  rw [memberNum,memberCount,held]
  rfl

theorem memberNum_congr (same : p.memberCount m id = o.memberCount m id) : p.memberNum m id = o.memberNum m id :=
  congrArg (Option.getD · 0) same

theorem memberCount_setNum (unshared : Unshared o) (held : o.memberRef m id = some ref) (n : Int) (k : Member)
    (j : SoldierId) : (o.setNum ref n).memberCount k j = if k = m ∧ j = id then some n else o.memberCount k j := by
  unfold memberCount
  rw [memberRef_setNum]
  cases found : o.memberRef k j with
  | none =>
    rw [if_neg]
    · rfl
    · rintro ⟨rfl,rfl⟩
      cases found.symm.trans held
  | some slot =>
    by_cases both : k = m ∧ j = id
    · obtain ⟨rfl,rfl⟩ := both
      cases Option.some.inj (found.symm.trans held)
      simp
    · have apart : slot ≠ ref := by
        rintro rfl
        exact both (unshared.members found held)
      rw [if_neg both,Option.map_some,cell_setNum_ne o n apart]
      rfl

theorem memberCount_dropMemberKind (o : BattleObject) (m : Member) (id : SoldierId) (k : Member) (j : SoldierId) :
    (o.dropMemberKind m id).memberCount k j = if k = m ∧ j = id then none else o.memberCount k j := by
  unfold memberCount
  rw [memberRef_dropMemberKind,dropMemberKind_rest]
  split <;> rfl

end BattleObject

theorem memberCount_settle (unshared : Unshared o) (held : o.memberRef m id = some ref) (hurt : Hurt) (n : Int)
    (k : Member) (j : SoldierId) : (settleMember (o.setMemberHurt m id hurt) m id ref n).memberCount k j =
      if k = m ∧ j = id then (if n ≤ 0 then none else some n) else o.memberCount k j := by
  have kept : (o.setMemberHurt m id hurt).memberRef m id = some ref := held
  have apart : Unshared (o.setMemberHurt m id hurt) := unshared.shrink (fun found => found) (fun found => found)
  have written := memberCount_setNum apart kept n k j
  unfold settleMember
  dsimp only
  split
  · rw [memberCount_dropMemberKind,written]
    split <;> rfl
  · exact written

theorem memberNum_settle (unshared : Unshared o) (held : o.memberRef m id = some ref) (hurt : Hurt) (nonneg : 0 ≤ n) :
    (settleMember (o.setMemberHurt m id hurt) m id ref n).memberNum m id = n := by
  rw [memberNum,memberCount_settle unshared held,if_pos ⟨rfl,rfl⟩]
  split
  · exact Int.le_antisymm nonneg (by assumption)
  · rfl

theorem memberCount_settle_ne (unshared : Unshared o) (held : o.memberRef m id = some ref) (hurt : Hurt) (n : Int)
    (other : k ≠ m) : (settleMember (o.setMemberHurt m id hurt) m id ref n).memberCount k id = o.memberCount k id := by
  rw [memberCount_settle unshared held,if_neg (fun both => other both.1)]

section Hurt
variable {hurt : Hurt} {all : Int} {before : Member → Option Int} {members : List Member}

def Hurt.turn (hurt : Hurt) : Int := hurt.hardHurt+hurt.die+hurt.minor

-- The floor a member with `had` soldiers of the kind is charged of one component.
def charged (share : Share) (all : Int) (had : Option Int) (component : Int) : Int :=
  (had.map (share.floor component · all)).getD 0

def chargedAll (share : Share) (all : Int) (had : Option Int) (hurt : Hurt) : Int :=
  charged share all had hurt.hardHurt+charged share all had hurt.die+charged share all had hurt.minor

theorem charged_below (share : Share) (positive : 0 < all) (nonneg : 0 ≤ had.getD 0) (component : Int) :
    charged share all had component*all ≤ component*had.getD 0 := by
  cases had with
  | none => simp [charged]
  | some had => exact share.below nonneg positive

theorem chargedAll_le (share : Share) (positive : 0 < all) (nonneg : 0 ≤ had.getD 0) (room : hurt.turn ≤ all) :
    chargedAll share all had hurt ≤ had.getD 0 := by
  have hard := charged_below share positive nonneg hurt.hardHurt
  have die := charged_below share positive nonneg hurt.die
  have minor := charged_below share positive nonneg hurt.minor
  have whole : chargedAll share all had hurt*all ≤ hurt.turn*had.getD 0 := by
    simp only [chargedAll,Hurt.turn,Int.add_mul]
    omega
  have scaled : chargedAll share all had hurt*all ≤ had.getD 0*all :=
    whole.trans ((Int.mul_le_mul_of_nonneg_right room nonneg).trans (Int.mul_comm _ _).le)
  exact Int.le_of_mul_le_mul_right scaled positive

theorem hurtMember_spec (share : Share) (config : BattleConfig) (unshared : Unshared o) (agree : before m = o.memberCount m id) (positive : 0 < all)
    (nonneg : 0 ≤ o.memberNum m id) (room : hurt.turn ≤ all) (left : Left) :
    let next := hurtMember share config hurt id all before (o,left) m
    next.1.memberNum m id = o.memberNum m id-chargedAll share all (before m) hurt ∧
    (∀ k, k ≠ m → next.1.memberCount k id = o.memberCount k id) ∧
    next.2 = ⟨left.hardHurt-charged share all (before m) hurt.hardHurt,left.die-charged share all (before m) hurt.die,
      left.minor-charged share all (before m) hurt.minor⟩ := by
  cases held : o.memberRef m id with
  | none =>
    have missing : before m = none := by rw [agree,memberCount,held]; rfl
    have same : hurtMember share config hurt id all before (o,left) m = (o,left) := by simp only [hurtMember,missing]
    simp [same,missing,charged,chargedAll]
  | some ref =>
    have found : before m = some (o.cell ref).num := by rw [agree,memberCount,held]; rfl
    have most : chargedAll share all (some (o.cell ref).num) hurt ≤ (o.cell ref).num :=
      chargedAll_le share positive (memberNum_of_ref held ▸ nonneg) room
    simp only [hurtMember,found,held]
    refine ⟨?_,?_,rfl⟩
    · rw [memberNum_of_ref held,memberNum_settle unshared held]
      · simp only [chargedAll,charged,Option.map_some,Option.getD_some] at most ⊢
        generalize (if 0 < _ then share.floor _ _ 1000 else 0 : Int) = hardHurtToDie
        change (if (o.cell ref).num-_ < 0 then 0 else (o.cell ref).num-_) = _
        rw [if_neg (by omega)]
        omega
      · split <;> omega
    · intro k other
      exact memberCount_settle_ne unshared held _ _ other

theorem hurtMembers_spec (share : Share) (config : BattleConfig) (distinct : members.Nodup) (unshared : Unshared o)
    (agree : ∀ m ∈ members, before m = o.memberCount m id) (positive : 0 < all)
    (nonneg : ∀ m ∈ members, 0 ≤ o.memberNum m id) (room : hurt.turn ≤ all) (left : Left) :
    let next := members.foldl (hurtMember share config hurt id all before) (o,left)
    (∀ m ∈ members, next.1.memberNum m id = o.memberNum m id-chargedAll share all (before m) hurt) ∧
    (∀ k, k ∉ members → next.1.memberCount k id = o.memberCount k id) ∧
    next.2 = ⟨left.hardHurt-(members.map (fun m => charged share all (before m) hurt.hardHurt)).sum,
      left.die-(members.map (fun m => charged share all (before m) hurt.die)).sum,
      left.minor-(members.map (fun m => charged share all (before m) hurt.minor)).sum⟩ := by
  induction members generalizing o left with
  | nil => simp
  | cons m rest ih =>
    obtain ⟨fresh,distinct⟩ := List.nodup_cons.mp distinct
    have apart : ∀ k ∈ rest, k ≠ m := fun k listed same => fresh (same ▸ listed)
    have first := hurtMember_spec share config unshared (agree m List.mem_cons_self) positive (nonneg m List.mem_cons_self) room left
    generalize one : hurtMember share config hurt id all before (o,left) m = next at first
    obtain ⟨own,others,spent⟩ := first
    have frame : KindOnly id o next.1 := one ▸ hurtMember_kindOnly share config hurt all before left
    obtain ⟨each,untouched,total⟩ := ih (o:=next.1) distinct (frame.membersOnly.unshared unshared)
      (fun k listed => (agree k (List.mem_cons_of_mem _ listed)).trans (others k (apart k listed)).symm)
      (fun k listed => memberNum_congr (others k (apart k listed)) ▸ nonneg k (List.mem_cons_of_mem _ listed)) next.2
    simp only [List.foldl_cons,one,List.map_cons,List.sum_cons]
    refine ⟨?_,?_,?_⟩
    · intro k listed
      rcases List.mem_cons.mp listed with rfl | listed
      · rw [memberNum_congr (untouched k fresh)]
        exact own
      · rw [each k listed,memberNum_congr (others k (apart k listed))]
    · intro k unlisted
      obtain ⟨other,unlisted⟩ := not_or.mp (fun either => unlisted (List.mem_cons.mpr either))
      exact (untouched k unlisted).trans (others k other)
    · rw [show next = (next.1,next.2) from rfl,total,spent]
      simp only [Left.mk.injEq]
      omega

-- p has `left` soldiers of the kind fewer than o, all of them taken from these members.
structure Spends (id : SoldierId) (members : List Member) (o : BattleObject) (left : Int) (p : BattleObject) : Prop where
  total : (members.map (p.memberNum · id)).sum = (members.map (o.memberNum · id)).sum-left
  nonneg : ∀ m ∈ members, 0 ≤ p.memberNum m id
  untouched : ∀ k, k ∉ members → p.memberCount k id = o.memberCount k id

theorem Spends.nothing (nonneg : ∀ m ∈ members, 0 ≤ o.memberNum m id) : Spends id members o 0 o :=
  ⟨(Int.sub_zero _).symm,nonneg,fun _ _ => rfl⟩

theorem Spends.cons {q : BattleObject} (fresh : m ∉ members) (own : q.memberNum m id = o.memberNum m id-taken)
    (others : ∀ k, k ≠ m → q.memberCount k id = o.memberCount k id) (nonneg : 0 ≤ q.memberNum m id)
    (rest : Spends id members q (left-taken) p) : Spends id (m::members) o left p := by
  have kept := memberNum_congr (rest.untouched m fresh)
  have apart : ∀ k ∈ members, k ≠ m := fun k listed same => fresh (same ▸ listed)
  refine ⟨?_,?_,?_⟩
  · have before : members.map (q.memberNum · id) = members.map (o.memberNum · id) :=
      List.map_congr_left (fun k listed => memberNum_congr (others k (apart k listed)))
    have total := rest.total
    rw [before] at total
    rw [List.map_cons,List.map_cons,List.sum_cons,List.sum_cons,total,kept,own]
    omega
  · intro k listed
    rcases List.mem_cons.mp listed with rfl | listed
    · rwa [kept]
    · exact rest.nonneg k listed
  · intro k unlisted
    obtain ⟨other,unlisted⟩ := not_or.mp (fun either => unlisted (List.mem_cons.mpr either))
    exact (rest.untouched k unlisted).trans (others k other)

theorem Spends.membersTotal (spends : Spends id members o left p) (distinct : members.Nodup) :
    p.membersTotal id = o.membersTotal id-left := by
  let everyone := (o.rallySoldiers.keys++p.rallySoldiers.keys++members).toFinset
  have before : o.membersTotal id = ∑ m ∈ everyone, o.memberNum m id :=
    membersTotal_over (fun m held => by simp [everyone,AList.mem_keys.mp held])
  have after : p.membersTotal id = ∑ m ∈ everyone, p.memberNum m id :=
    membersTotal_over (fun m held => by simp [everyone,AList.mem_keys.mp held])
  have change : ∑ m ∈ members.toFinset, (p.memberNum m id-o.memberNum m id) =
      ∑ m ∈ everyone, (p.memberNum m id-o.memberNum m id) := by
    apply Finset.sum_subset
    · intro m listed
      simp [everyone,List.mem_toFinset.mp listed]
    · intro m _ unlisted
      rw [memberNum_congr (spends.untouched m (fun listed => unlisted (List.mem_toFinset.mpr listed))),Int.sub_self]
  have total := spends.total
  rw [Finset.sum_sub_distrib,Finset.sum_sub_distrib,List.sum_toFinset _ distinct,List.sum_toFinset _ distinct] at change
  omega

theorem spendLeft_spends (part : Component) (distinct : members.Nodup) (unshared : Unshared o)
    (nonneg : ∀ m ∈ members, 0 ≤ o.memberNum m id) (owed : 0 ≤ left)
    (enough : left ≤ (members.map (o.memberNum · id)).sum) :
    Spends id members o left (spendLeft part id members o left) := by
  induction members generalizing o left with
  | nil =>
    have none : left = 0 := Int.le_antisymm enough owed
    rw [none]
    exact .nothing nonneg
  | cons m rest ih =>
    obtain ⟨fresh,distinct⟩ := List.nodup_cons.mp distinct
    have later := fun k listed => nonneg k (List.mem_cons_of_mem m listed)
    have had := nonneg m List.mem_cons_self
    rw [List.map_cons,List.sum_cons] at enough
    unfold spendLeft
    split
    · rename_i missing
      have nothing : o.memberNum m id = 0 := by
        rw [memberNum,memberCount,missing]
        rfl
      have tail := ih distinct unshared later owed (by omega)
      exact .cons fresh (Int.sub_zero _).symm (fun _ _ => rfl) had ((Int.sub_zero left).symm ▸ tail)
    · rename_i ref held
      have num := memberNum_of_ref held
      dsimp only
      generalize amount : (if left ≤ (o.cell ref).num then left else (o.cell ref).num) = taken
      have bounds : 0 ≤ taken ∧ taken ≤ left ∧ taken ≤ (o.cell ref).num := by
        rw [← amount]
        split <;> omega
      generalize written : settleMember (o.setMemberHurt m id _) m id ref ((o.cell ref).num-taken) = q
      have own : q.memberNum m id = o.memberNum m id-taken := by
        rw [← written,num]
        exact memberNum_settle unshared held _ (by omega)
      have others : ∀ k, k ≠ m → q.memberCount k id = o.memberCount k id := by
        intro k other
        rw [← written]
        exact memberCount_settle_ne unshared held _ _ other
      have remain : 0 ≤ q.memberNum m id := by omega
      have apart : ∀ k ∈ rest, q.memberNum k id = o.memberNum k id :=
        fun k listed => memberNum_congr (others k (fun same => fresh (same ▸ listed)))
      have nonneg : ∀ k ∈ rest, 0 ≤ q.memberNum k id := fun k listed => apart k listed ▸ later k listed
      split
      · have spent : left-taken = 0 := by omega
        exact .cons fresh own others remain (spent ▸ .nothing nonneg)
      · have frame : KindOnly id o q := written ▸ writeMember_kindOnly held _ _
        refine .cons fresh own others remain (ih distinct (frame.membersOnly.unshared unshared) nonneg (by omega) ?_)
        rw [List.map_congr_left apart]
        split at amount <;> omega

theorem spendIf_spends (part : Component) (distinct : members.Nodup) (unshared : Unshared o)
    (nonneg : ∀ m ∈ members, 0 ≤ o.memberNum m id) (owed : 0 ≤ left)
    (enough : left ≤ (members.map (o.memberNum · id)).sum) :
    Spends id members o left (spendIf part id members o left) := by
  unfold spendIf
  split
  · exact spendLeft_spends part distinct unshared nonneg owed enough
  · have none : left = 0 := by omega
    exact none ▸ .nothing nonneg

theorem Spends.trans {q : BattleObject} (first : Spends id members o left q) (second : Spends id members q more p) :
    Spends id members o (left+more) p := by
  refine ⟨?_,second.nonneg,fun k unlisted => (second.untouched k unlisted).trans (first.untouched k unlisted)⟩
  rw [second.total,first.total]
  omega

theorem charged_sum_le (share : Share) (positive : 0 < all) (members : List Member)
    (nonneg : ∀ m ∈ members, 0 ≤ (before m).getD 0) (whole : (members.map (fun m => (before m).getD 0)).sum = all)
    (component : Int) : (members.map (fun m => charged share all (before m) component)).sum ≤ component := by
  have scaled : ∀ ms : List Member, (∀ m ∈ ms, 0 ≤ (before m).getD 0) →
      (ms.map (fun m => charged share all (before m) component)).sum*all ≤ component*(ms.map (fun m => (before m).getD 0)).sum := by
    intro ms nonneg
    induction ms with
    | nil => simp
    | cons m rest ih =>
      have head := charged_below share positive (nonneg m List.mem_cons_self) component
      have tail := ih (fun k listed => nonneg k (List.mem_cons_of_mem _ listed))
      simp only [List.map_cons,List.sum_cons,Int.add_mul,Int.mul_add]
      omega
  have total := scaled members nonneg
  rw [whole] at total
  exact Int.le_of_mul_le_mul_right total positive

-- The proportional pass takes what it charges.
theorem hurtMembers_spends (share : Share) (config : BattleConfig) (distinct : members.Nodup) (unshared : Unshared o)
    (agree : ∀ m ∈ members, before m = o.memberCount m id) (positive : 0 < all)
    (nonneg : ∀ m ∈ members, 0 ≤ o.memberNum m id) (room : hurt.turn ≤ all) (left : Left) :
    Spends id members o (members.map (fun m => chargedAll share all (before m) hurt)).sum
      (members.foldl (hurtMember share config hurt id all before) (o,left)).1 := by
  obtain ⟨each,untouched,_⟩ := hurtMembers_spec share config distinct unshared agree positive nonneg room left
  refine ⟨?_,?_,untouched⟩
  · have whole : (members.map (o.memberNum · id)).sum = (members.map (fun m =>
        (members.foldl (hurtMember share config hurt id all before) (o,left)).1.memberNum m id+
          chargedAll share all (before m) hurt)).sum := by
      apply congrArg List.sum (List.map_congr_left _)
      intro m listed
      rw [each m listed]
      omega
    rw [List.sum_map_add] at whole
    omega
  · intro m listed
    have most : chargedAll share all (before m) hurt ≤ (before m).getD 0 := by
      apply chargedAll_le share positive _ room
      rw [agree m listed]
      exact nonneg m listed
    rw [agree m listed] at most
    rw [each m listed,agree m listed]
    exact Int.sub_nonneg.mpr most

theorem spendAll_spends (left : Left) (distinct : members.Nodup) (unshared : Unshared o)
    (nonneg : ∀ m ∈ members, 0 ≤ o.memberNum m id) (hardHurt : 0 ≤ left.hardHurt) (die : 0 ≤ left.die) (minor : 0 ≤ left.minor)
    (enough : left.minor+left.hardHurt+left.die ≤ (members.map (o.memberNum · id)).sum) :
    Spends id members o (left.minor+left.hardHurt+left.die) (spendIf .die id members
      (spendIf .hardHurt id members (spendIf .minor id members o left.minor) left.hardHurt) left.die) := by
  have first := spendIf_spends .minor distinct unshared nonneg minor (by omega)
  have unshared : Unshared (spendIf .minor id members o left.minor) :=
    (spendIf_kindOnly .minor members left.minor).membersOnly.unshared unshared
  generalize spendIf .minor id members o left.minor = p at first unshared ⊢
  have second := spendIf_spends .hardHurt distinct unshared first.nonneg hardHurt (by rw [first.total]; omega)
  have unshared : Unshared (spendIf .hardHurt id members p left.hardHurt) :=
    (spendIf_kindOnly .hardHurt members left.hardHurt).membersOnly.unshared unshared
  generalize spendIf .hardHurt id members p left.hardHurt = q at second unshared ⊢
  exact (first.trans second).trans (spendIf_spends .die distinct unshared second.nonneg die
    (by rw [second.total,first.total]; omega))

theorem distributeKind_spends {start : BattleObject} {hurts : Table SoldierId Hurt} (found : hurts.lookup id = some hurt)
    (distinct : members.Nodup) (unshared : Unshared o) (agree : ∀ m ∈ members, start.memberCount m id = o.memberCount m id)
    (nonneg : ∀ m ∈ members, 0 ≤ o.memberNum m id) (owed : 0 ≤ hurt.turn)
    (enough : hurt.turn ≤ (members.map (o.memberNum · id)).sum) :
    Spends id members o hurt.turn (distributeKind share config start members hurts o id) := by
  have whole : (members.map (fun m => (start.memberCount m id).getD 0)).sum = (members.map (o.memberNum · id)).sum :=
    congrArg List.sum (List.map_congr_left (fun m listed => congrArg (Option.getD · 0) (agree m listed)))
  simp only [distributeKind,found,whole]
  split
  · rename_i positive
    generalize total : (members.map (o.memberNum · id)).sum = all at *
    have first := hurtMembers_spends share config distinct unshared agree positive nonneg enough ⟨hurt.hardHurt,hurt.die,hurt.minor⟩
    obtain ⟨_,_,spent⟩ := hurtMembers_spec share config distinct unshared agree positive nonneg enough ⟨hurt.hardHurt,hurt.die,hurt.minor⟩
    have frame : KindOnly id o (members.foldl (hurtMember share config hurt id all (start.memberCount · id))
        (o,⟨hurt.hardHurt,hurt.die,hurt.minor⟩)).1 := hurtMembers_kindOnly share config hurt all _ members _
    generalize members.foldl _ _ = next at first spent frame ⊢
    obtain ⟨q,left⟩ := next
    dsimp only at first spent frame ⊢
    have had : ∀ m ∈ members, 0 ≤ (start.memberCount m id).getD 0 := fun m listed => agree m listed ▸ nonneg m listed
    have hard := charged_sum_le share positive members had whole hurt.hardHurt
    have die := charged_sum_le share positive members had whole hurt.die
    have minor := charged_sum_le share positive members had whole hurt.minor
    have charges : (members.map (fun m => chargedAll share all (start.memberCount m id) hurt)).sum =
        (members.map (fun m => charged share all (start.memberCount m id) hurt.hardHurt)).sum+
        (members.map (fun m => charged share all (start.memberCount m id) hurt.die)).sum+
        (members.map (fun m => charged share all (start.memberCount m id) hurt.minor)).sum := by
      simp only [chargedAll,List.sum_map_add]
    have owed : hurt.turn = (members.map (fun m => chargedAll share all (start.memberCount m id) hurt)).sum+
        (left.minor+left.hardHurt+left.die) := by
      rw [spent,charges]
      simp only [Hurt.turn]
      omega
    rw [owed]
    apply first.trans
    apply spendAll_spends left distinct (frame.membersOnly.unshared unshared) first.nonneg
    · rw [spent]; exact Int.sub_nonneg.mpr hard
    · rw [spent]; exact Int.sub_nonneg.mpr die
    · rw [spent]; exact Int.sub_nonneg.mpr minor
    · rw [first.total,total]
      omega
  · have none : hurt.turn = 0 := by omega
    exact none ▸ .nothing nonneg

-- Only the counts of the kind matter, on both sides.
theorem Spends.congr {q r : BattleObject} (spends : Spends id members o left p)
    (source : ∀ m, q.memberCount m id = o.memberCount m id) (target : ∀ m, r.memberCount m id = p.memberCount m id) :
    Spends id members q left r := by
  have sources : members.map (q.memberNum · id) = members.map (o.memberNum · id) :=
    List.map_congr_left (fun m _ => memberNum_congr (source m))
  have targets : members.map (r.memberNum · id) = members.map (p.memberNum · id) :=
    List.map_congr_left (fun m _ => memberNum_congr (target m))
  refine ⟨?_,?_,?_⟩
  · rw [targets,sources]
    exact spends.total
  · intro m listed
    rw [memberNum_congr (target m)]
    exact spends.nonneg m listed
  · intro k unlisted
    rw [target,source]
    exact spends.untouched k unlisted

-- The members of p and o agree on one kind.
def Agree (id : SoldierId) (o p : BattleObject) : Prop :=
  ∀ m, p.memberCount m id = o.memberCount m id ∧ p.memberRef m id = o.memberRef m id ∧ p.memberHurt m id = o.memberHurt m id

theorem Agree.refl (id : SoldierId) (o : BattleObject) : Agree id o o := fun _ => ⟨rfl,rfl,rfl⟩

theorem Agree.trans {q : BattleObject} (left : Agree id o p) (right : Agree id p q) : Agree id o q :=
  fun m => ⟨(right m).1.trans (left m).1,(right m).2.1.trans (left m).2.1,(right m).2.2.trans (left m).2.2⟩

theorem KindOnly.agree (frame : KindOnly id o p) (unshared : Unshared o) (other : j ≠ id) : Agree j o p :=
  fun m => ⟨frame.memberCount unshared other m,frame.refs other,frame.hurts other⟩

-- A loop over kinds that handles each by itself: what the others do is not seen.
theorem foldKinds_turn {change : BattleObject → SoldierId → BattleObject} {kinds : List SoldierId} (each : kinds.Nodup)
    {valid : BattleObject → Prop} (one : ∀ now, ∀ id ∈ kinds, valid now → Agree id o now → valid (change now id) ∧
      ∀ j, j ≠ id → Agree j now (change now id))
    {now : BattleObject} (start : valid now) (agree : ∀ id ∈ kinds, Agree id o now) :
    (∀ id ∈ kinds, ∃ before, valid before ∧ Agree id o before ∧ Agree id (change before id) (kinds.foldl change now)) ∧
    (∀ id, id ∉ kinds → Agree id now (kinds.foldl change now)) ∧ valid (kinds.foldl change now) := by
  induction kinds generalizing now with
  | nil => exact ⟨fun id listed => absurd listed List.not_mem_nil,fun id _ => .refl id now,start⟩
  | cons kind rest ih =>
    obtain ⟨fresh,each⟩ := List.nodup_cons.mp each
    have here := agree kind List.mem_cons_self
    obtain ⟨kept,others⟩ := one now kind List.mem_cons_self start here
    rw [List.foldl_cons]
    obtain ⟨later,untouched,final⟩ := ih each (fun now id listed => one now id (List.mem_cons_of_mem _ listed)) kept
      (fun id listed => (agree id (List.mem_cons_of_mem _ listed)).trans (others id (fun same => fresh (same ▸ listed))))
    refine ⟨?_,?_,final⟩
    · intro id listed
      rcases List.mem_cons.mp listed with rfl | listed
      · exact ⟨now,start,here,untouched id fresh⟩
      · exact later id listed
    · intro id unlisted
      obtain ⟨other,unlisted⟩ := not_or.mp (fun either => unlisted (List.mem_cons.mpr either))
      exact (others id other).trans (untouched id unlisted)

-- Each kind's own amount is spent.
theorem foldKinds_spends {change : BattleObject → SoldierId → BattleObject} {amount : SoldierId → Int}
    {kinds : List SoldierId} (each : kinds.Nodup) {valid : BattleObject → Prop}
    (one : ∀ now, ∀ id ∈ kinds, valid now → Agree id o now → valid (change now id) ∧
      (∀ j, j ≠ id → Agree j now (change now id)) ∧ Spends id members now (amount id) (change now id))
    {now : BattleObject} (start : valid now) (agree : ∀ id ∈ kinds, Agree id o now) :
    (∀ id ∈ kinds, Spends id members o (amount id) (kinds.foldl change now)) ∧
    (∀ id, id ∉ kinds → Agree id now (kinds.foldl change now)) ∧ valid (kinds.foldl change now) := by
  obtain ⟨turns,untouched,final⟩ := foldKinds_turn each (fun now id listed valid agree =>
    have turn := one now id listed valid agree
    ⟨turn.1,turn.2.1⟩) start agree
  refine ⟨fun id listed => ?_,untouched,final⟩
  obtain ⟨before,valid,reached,after⟩ := turns id listed
  exact (one before id listed valid reached).2.2.congr (fun m => (reached m).1.symm) (fun m => (after m).1)

theorem distributeKind_one (share : Share) (config : BattleConfig) (distinct : members.Nodup)
    (nonneg : ∀ m id, 0 ≤ o.memberNum m id)
    (owed : ∀ id, 0 ≤ o.hurt Hurt.turn id ∧ o.hurt Hurt.turn id ≤ (members.map (o.memberNum · id)).sum)
    {now : BattleObject} (held : id ∈ o.soldierHurt) (unshared : Unshared now) (agree : Agree id o now) :
    Unshared (distributeKind share config o members o.soldierHurt now id) ∧
      (∀ j, j ≠ id → Agree j now (distributeKind share config o members o.soldierHurt now id)) ∧
      Spends id members now (o.hurt Hurt.turn id) (distributeKind share config o members o.soldierHurt now id) := by
  obtain ⟨hurt,found⟩ := Table.lookup_of_mem held
  have amount : o.hurt Hurt.turn id = hurt.turn := Table.amount_some found _
  have frame : KindOnly id now (distributeKind share config o members o.soldierHurt now id) :=
    distributeKind_kindOnly share config o members o.soldierHurt
  have counts : members.map (now.memberNum · id) = members.map (o.memberNum · id) :=
    List.map_congr_left (fun m _ => memberNum_congr (agree m).1)
  refine ⟨frame.membersOnly.unshared unshared,fun j other => frame.agree unshared other,?_⟩
  rw [amount]
  apply distributeKind_spends found distinct unshared (fun m _ => (agree m).1.symm)
  · exact fun m _ => memberNum_congr (agree m).1 ▸ nonneg m id
  · exact amount ▸ (owed id).1
  · rw [counts]
    exact amount ▸ (owed id).2

theorem Spends.members_nonneg (spends : Spends id members o left p) (nonneg : ∀ m, 0 ≤ o.memberNum m id) (m : Member) :
    0 ≤ p.memberNum m id := by
  by_cases listed : m ∈ members
  · exact spends.nonneg m listed
  · rw [memberNum_congr (spends.untouched m listed)]
    exact nonneg m

-- Whatever the split does with signs and remainders, the members lose together
-- exactly what the aggregate lost this turn.
theorem distributeRallyHurt_total (share : Share) (config : BattleConfig) (kinds : Order SoldierId) (members : Order Member)
    (unshared : Unshared o) (nonneg : ∀ m id, 0 ≤ o.memberNum m id)
    (owed : ∀ id, 0 ≤ o.hurt Hurt.turn id ∧ o.hurt Hurt.turn id ≤ o.membersTotal id) (id : SoldierId) :
    (distributeRallyHurt share config kinds members o).membersTotal id = o.membersTotal id-o.hurt Hurt.turn id ∧
      ∀ m, 0 ≤ (distributeRallyHurt share config kinds members o).memberNum m id := by
  have distinct := members.nodup_visit (AList.keys_nodup o.rallySoldiers)
  have total : ∀ id, o.membersTotal id = ((members.visit o.rallySoldiers.keys).map (o.memberNum · id)).sum :=
    fun id => (members.sum_visit _).symm
  obtain ⟨hit,others,_⟩ := foldKinds_spends (kinds.nodup_visit (AList.keys_nodup o.soldierHurt)) (fun now id listed =>
      distributeKind_one share config distinct nonneg (fun id => total id ▸ owed id)
        (AList.mem_keys.mpr (kinds.mem_visit.mp listed))) unshared (fun _ _ _ => ⟨rfl,rfl,rfl⟩)
  have spends : Spends id (members.visit o.rallySoldiers.keys) o (o.hurt Hurt.turn id)
      (distributeRallyHurt share config kinds members o) := by
    by_cases listed : id ∈ kinds.visit o.soldierHurt.keys
    · exact hit id listed
    · have none : o.hurt Hurt.turn id = 0 := Table.amount_none (AList.lookup_eq_none.mpr (fun held =>
        listed (kinds.mem_visit.mpr (AList.mem_keys.mp held)))) _
      rw [none]
      exact (Spends.nothing (fun m _ => nonneg m id)).congr (fun _ => rfl) (fun m => (others id listed m).1)
  exact ⟨spends.membersTotal distinct,spends.members_nonneg (nonneg · id)⟩

end Hurt

section Heal
variable {start : BattleObject} {members : List Member} {all heal : Int} {hurt : Hurt}

-- What one member of the distribution gets.
def gain (share : Share) (start : BattleObject) (all : Int) (id : SoldierId) (heal : Int) (m : Member) : Int :=
  if (start.memberRef m id).isSome ∧ 0 < woundedOf start id m then share.floor heal (woundedOf start id m) all else 0

theorem woundedOf_pos (wounded : 0 < woundedOf o id m) :
    ∃ hurt, o.memberHurt m id = some hurt ∧ hurt.allMinor = woundedOf o id m := by
  unfold woundedOf at wounded ⊢
  cases found : o.memberHurt m id with
  | none => simp [found] at wounded
  | some hurt =>
    simp only [found] at wounded ⊢
    split at wounded
    · rename_i some
      exact ⟨hurt,rfl,(if_pos some).symm⟩
    · omega

theorem woundedOf_some (found : o.memberHurt m id = some hurt) :
    woundedOf o id m = if 0 < hurt.allMinor then hurt.allMinor else 0 := by
  simp only [woundedOf,found]

theorem woundedOf_nonneg (o : BattleObject) (id : SoldierId) (m : Member) : 0 ≤ woundedOf o id m := by
  unfold woundedOf
  split
  · exact Int.le_refl 0
  · split <;> omega

theorem healMember_spec (share : Share) (unshared : Unshared o) (refs : start.memberRef m id = o.memberRef m id)
    (hurts : start.memberHurt m id = o.memberHurt m id)
    (fits : share.floor heal (woundedOf start id m) all ≤ woundedOf start id m) :
    let next := healMember share start all id heal o m
    next.memberNum m id = o.memberNum m id+gain share start all id heal m ∧
    (∀ k, k ≠ m → next.memberCount k id = o.memberCount k id ∧ next.memberRef k id = o.memberRef k id ∧
      next.memberHurt k id = o.memberHurt k id) := by
  have idle : healMember share start all id heal o m = o → gain share start all id heal m = 0 →
      (healMember share start all id heal o m).memberNum m id = o.memberNum m id+gain share start all id heal m ∧
      (∀ k, k ≠ m → (healMember share start all id heal o m).memberCount k id = o.memberCount k id ∧
        (healMember share start all id heal o m).memberRef k id = o.memberRef k id ∧
        (healMember share start all id heal o m).memberHurt k id = o.memberHurt k id) := by
    intro same none
    rw [same,none,Int.add_zero]
    exact ⟨rfl,fun _ _ => ⟨rfl,rfl,rfl⟩⟩
  cases held : o.memberRef m id with
  | none =>
    apply idle
    · simp only [healMember,held]
      split <;> simp_all
    · rw [gain,refs,held,if_neg (by simp)]
  | some ref =>
    cases found : o.memberHurt m id with
    | none =>
      apply idle
      · simp only [healMember,hurts,found]
      · rw [gain,woundedOf,hurts,found,if_neg (by simp)]
    | some hurt =>
      have wounded := woundedOf_some (hurts.trans found)
      by_cases some : 0 < hurt.allMinor
      · rw [if_pos some] at wounded
        have whole : ¬ hurt.allMinor-share.floor heal hurt.allMinor all < 0 := by
          rw [wounded] at fits
          omega
        have gained : gain share start all id heal m = share.floor heal hurt.allMinor all := by
          rw [gain,refs,held,wounded,if_pos ⟨rfl,some⟩]
        have apart : Unshared (o.setMemberHurt m id (hurt.heal (share.floor heal hurt.allMinor all))) :=
          unshared.shrink (fun found => found) (fun found => found)
        have counts := memberCount_setNum apart held ((o.cell ref).num+share.floor heal hurt.allMinor all)
        simp only [healMember,hurts,found,held,some,and_self,if_true,if_neg whole]
        refine ⟨?_,?_⟩
        · rw [gained,memberNum_of_ref held,memberNum,counts,if_pos ⟨rfl,rfl⟩]
          rfl
        · intro k other
          refine ⟨?_,rfl,?_⟩
          · rw [counts,if_neg (fun both => other both.1)]
            rfl
          · change (o.setMemberHurt m id _).memberHurt k id = _
            rw [memberHurt_setMemberHurt,if_neg (fun both => other both.1)]
      · apply idle
        · simp only [healMember,hurts,found,held,some,false_and,if_false]
        · rw [gain,wounded,if_neg some,if_neg (by simp)]

theorem healMembers_spends (share : Share) (distinct : members.Nodup) (unshared : Unshared o)
    (refs : ∀ m ∈ members, start.memberRef m id = o.memberRef m id)
    (hurts : ∀ m ∈ members, start.memberHurt m id = o.memberHurt m id)
    (fits : ∀ m, share.floor heal (woundedOf start id m) all ≤ woundedOf start id m)
    (grows : ∀ m, 0 ≤ gain share start all id heal m) (nonneg : ∀ m ∈ members, 0 ≤ o.memberNum m id) :
    Spends id members o (-(members.map (gain share start all id heal)).sum)
      (members.foldl (healMember share start all id heal) o) := by
  induction members generalizing o with
  | nil => exact .nothing nonneg
  | cons m rest ih =>
    obtain ⟨fresh,distinct⟩ := List.nodup_cons.mp distinct
    have apart : ∀ k ∈ rest, k ≠ m := fun k listed same => fresh (same ▸ listed)
    obtain ⟨own,others⟩ := healMember_spec share unshared (refs m List.mem_cons_self) (hurts m List.mem_cons_self) (fits m)
    have frame : KindOnly id o (healMember share start all id heal o m) := healMember_kindOnly share start all heal
    rw [List.foldl_cons]
    generalize healMember share start all id heal o m = next at own others frame ⊢
    have tail := ih distinct (frame.membersOnly.unshared unshared)
      (fun k listed => (refs k (List.mem_cons_of_mem _ listed)).trans (others k (apart k listed)).2.1.symm)
      (fun k listed => (hurts k (List.mem_cons_of_mem _ listed)).trans (others k (apart k listed)).2.2.symm)
      (fun k listed => memberNum_congr (others k (apart k listed)).1 ▸ nonneg k (List.mem_cons_of_mem _ listed))
    have more := grows m
    have had := nonneg m List.mem_cons_self
    have taken : next.memberNum m id = o.memberNum m id-(-gain share start all id heal m) := by omega
    apply Spends.cons fresh taken (fun k other => (others k other).1) (by omega)
    have left : -((m::rest).map (gain share start all id heal)).sum-(-gain share start all id heal m) =
        -(rest.map (gain share start all id heal)).sum := by
      rw [List.map_cons,List.sum_cons]
      omega
    rw [left]
    exact tail

def woundedTotal (o : BattleObject) (id : SoldierId) : Int := (o.rallySoldierHurt.keys.map (woundedOf o id)).sum

-- The heal of a kind splits into whole shares among wounded members that still field it.
def Splits (share : Share) (o : BattleObject) (id : SoldierId) (heal : Int) : Prop :=
  0 < heal → heal ≤ woundedTotal o id ∧ ∀ m, 0 < woundedOf o id m → (o.memberRef m id).isSome ∧
    share.floor heal (woundedOf o id m) (woundedTotal o id)*woundedTotal o id = heal*woundedOf o id m

theorem Splits.whole (splits : Splits share o id heal) (positive : 0 < woundedTotal o id) (nonneg : 0 ≤ heal) (m : Member) :
    gain share o (woundedTotal o id) id heal m*woundedTotal o id = heal*woundedOf o id m := by
  by_cases wounded : 0 < woundedOf o id m
  · by_cases some : 0 < heal
    · obtain ⟨held,exact_share⟩ := (splits some).2 m wounded
      rw [gain,if_pos ⟨held,wounded⟩]
      exact exact_share
    · have none : heal = 0 := by omega
      rw [gain,none,share.floor_zero (woundedOf_nonneg o id m) positive]
      simp
  · have none : woundedOf o id m = 0 := Int.le_antisymm (Int.not_lt.mp wounded) (woundedOf_nonneg o id m)
    rw [gain,if_neg (fun both => wounded both.2),none]
    simp

theorem Splits.fits (splits : Splits share o id heal) (positive : 0 < woundedTotal o id) (nonneg : 0 ≤ heal) (m : Member) :
    share.floor heal (woundedOf o id m) (woundedTotal o id) ≤ woundedOf o id m := by
  have wounded := woundedOf_nonneg o id m
  have room : heal ≤ woundedTotal o id := by
    by_cases some : 0 < heal
    · exact (splits some).1
    · omega
  have scaled := (share.below wounded positive).trans (Int.mul_le_mul_of_nonneg_right room wounded)
  exact Int.le_of_mul_le_mul_right (scaled.trans (Int.mul_comm _ _).le) positive

theorem wounded_someone (positive : 0 < woundedTotal o id) : ∃ m, 0 < woundedOf o id m := by
  by_contra nobody
  have none : woundedTotal o id = 0 := by
    apply List.sum_eq_zero
    intro n listed
    obtain ⟨m,_,rfl⟩ := List.mem_map.mp listed
    exact Int.le_antisymm (Int.not_lt.mp (fun wounded => nobody ⟨m,wounded⟩)) (woundedOf_nonneg o id m)
  omega

theorem distributeHealKind_spends (share : Share) (order : Order Member) {soldierHeal : Table SoldierId Int}
    (nonneg : ∀ m, 0 ≤ o.memberNum m id) (some : 0 ≤ Table.amount soldierHeal (·) id)
    (splits : Splits share start id (Table.amount soldierHeal (·) id)) (unshared : Unshared o)
    (refs : ∀ m, start.memberRef m id = o.memberRef m id) (hurts : ∀ m, start.memberHurt m id = o.memberHurt m id) :
    Spends id (order.visit start.rallySoldierHurt.keys) o (-Table.amount soldierHeal (·) id)
      (distributeHealKind share start (order.visit start.rallySoldierHurt.keys) soldierHeal o id) := by
  have distinct := order.nodup_visit (AList.keys_nodup start.rallySoldierHurt)
  have total : ((order.visit start.rallySoldierHurt.keys).map (woundedOf start id)).sum = woundedTotal start id := order.sum_visit _
  simp only [distributeHealKind,total]
  generalize Table.amount soldierHeal (·) id = heal at some splits ⊢
  split
  · rename_i positive
    have grows : ∀ m, 0 ≤ gain share start (woundedTotal start id) id heal m := by
      intro m
      unfold gain
      split
      · exact share.nonneg some (woundedOf_nonneg _ _ _) positive
      · exact Int.le_refl 0
    have given : ((order.visit start.rallySoldierHurt.keys).map (gain share start (woundedTotal start id) id heal)).sum = heal := by
      have scaled := congrArg List.sum (List.map_congr_left (l:=order.visit start.rallySoldierHurt.keys)
        (fun m _ => splits.whole positive some m))
      rw [List.sum_map_mul_right,List.sum_map_mul_left,total] at scaled
      exact Int.eq_of_mul_eq_mul_right (Int.ne_of_gt positive) scaled
    have healed := healMembers_spends share distinct unshared (fun m _ => refs m) (fun m _ => hurts m)
      (splits.fits positive some) grows (fun m _ => nonneg m)
    rwa [given] at healed
  · rename_i nobody
    have none : heal = 0 := by
      by_contra other
      have room := (splits (by omega)).1
      omega
    rw [none]
    exact .nothing (fun m _ => nonneg m)

theorem distributeHealKind_one (share : Share) (order : Order Member) {soldierHeal : Table SoldierId Int}
    (nonneg : ∀ m id, 0 ≤ start.memberNum m id) (amounts : ∀ id, 0 ≤ Table.amount soldierHeal (·) id)
    (splits : ∀ id, Splits share start id (Table.amount soldierHeal (·) id)) (unshared : Unshared o) (agree : Agree id start o) :
    Unshared (distributeHealKind share start (order.visit start.rallySoldierHurt.keys) soldierHeal o id) ∧
      (∀ j, j ≠ id → Agree j o (distributeHealKind share start (order.visit start.rallySoldierHurt.keys) soldierHeal o id)) ∧
      Spends id (order.visit start.rallySoldierHurt.keys) o (-Table.amount soldierHeal (·) id)
        (distributeHealKind share start (order.visit start.rallySoldierHurt.keys) soldierHeal o id) := by
  have frame : KindOnly id o (distributeHealKind share start (order.visit start.rallySoldierHurt.keys) soldierHeal o id) :=
    distributeHealKind_kindOnly share start _ soldierHeal
  refine ⟨frame.membersOnly.unshared unshared,fun j other => frame.agree unshared other,?_⟩
  exact distributeHealKind_spends share order (fun m => memberNum_congr (agree m).1 ▸ nonneg m id) (amounts id) (splits id)
    unshared (fun m => (agree m).2.1.symm) (fun m => (agree m).2.2.symm)

theorem distributeRallyHeal_total (share : Share) (kinds : Order SoldierId) (members : Order Member)
    {soldierHeal : Table SoldierId Int} (unshared : Unshared o) (nonneg : ∀ m id, 0 ≤ o.memberNum m id)
    (amounts : ∀ id, 0 ≤ Table.amount soldierHeal (·) id)
    (splits : ∀ id, Splits share o id (Table.amount soldierHeal (·) id)) (id : SoldierId) :
    (distributeRallyHeal share kinds members o soldierHeal).membersTotal id =
      o.membersTotal id+Table.amount soldierHeal (·) id ∧
    ∀ m, 0 ≤ (distributeRallyHeal share kinds members o soldierHeal).memberNum m id := by
  unfold distributeRallyHeal
  split
  · rename_i empty
    have none : Table.amount soldierHeal (·) id = 0 := by
      by_contra other
      have some : 0 < Table.amount soldierHeal (·) id := lt_of_le_of_ne (amounts id) (Ne.symm other)
      obtain ⟨m,wounded⟩ := wounded_someone (some.trans_le (splits id some).1)
      have held := ((splits id some).2 m wounded).1
      rw [memberRef_absent] at held
      · cases held
      · rw [AList.mem_keys,List.isEmpty_iff.mp empty]
        exact List.not_mem_nil
    rw [none,Int.add_zero]
    exact ⟨rfl,(nonneg · id)⟩
  · obtain ⟨healed,others,_⟩ := foldKinds_spends (kinds.nodup_visit (AList.keys_nodup soldierHeal)) (fun now id _ =>
      distributeHealKind_one share members nonneg amounts splits) unshared (fun _ _ _ => ⟨rfl,rfl,rfl⟩)
    generalize List.foldl _ _ _ = p at healed others ⊢
    have spends : Spends id (members.visit o.rallySoldierHurt.keys) o (-Table.amount soldierHeal (·) id) p := by
      by_cases listed : id ∈ kinds.visit soldierHeal.keys
      · exact healed id listed
      · have none : Table.amount soldierHeal (·) id = 0 := Table.amount_none (AList.lookup_eq_none.mpr (fun held =>
          listed (kinds.mem_visit.mpr (AList.mem_keys.mp held)))) _
        rw [none]
        exact (Spends.nothing (fun m _ => nonneg m id)).congr (fun _ => rfl) (fun m => (others id listed m).1)
    refine ⟨?_,spends.members_nonneg (nonneg · id)⟩
    rw [spends.membersTotal (members.nodup_visit (AList.keys_nodup o.rallySoldierHurt)),Int.sub_neg]

end Heal
end OriginGame.Battle
