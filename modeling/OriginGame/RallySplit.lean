import OriginGame.RallySums

namespace OriginGame.Battle
open BattleObject

-- What one member takes of each component, and how much of its hardHurt is turned into deaths.
@[ext] structure Portion where
  hardHurt : Int
  die : Int
  minor : Int
  moved : Int

namespace Portion

def none : Portion := ⟨0,0,0,0⟩

def part (p : Portion) : Component → Int
  | .hardHurt => p.hardHurt
  | .die => p.die
  | .minor => p.minor

def add (p : Portion) (n : Int) : Component → Portion
  | .hardHurt => {p with hardHurt:=p.hardHurt+n}
  | .die => {p with die:=p.die+n}
  | .minor => {p with minor:=p.minor+n}

def turn (p : Portion) : Int := p.hardHurt+p.die+p.minor

theorem add_zero (p : Portion) (part : Component) : p.add 0 part = p := by
  cases part <;> simp [add]

theorem add_add (p : Portion) (n k : Int) (part : Component) : (p.add n part).add k part = p.add (n+k) part := by
  cases part <;> simp [add,Int.add_assoc]

@[simp] theorem part_add (p : Portion) (n : Int) (part : Component) : (p.add n part).part part = p.part part+n := by
  cases part <;> rfl

theorem part_add_ne (p : Portion) (n : Int) {part other : Component} (apart : other ≠ part) : (p.add n part).part other = p.part other := by
  cases part <;> cases other <;> first | rfl | exact absurd rfl apart

@[simp] theorem turn_add (p : Portion) (n : Int) (part : Component) : (p.add n part).turn = p.turn+n := by
  cases part <;> simp only [turn,add] <;> omega

@[simp] theorem moved_add (p : Portion) (n : Int) (part : Component) : (p.add n part).moved = p.moved := by
  cases part <;> rfl

end Portion

-- An entry of rallySoldierHurt records a portion.
structure Hurt.Records (hurt : Hurt) (p : Portion) : Prop where
  hardHurt : hurt.hardHurt = p.hardHurt-p.moved
  die : hurt.die = p.die+p.moved
  minor : hurt.minor = p.minor

theorem Hurt.Records.turn {hurt : Hurt} {p : Portion} (records : hurt.Records p) : hurt.turn = p.turn := by
  rw [Hurt.turn,records.hardHurt,records.die,records.minor,Portion.turn]
  omega

theorem Hurt.Records.addPart {hurt : Hurt} {p : Portion} (records : hurt.Records p) (n : Int) (part : Component) :
    (hurt.addPart n part).Records (p.add n part) := by
  obtain ⟨hardHurt,die,minor⟩ := records
  cases part <;> constructor <;> simp only [Hurt.addPart,Portion.add] <;> omega

-- `reinforceDiePercent` of a member.
def reinforceDiePercent (config : BattleConfig) (o : BattleObject) (m : Member) : Int :=
  if o.objectType = .city ∧ m.1 ≠ o.rallyLeader then config.cityReinforceDeathProportion else 0

-- `hardHurtToDie`
def hardHurtToDie (share : Share) (config : BattleConfig) (o : BattleObject) (m : Member) (hardHurt : Int) : Int :=
  if 0 < reinforceDiePercent config o m then share.floor hardHurt (reinforceDiePercent config o m) 1000 else 0

-- What distributeRallyHurt does to the members with one kind.
structure Split (o p : BattleObject) (id : SoldierId) (portion : Member → Portion) : Prop where
  entries : ∀ m, (o.memberRef m id).isSome → ∃ hurt, p.memberHurt m id = some hurt ∧ hurt.Records (portion m)
  counts : ∀ m, p.memberNum m id = o.memberNum m id-(portion m).turn
  others : ∀ m, o.memberRef m id = none → p.memberRef m id = none ∧ p.memberHurt m id = o.memberHurt m id ∧ portion m = .none

-- Only one component of the portions grows.
def Grows (part : Component) (before after : Member → Portion) : Prop := ∀ m, ∃ n, 0 ≤ n ∧ after m = (before m).add n part

section passes
variable {o p q : BattleObject} {id : SoldierId} {m k : Member} {ref : Ref} {share : Share} {config : BattleConfig} {members : List Member}
  {portion after : Member → Portion} {part other : Component} {hurt : Hurt} {all : Int} {before : Member → Option Int}

theorem Grows.refl (part : Component) (portion : Member → Portion) : Grows part portion portion :=
  fun m => ⟨0,Int.le_refl 0,((portion m).add_zero part).symm⟩

theorem Grows.trans {last : Member → Portion} (first : Grows part portion after) (second : Grows part after last) : Grows part portion last := by
  intro m
  obtain ⟨n,more,grown⟩ := first m
  obtain ⟨k,still,last⟩ := second m
  exact ⟨n+k,Int.add_nonneg more still,by rw [last,grown,Portion.add_add]⟩

theorem Grows.part_ne (grows : Grows part portion after) (apart : other ≠ part) (m : Member) : (after m).part other = (portion m).part other := by
  obtain ⟨n,_,grown⟩ := grows m
  rw [grown,Portion.part_add_ne _ _ apart]

theorem Grows.moved (grows : Grows part portion after) (m : Member) : (after m).moved = (portion m).moved := by
  obtain ⟨n,_,grown⟩ := grows m
  rw [grown,Portion.moved_add]

theorem Grows.le (grows : Grows part portion after) (m : Member) (other : Component) : (portion m).part other ≤ (after m).part other := by
  by_cases same : other = part
  · subst same
    obtain ⟨n,more,grown⟩ := grows m
    rw [grown,Portion.part_add]
    omega
  · exact (grows.part_ne same m).ge

-- The component grows by as much as the whole does.
theorem Grows.sum (grows : Grows part portion after) (members : List Member) :
    (members.map (fun m => (after m).part part)).sum-(members.map (fun m => (portion m).part part)).sum =
      (members.map (fun m => (after m).turn)).sum-(members.map (fun m => (portion m).turn)).sum := by
  induction members with
  | nil => rfl
  | cons m rest ih =>
    obtain ⟨n,_,grown⟩ := grows m
    simp only [List.map_cons,List.sum_cons]
    rw [grown,Portion.part_add,Portion.turn_add]
    omega

theorem memberHurt_settle (hurt : Hurt) (n : Int) (k : Member) :
    (settleMember (o.setMemberHurt m id hurt) m id ref n).memberHurt k id = if k = m then some hurt else o.memberHurt k id := by
  have written : (settleMember (o.setMemberHurt m id hurt) m id ref n).memberHurt k id = (o.setMemberHurt m id hurt).memberHurt k id := by
    unfold settleMember
    dsimp only
    split
    · rw [dropMemberKind_rest]
      rfl
    · rfl
  rw [written,memberHurt_setMemberHurt]
  by_cases same : k = m
  · rw [if_pos ⟨same,rfl⟩,if_pos same]
  · rw [if_neg (fun both => same both.1),if_neg same]

theorem Split.refs (split : Split o p id portion) (found : p.memberRef m id = some ref) : (o.memberRef m id).isSome := by
  cases held : o.memberRef m id with
  | some _ => rfl
  | none =>
    rw [(split.others m held).1] at found
    cases found

-- A member's count goes down by what is added to its entry.
theorem Split.write (split : Split o p id portion) (unshared : Unshared p) (held : p.memberRef m id = some ref) (part : Component) (taken : Int)
    (room : taken ≤ (p.cell ref).num) :
    Split o (settleMember (p.setMemberHurt m id (((p.memberHurt m id).getD (Hurt.none (p.cell ref))).addPart taken part)) m id ref
      ((p.cell ref).num-taken)) id (Function.update portion m ((portion m).add taken part)) where
  entries k some_ := by
    obtain ⟨entry,found,records⟩ := split.entries k some_
    rw [memberHurt_settle]
    by_cases same : k = m
    · subst same
      rw [if_pos rfl,Function.update_self,found,Option.getD_some]
      exact ⟨_,rfl,records.addPart taken part⟩
    · rw [if_neg same,Function.update_of_ne same]
      exact ⟨entry,found,records⟩
  counts k := by
    by_cases same : k = m
    · subst same
      rw [memberNum_settle unshared held _ (by omega),Function.update_self,Portion.turn_add,← memberNum_of_ref held,split.counts k]
      omega
    · rw [memberNum_congr (memberCount_settle_ne unshared held _ _ same),Function.update_of_ne same,split.counts k]
  others k missing := by
    have apart : k ≠ m := by
      rintro rfl
      have some_ := split.refs held
      rw [missing] at some_
      cases some_
    obtain ⟨ref_,entry,none_⟩ := split.others k missing
    refine ⟨?_,?_,?_⟩
    · have frame := writeMember_kindOnly held (((p.memberHurt m id).getD (Hurt.none (p.cell ref))).addPart taken part) ((p.cell ref).num-taken)
      cases found : (settleMember _ m id ref ((p.cell ref).num-taken)).memberRef k id with
      | none => rfl
      | some slot =>
        rw [frame.kind found] at ref_
        cases ref_
    · rw [memberHurt_settle,if_neg apart]
      exact entry
    · rw [Function.update_of_ne apart]
      exact none_

theorem update_grows (portion : Member → Portion) (m : Member) (part : Component) (more : 0 ≤ taken) :
    Grows part portion (Function.update portion m ((portion m).add taken part)) := by
  intro k
  by_cases same : k = m
  · subst same
    exact ⟨taken,more,Function.update_self ..⟩
  · rw [Function.update_of_ne same]
    exact Grows.refl part portion k

theorem spendLeft_splits (split : Split o p id portion) (unshared : Unshared p) (nonneg : ∀ m, 0 ≤ p.memberNum m id) (part : Component)
    (members : List Member) (owed : 0 ≤ left) :
    ∃ after, Split o (spendLeft part id members p left) id after ∧ Grows part portion after := by
  induction members generalizing p portion left with
  | nil => exact ⟨portion,split,.refl part portion⟩
  | cons m rest ih =>
    unfold spendLeft
    split
    · exact ih split unshared nonneg owed
    · rename_i ref held
      have had := nonneg m
      rw [memberNum_of_ref held] at had
      dsimp only
      generalize amount : (if left ≤ (p.cell ref).num then left else (p.cell ref).num) = taken
      have bounds : 0 ≤ taken ∧ taken ≤ left ∧ taken ≤ (p.cell ref).num := by
        rw [← amount]
        split <;> omega
      have written := split.write unshared held part taken bounds.2.2
      have grown := update_grows portion m part bounds.1
      have frame := writeMember_kindOnly held (((p.memberHurt m id).getD (Hurt.none (p.cell ref))).addPart taken part) ((p.cell ref).num-taken)
      split
      · exact ⟨_,written,grown⟩
      · have left_nonneg : ∀ k, 0 ≤ (settleMember (p.setMemberHurt m id (((p.memberHurt m id).getD (Hurt.none (p.cell ref))).addPart taken part)) m id
            ref ((p.cell ref).num-taken)).memberNum k id := by
          intro k
          by_cases same : k = m
          · subst same
            rw [memberNum_settle unshared held _ (by omega)]
            omega
          · rw [memberNum_congr (memberCount_settle_ne unshared held _ _ same)]
            exact nonneg k
        have owes : 0 ≤ left-taken := by omega
        obtain ⟨after,later,more⟩ := ih written (frame.membersOnly.unshared unshared) left_nonneg owes
        exact ⟨after,later,grown.trans more⟩

theorem spendIf_splits (split : Split o p id portion) (unshared : Unshared p) (nonneg : ∀ m, 0 ≤ p.memberNum m id) (part : Component)
    (members : List Member) (left : Int) : ∃ after, Split o (spendIf part id members p left) id after ∧ Grows part portion after := by
  unfold spendIf
  split
  · exact spendLeft_splits split unshared nonneg part members (by omega)
  · exact ⟨portion,split,.refl part portion⟩

theorem Split.sum (split : Split o p id portion) (members : List Member) :
    (members.map (p.memberNum · id)).sum = (members.map (o.memberNum · id)).sum-(members.map (fun m => (portion m).turn)).sum := by
  induction members with
  | nil => rfl
  | cons m rest ih =>
    simp only [List.map_cons,List.sum_cons]
    rw [split.counts m,ih]
    omega

theorem Grows.sum_ne (grows : Grows part portion after) (apart : other ≠ part) (members : List Member) :
    (members.map (fun m => (after m).part other)).sum = (members.map (fun m => (portion m).part other)).sum :=
  congrArg List.sum (List.map_congr_left (fun m _ => grows.part_ne apart m))

-- What a pass spends goes to its component.
theorem Grows.spent (grows : Grows part portion after) (first : Split o p id portion) (second : Split o q id after)
    (spends : Spends id members p left q) :
    (members.map (fun m => (after m).part part)).sum = (members.map (fun m => (portion m).part part)).sum+left := by
  have total := spends.total
  rw [first.sum,second.sum] at total
  have grown := grows.sum members
  omega

end passes

section proportional
variable {o p : BattleObject} {id : SoldierId} {m : Member} {share : Share} {config : BattleConfig} {members : List Member}
  {hurt : Hurt} {all : Int} {before : Member → Option Int}

theorem memberCount_isSome (o : BattleObject) (m : Member) (id : SoldierId) : (o.memberCount m id).isSome = (o.memberRef m id).isSome :=
  Option.isSome_map

theorem hardHurtToDie_frame (frame : KindOnly id o p) (hardHurt : Int) : hardHurtToDie share config p m hardHurt = hardHurtToDie share config o m hardHurt := by
  rw [frame.rest]
  rfl

-- The portion of the proportional pass.
def firstPortion (share : Share) (config : BattleConfig) (o : BattleObject) (hurt : Hurt) (all : Int) (before : Member → Option Int) (m : Member) : Portion :=
  ⟨charged share all (before m) hurt.hardHurt,charged share all (before m) hurt.die,charged share all (before m) hurt.minor,
    hardHurtToDie share config o m (charged share all (before m) hurt.hardHurt)⟩

theorem hurtMember_entries (share : Share) (config : BattleConfig) (agree : before m = o.memberCount m id) (left : Left) :
    ((o.memberCount m id).isSome → ∃ entry, (hurtMember share config hurt id all before (o,left) m).1.memberHurt m id = some entry ∧
      entry.Records (firstPortion share config o hurt all before m)) ∧
    ∀ k, k ≠ m ∨ o.memberCount k id = none → (hurtMember share config hurt id all before (o,left) m).1.memberHurt k id = o.memberHurt k id := by
  unfold firstPortion
  rw [agree]
  cases held : o.memberRef m id with
  | none =>
    have missing : o.memberCount m id = none := by rw [memberCount,held]; rfl
    have same : hurtMember share config hurt id all before (o,left) m = (o,left) := by simp only [hurtMember,agree,missing]
    rw [missing,same]
    exact ⟨fun some_ => (by cases some_),fun _ _ => rfl⟩
  | some ref =>
    have found : o.memberCount m id = some (o.cell ref).num := by rw [memberCount,held]; rfl
    rw [found]
    simp only [hurtMember,agree,found,held,charged,Option.map_some,Option.getD_some]
    refine ⟨fun _ => ?_,?_⟩
    · rw [memberHurt_settle,if_pos rfl]
      exact ⟨_,rfl,⟨rfl,rfl,rfl⟩⟩
    · intro k other
      have apart : k ≠ m := by
        rcases other with apart | missing
        · exact apart
        · rintro rfl
          rw [found] at missing
          cases missing
      rw [memberHurt_settle,if_neg apart]

theorem hurtMembers_entries (share : Share) (config : BattleConfig) (distinct : members.Nodup) (unshared : Unshared o)
    (agree : ∀ m ∈ members, before m = o.memberCount m id) (positive : 0 < all) (nonneg : ∀ m ∈ members, 0 ≤ o.memberNum m id)
    (room : hurt.turn ≤ all) (left : Left) :
    (∀ m ∈ members, (o.memberCount m id).isSome → ∃ entry,
      (members.foldl (hurtMember share config hurt id all before) (o,left)).1.memberHurt m id = some entry ∧
        entry.Records (firstPortion share config o hurt all before m)) ∧
    ∀ k, k ∉ members ∨ o.memberCount k id = none →
      (members.foldl (hurtMember share config hurt id all before) (o,left)).1.memberHurt k id = o.memberHurt k id := by
  induction members generalizing o left with
  | nil => exact ⟨fun _ mem => absurd mem List.not_mem_nil,fun _ _ => rfl⟩
  | cons m rest ih =>
    obtain ⟨fresh,distinct⟩ := List.nodup_cons.mp distinct
    have apart : ∀ k ∈ rest, k ≠ m := fun k listed same => fresh (same ▸ listed)
    have first := hurtMember_spec share config unshared (agree m List.mem_cons_self) positive (nonneg m List.mem_cons_self) room left
    have entry := @hurtMember_entries o id m hurt all before share config (agree m List.mem_cons_self) left
    have frame : KindOnly id o (hurtMember share config hurt id all before (o,left) m).1 := hurtMember_kindOnly share config hurt all before left
    rw [List.foldl_cons]
    generalize hurtMember share config hurt id all before (o,left) m = next at first entry frame ⊢
    obtain ⟨q,spent⟩ := next
    obtain ⟨own,others⟩ := entry
    have still (k : Member) (other : k ≠ m) : q.memberCount k id = o.memberCount k id := first.2.1 k other
    obtain ⟨each,untouched⟩ := ih distinct (frame.membersOnly.unshared unshared)
      (fun k listed => (agree k (List.mem_cons_of_mem _ listed)).trans (still k (apart k listed)).symm)
      (fun k listed => memberNum_congr (still k (apart k listed)) ▸ nonneg k (List.mem_cons_of_mem _ listed)) spent
    have portion (k : Member) : firstPortion share config q hurt all before k = firstPortion share config o hurt all before k := by
      unfold firstPortion
      rw [hardHurtToDie_frame frame]
    refine ⟨?_,?_⟩
    · intro k listed some_
      rcases List.mem_cons.mp listed with rfl | later
      · rw [untouched k (.inl fresh)]
        exact own some_
      · rw [← portion]
        exact each k later (by rw [still k (apart k later)]; exact some_)
    · intro k other
      by_cases same : k = m
      · subst same
        have missing := other.resolve_left (fun unlisted => unlisted List.mem_cons_self)
        rw [untouched k (.inl fresh)]
        exact others k (.inr missing)
      · rw [untouched k (other.imp (fun unlisted listed => unlisted (List.mem_cons_of_mem _ listed)) (fun missing => (still k same).trans missing))]
        exact others k (.inl same)

-- No component is negative, and soldiers move to the deaths in reinforcing armies of a city only.
structure Fair (o : BattleObject) (m : Member) (p : Portion) : Prop where
  die : 0 ≤ p.die
  minor : 0 ≤ p.minor
  moved : 0 ≤ p.moved ∧ p.moved ≤ p.hardHurt
  reinforcing : p.moved ≠ 0 → o.objectType = .city ∧ m.1 ≠ o.rallyLeader

theorem charged_nonneg (share : Share) (positive : 0 < all) (nonneg : 0 ≤ had.getD 0) (component : 0 ≤ n) : 0 ≤ charged share all had n := by
  cases had with
  | none => exact Int.le_refl 0
  | some had => exact share.nonneg component nonneg positive

theorem hardHurtToDie_fair (share : Share) (proportion : config.cityReinforceDeathProportion ≤ 1000) (hardHurt : 0 ≤ n) : (0 ≤ hardHurtToDie share config o m n ∧ hardHurtToDie share config o m n ≤ n) ∧
      (hardHurtToDie share config o m n ≠ 0 → o.objectType = .city ∧ m.1 ≠ o.rallyLeader) := by
  unfold hardHurtToDie reinforceDiePercent
  by_cases reinforcing : o.objectType = .city ∧ m.1 ≠ o.rallyLeader
  · rw [if_pos reinforcing]
    have nonneg : (0 : Int) ≤ config.cityReinforceDeathProportion := Int.natCast_nonneg _
    have most : (config.cityReinforceDeathProportion : Int) ≤ 1000 := by omega
    refine ⟨?_,fun _ => reinforcing⟩
    split
    · refine ⟨share.nonneg hardHurt nonneg (by decide),?_⟩
      have below : share.floor n config.cityReinforceDeathProportion 1000*1000 ≤ n*config.cityReinforceDeathProportion :=
        share.below nonneg (by decide)
      have whole : n*config.cityReinforceDeathProportion ≤ n*1000 := Int.mul_le_mul_of_nonneg_left most hardHurt
      omega
    · exact ⟨Int.le_refl 0,hardHurt⟩
  · rw [if_neg reinforcing,if_neg (Int.lt_irrefl 0)]
    exact ⟨⟨Int.le_refl 0,hardHurt⟩,fun other => absurd rfl other⟩

theorem Fair.grows {part : Component} {portion after : Member → Portion} (fair : ∀ m, Fair o m (portion m)) (grows : Grows part portion after) (m : Member) :
    Fair o m (after m) := by
  obtain ⟨die,minor,⟨moved,most⟩,reinforcing⟩ := fair m
  refine ⟨die.trans (grows.le m .die),minor.trans (grows.le m .minor),?_,?_⟩
  · rw [grows.moved m]
    exact ⟨moved,most.trans (grows.le m .hardHurt)⟩
  · rw [grows.moved m]
    exact reinforcing

-- A kind is divided among the members of o when p has what is left of it.
structure Divides (members : List Member) (hurt : Hurt) (o p : BattleObject) (id : SoldierId) (portion : Member → Portion) : Prop where
  split : Split o p id portion
  fair : ∀ m, Fair o m (portion m)
  hardHurt : (members.map (fun m => (portion m).hardHurt)).sum = hurt.hardHurt
  die : (members.map (fun m => (portion m).die)).sum = hurt.die
  minor : (members.map (fun m => (portion m).minor)).sum = hurt.minor

theorem firstPortion_fair (share : Share) (positive : 0 < all) (nonneg : ∀ m, 0 ≤ (before m).getD 0)
    (counted : 0 ≤ hurt.hardHurt ∧ 0 ≤ hurt.die ∧ 0 ≤ hurt.minor)
    (proportion : config.cityReinforceDeathProportion ≤ 1000) (m : Member) :
    Fair o m (firstPortion share config o hurt all before m) := by
  have moves := @hardHurtToDie_fair o m config _ share proportion (charged_nonneg share positive (nonneg m) counted.1)
  exact ⟨charged_nonneg share positive (nonneg m) counted.2.1,charged_nonneg share positive (nonneg m) counted.2.2,moves.1,moves.2⟩

theorem firstPortion_none (share : Share) (config : BattleConfig) (missing : before m = none)
    (proportion : config.cityReinforceDeathProportion ≤ 1000) :
    firstPortion share config o hurt all before m = .none := by
  have moves := @hardHurtToDie_fair o m config 0 share proportion (Int.le_refl 0)
  have still : hardHurtToDie share config o m 0 = 0 := Int.le_antisymm moves.1.2 moves.1.1
  unfold firstPortion
  rw [missing]
  change (⟨0,0,0,hardHurtToDie share config o m 0⟩ : Portion) = _
  rw [still]
  rfl

-- The proportional pass and the three passes for what is left over.
-- What the shares leave of each component goes to the members that still have soldiers.
theorem spendAll_divides {first : Member → Portion} {left : Left} (split : Split o q id first) (fair : ∀ m, Fair o m (first m))
    (distinct : members.Nodup) (unshared : Unshared q) (nonneg : ∀ m, 0 ≤ q.memberNum m id)
    (owes : (members.map (fun m => (first m).hardHurt)).sum+left.hardHurt = hurt.hardHurt ∧
      (members.map (fun m => (first m).die)).sum+left.die = hurt.die ∧ (members.map (fun m => (first m).minor)).sum+left.minor = hurt.minor)
    (rest : 0 ≤ left.hardHurt ∧ 0 ≤ left.die ∧ 0 ≤ left.minor)
    (enough : left.minor+left.hardHurt+left.die ≤ (members.map (q.memberNum · id)).sum) :
    ∃ portion, Divides members hurt o
      (spendIf .die id members (spendIf .hardHurt id members (spendIf .minor id members q left.minor) left.hardHurt) left.die) id portion := by
  obtain ⟨restHard,restDie,restMinor⟩ := rest
  obtain ⟨one,firstSplit,minorGrows⟩ := spendIf_splits split unshared nonneg .minor members left.minor
  have minorSpends := spendIf_spends .minor distinct unshared (fun m _ => nonneg m) restMinor (by omega)
  have unshared : Unshared (spendIf .minor id members q left.minor) := (spendIf_kindOnly .minor members left.minor).membersOnly.unshared unshared
  generalize spendIf .minor id members q left.minor = r at firstSplit minorSpends unshared ⊢
  have rest := minorSpends.total
  obtain ⟨two,secondSplit,hardGrows⟩ := spendIf_splits firstSplit unshared (minorSpends.members_nonneg nonneg) .hardHurt members left.hardHurt
  have hardSpends := spendIf_spends .hardHurt distinct unshared minorSpends.nonneg restHard (by omega)
  have unshared : Unshared (spendIf .hardHurt id members r left.hardHurt) :=
    (spendIf_kindOnly .hardHurt members left.hardHurt).membersOnly.unshared unshared
  generalize spendIf .hardHurt id members r left.hardHurt = t at secondSplit hardSpends unshared ⊢
  have last := hardSpends.total
  obtain ⟨three,thirdSplit,dieGrows⟩ := spendIf_splits secondSplit unshared
    (hardSpends.members_nonneg (minorSpends.members_nonneg nonneg)) .die members left.die
  have dieSpends := spendIf_spends .die distinct unshared hardSpends.nonneg restDie (by omega)
  refine ⟨three,thirdSplit,Fair.grows (Fair.grows (Fair.grows fair minorGrows) hardGrows) dieGrows,?_,?_,?_⟩
  · have grown := hardGrows.spent firstSplit secondSplit hardSpends
    rw [minorGrows.sum_ne (by decide) members] at grown
    have same := dieGrows.sum_ne (show Component.hardHurt ≠ .die by decide) members
    change (members.map (fun m => (three m).hardHurt)).sum = (members.map (fun m => (two m).hardHurt)).sum at same
    change (members.map (fun m => (two m).hardHurt)).sum = (members.map (fun m => (first m).hardHurt)).sum+_ at grown
    omega
  · have grown := dieGrows.spent secondSplit thirdSplit dieSpends
    rw [hardGrows.sum_ne (by decide) members,minorGrows.sum_ne (by decide) members] at grown
    change (members.map (fun m => (three m).die)).sum = (members.map (fun m => (first m).die)).sum+_ at grown
    omega
  · have grown := minorGrows.spent split firstSplit minorSpends
    have same := (dieGrows.sum_ne (show Component.minor ≠ .die by decide) members).trans (hardGrows.sum_ne (by decide) members)
    change (members.map (fun m => (three m).minor)).sum = (members.map (fun m => (one m).minor)).sum at same
    change (members.map (fun m => (one m).minor)).sum = (members.map (fun m => (first m).minor)).sum+_ at grown
    omega

theorem distributeKind_divides {start : BattleObject} {hurts : Table SoldierId Hurt} (found : hurts.lookup id = some hurt)
    (distinct : members.Nodup) (unshared : Unshared o) (agree : ∀ m, start.memberCount m id = o.memberCount m id)
    (covers : ∀ m, (o.memberRef m id).isSome → m ∈ members) (nonneg : ∀ m, 0 ≤ o.memberNum m id)
    (counted : 0 ≤ hurt.hardHurt ∧ 0 ≤ hurt.die ∧ 0 ≤ hurt.minor)
    (room : hurt.turn ≤ (members.map (o.memberNum · id)).sum) (positive : 0 < (members.map (o.memberNum · id)).sum)
    (proportion : config.cityReinforceDeathProportion ≤ 1000) :
    ∃ portion, Divides members hurt o (distributeKind share config start members hurts o id) id portion := by
  have whole : (members.map (fun m => (start.memberCount m id).getD 0)).sum = (members.map (o.memberNum · id)).sum :=
    congrArg List.sum (List.map_congr_left (fun m _ => congrArg (Option.getD · 0) (agree m)))
  have had (m : Member) : 0 ≤ (start.memberCount m id).getD 0 := by
    rw [agree m]
    exact nonneg m
  simp only [distributeKind,found,whole,if_pos positive]
  generalize total : (members.map (o.memberNum · id)).sum = all at *
  obtain ⟨each,untouched,spent⟩ := hurtMembers_spec share config distinct unshared (fun m _ => agree m) positive (fun m _ => nonneg m) room
    ⟨hurt.hardHurt,hurt.die,hurt.minor⟩
  have taken := hurtMembers_spends share config distinct unshared (fun m _ => agree m) positive (fun m _ => nonneg m) room
    ⟨hurt.hardHurt,hurt.die,hurt.minor⟩
  obtain ⟨entries,kept⟩ := hurtMembers_entries share config distinct unshared (fun m _ => agree m) positive (fun m _ => nonneg m) room
    ⟨hurt.hardHurt,hurt.die,hurt.minor⟩
  have frame : KindOnly id o (members.foldl (hurtMember share config hurt id all (start.memberCount · id))
    (o,⟨hurt.hardHurt,hurt.die,hurt.minor⟩)).1 := hurtMembers_kindOnly share config hurt all _ members _
  generalize members.foldl _ _ = next at each untouched spent taken entries kept frame ⊢
  obtain ⟨q,left⟩ := next
  dsimp only at each untouched spent taken entries kept frame ⊢
  have missing {m : Member} (absent : o.memberRef m id = none) : start.memberCount m id = none := by
    rw [agree m,memberCount,absent]
    rfl
  have unlisted {m : Member} (outside : m ∉ members) : o.memberRef m id = none :=
    Option.not_isSome_iff_eq_none.mp (fun some_ => outside (covers m some_))
  let first := firstPortion share config o hurt all (start.memberCount · id)
  have split : Split o q id first := by
    refine ⟨?_,?_,?_⟩
    · intro m some_
      exact entries m (covers m some_) (by rw [memberCount_isSome]; exact some_)
    · intro m
      by_cases listed : m ∈ members
      · exact each m listed
      · rw [memberNum_congr (untouched m listed)]
        have none_ : first m = .none := firstPortion_none share config (missing (unlisted listed)) proportion
        rw [none_]
        exact (Int.sub_zero _).symm
    · intro m absent
      refine ⟨?_,?_,firstPortion_none share config (missing absent) proportion⟩
      · cases there : q.memberRef m id with
        | none => rfl
        | some ref =>
          rw [frame.kind there] at absent
          cases absent
      · exact kept m (.inr (by rw [memberCount,absent]; rfl))
  have fair : ∀ m, Fair o m (first m) := firstPortion_fair share positive had counted proportion
  have unsharedQ := frame.membersOnly.unshared unshared
  have charges : (members.map (fun m => chargedAll share all (start.memberCount m id) hurt)).sum =
      (members.map (fun m => (first m).hardHurt)).sum+(members.map (fun m => (first m).die)).sum+(members.map (fun m => (first m).minor)).sum := by
    simp only [chargedAll,List.sum_map_add]
    rfl
  have hard := charged_sum_le share positive members (fun m _ => had m) whole hurt.hardHurt
  have die := charged_sum_le share positive members (fun m _ => had m) whole hurt.die
  have minor := charged_sum_le share positive members (fun m _ => had m) whole hurt.minor
  change (members.map (fun m => (first m).hardHurt)).sum ≤ _ at hard
  change (members.map (fun m => (first m).die)).sum ≤ _ at die
  change (members.map (fun m => (first m).minor)).sum ≤ _ at minor
  have owes : left.hardHurt = hurt.hardHurt-(members.map (fun m => (first m).hardHurt)).sum ∧
      left.die = hurt.die-(members.map (fun m => (first m).die)).sum ∧ left.minor = hurt.minor-(members.map (fun m => (first m).minor)).sum := by
    rw [spent]
    exact ⟨rfl,rfl,rfl⟩
  have enough : left.minor+left.hardHurt+left.die ≤ (members.map (q.memberNum · id)).sum := by
    rw [taken.total,total,charges]
    unfold Hurt.turn at room
    omega
  exact spendAll_divides split fair distinct unsharedQ (taken.members_nonneg nonneg)
    ⟨by omega,by omega,by omega⟩ ⟨by omega,by omega,by omega⟩ enough

end proportional

section loop
variable {o p q now : BattleObject} {id : SoldierId} {share : Share} {config : BattleConfig} {members left : List Member} {portion : Member → Portion}
  {hurt : Hurt}

theorem Split.congr (split : Split o p id portion) (source : Agree id q o) (target : Agree id p r) : Split q r id portion where
  entries m some_ := by
    rw [(target m).2.2]
    exact split.entries m (by rw [(source m).2.1]; exact some_)
  counts m := by
    rw [memberNum_congr (target m).1,split.counts m,memberNum_congr (source m).1]
  others m missing := by
    obtain ⟨ref,entry,none_⟩ := split.others m (by rw [(source m).2.1]; exact missing)
    exact ⟨(target m).2.1.trans ref,(target m).2.2.trans (entry.trans (source m).2.2),none_⟩

theorem Divides.congr (divides : Divides members hurt o p id portion) (source : Agree id q o) (target : Agree id p r)
    (objectType : o.objectType = q.objectType) (rallyLeader : o.rallyLeader = q.rallyLeader) : Divides members hurt q r id portion := by
  refine ⟨divides.split.congr source target,?_,divides.hardHurt,divides.die,divides.minor⟩
  intro m
  obtain ⟨die,minor,moved,reinforcing⟩ := divides.fair m
  rw [objectType,rallyLeader] at reinforcing
  exact ⟨die,minor,moved,reinforcing⟩

-- The order of the members does not matter.
theorem Divides.perm (divides : Divides members hurt o p id portion) (perm : members.Perm left) : Divides left hurt o p id portion := by
  refine ⟨divides.split,divides.fair,?_,?_,?_⟩
  · rw [← divides.hardHurt]
    exact ((perm.map _).sum_eq).symm
  · rw [← divides.die]
    exact ((perm.map _).sum_eq).symm
  · rw [← divides.minor]
    exact ((perm.map _).sum_eq).symm

end loop

-- The split does not look at `soldiers`.
def BattleObject.bare (o : BattleObject) : BattleObject := {o with soldiers:=∅}

section bare
variable {o : BattleObject} {id : SoldierId} {m : Member} {ref : Ref} {share : Share} {config : BattleConfig}

theorem memberCount_bare (o : BattleObject) : o.bare.memberCount = o.memberCount := rfl

theorem dropMemberKind_bare (o : BattleObject) (m : Member) (id : SoldierId) : o.bare.dropMemberKind m id = (o.dropMemberKind m id).bare := by
  unfold BattleObject.dropMemberKind
  have same : o.bare.rallySoldiers = o.rallySoldiers := rfl
  rw [same]
  cases o.rallySoldiers.lookup m with
  | none => rfl
  | some kinds =>
    dsimp only
    split <;> rfl

theorem settleMember_bare (o : BattleObject) (m : Member) (id : SoldierId) (ref : Ref) (n : Int) :
    settleMember o.bare m id ref n = (settleMember o m id ref n).bare := by
  unfold settleMember
  dsimp only
  split
  · exact dropMemberKind_bare (o.setNum ref n) m id
  · rfl

theorem hurtMember_bare (hurt : Hurt) (all : Int) (before : Member → Option Int) (left : Left) :
    hurtMember share config hurt id all before (o.bare,left) m =
      ((hurtMember share config hurt id all before (o,left) m).1.bare,(hurtMember share config hurt id all before (o,left) m).2) := by
  unfold hurtMember
  have same : o.bare.memberRef m id = o.memberRef m id := rfl
  dsimp only
  rw [same]
  cases before m with
  | none => rfl
  | some had =>
    cases o.memberRef m id with
    | none => rfl
    | some ref => exact Prod.ext (settleMember_bare (o.setMemberHurt m id _) m id ref _) rfl

theorem hurtMembers_bare (hurt : Hurt) (all : Int) (before : Member → Option Int) (members : List Member) (left : Left) :
    members.foldl (hurtMember share config hurt id all before) (o.bare,left) =
      ((members.foldl (hurtMember share config hurt id all before) (o,left)).1.bare,
        (members.foldl (hurtMember share config hurt id all before) (o,left)).2) := by
  induction members generalizing o left with
  | nil => rfl
  | cons m rest ih =>
    rw [List.foldl_cons,List.foldl_cons,hurtMember_bare,ih]

theorem spendLeft_bare (part : Component) (members : List Member) (left : Int) :
    spendLeft part id members o.bare left = (spendLeft part id members o left).bare := by
  induction members generalizing o left with
  | nil => rfl
  | cons m rest ih =>
    cases held : o.memberRef m id with
    | none =>
      have bare : o.bare.memberRef m id = none := held
      rw [spendLeft,spendLeft,held,bare]
      exact ih left
    | some ref =>
      have bare : o.bare.memberRef m id = some ref := held
      rw [spendLeft,spendLeft,held,bare]
      dsimp only
      have same := settleMember_bare (o.setMemberHurt m id (((o.memberHurt m id).getD (Hurt.none (o.cell ref))).addPart
        (if left ≤ (o.cell ref).num then left else (o.cell ref).num) part)) m id ref ((o.cell ref).num-if left ≤ (o.cell ref).num then left else (o.cell ref).num)
      by_cases done : left-(if left ≤ (o.cell ref).num then left else (o.cell ref).num) ≤ 0
      · rw [if_pos done]
        exact (if_pos done).trans same
      · rw [if_neg done]
        exact (if_neg done).trans ((congrArg (spendLeft part id rest · _) same).trans (ih _))

theorem spendIf_bare (part : Component) (members : List Member) (left : Int) :
    spendIf part id members o.bare left = (spendIf part id members o left).bare := by
  unfold spendIf
  split
  · exact spendLeft_bare part members left
  · rfl

theorem distributeKind_bare (start : BattleObject) (members : List Member) (hurts : Table SoldierId Hurt) :
    distributeKind share config start.bare members hurts o.bare id = (distributeKind share config start members hurts o id).bare := by
  unfold distributeKind
  cases hurts.lookup id with
  | none => rfl
  | some hurt =>
    simp only [memberCount_bare,hurtMembers_bare,spendIf_bare]
    split <;> rfl

theorem distributeRallyHurt_bare (kinds : Order SoldierId) (members : Order Member) :
    distributeRallyHurt share config kinds members o.bare = (distributeRallyHurt share config kinds members o).bare := by
  have run (ids : List SoldierId) (now : BattleObject) :
      ids.foldl (distributeKind share config o.bare (members.visit o.rallySoldiers.keys) o.soldierHurt) now.bare =
        (ids.foldl (distributeKind share config o (members.visit o.rallySoldiers.keys) o.soldierHurt) now).bare := by
    induction ids generalizing now with
    | nil => rfl
    | cons id rest ih =>
      rw [List.foldl_cons,List.foldl_cons,distributeKind_bare]
      exact ih _
  exact run _ o

end bare

-- No soldierInfo table is in two members, no count and no loss of the turn is negative, and the
-- members have the soldiers that the object lost.
structure Bears (o : BattleObject) : Prop where
  tables : ∀ {m n i j ref}, o.memberRef m i = some ref → o.memberRef n j = some ref → m = n ∧ i = j
  members : ∀ m id, 0 ≤ o.memberNum m id
  counted : ∀ id hurt, o.soldierHurt.lookup id = some hurt → 0 ≤ hurt.hardHurt ∧ 0 ≤ hurt.die ∧ 0 ≤ hurt.minor
  room : ∀ id, o.hurt Hurt.turn id ≤ o.membersTotal id

-- What the entries of the members that had the kind record for the turn.
def recordedTurn (o p : BattleObject) (id : SoldierId) : Int :=
  (o.rallySoldiers.keys.map (fun m => if (o.memberRef m id).isSome then ((p.memberHurt m id).map Hurt.turn).getD 0 else 0)).sum

-- p is o after the losses of one kind are split: what the members lose is what the object lost and
-- what they record, and a kind without losses or members is left alone.
structure Distributed (o p : BattleObject) (id : SoldierId) : Prop where
  removed : p.membersTotal id = o.membersTotal id-o.hurt Hurt.turn id
  nonneg : ∀ m, 0 ≤ p.memberNum m id
  untouched : ∀ m, o.memberRef m id = none → p.memberRef m id = none ∧ p.memberHurt m id = o.memberHurt m id
  recorded : ∀ hurt, o.soldierHurt.lookup id = some hurt → 0 < o.membersTotal id → recordedTurn o p id = hurt.turn
  divided : ∀ hurt, o.soldierHurt.lookup id = some hurt → 0 < o.membersTotal id → ∃ portion, Divides o.rallySoldiers.keys hurt o p id portion
  idle : o.soldierHurt.lookup id = none ∨ o.membersTotal id = 0 → ∀ m, p.memberHurt m id = o.memberHurt m id ∧ p.memberCount m id = o.memberCount m id

section distribution
variable {o p : BattleObject} {id : SoldierId} {share : Share} {config : BattleConfig} {hurt : Hurt} {portion : Member → Portion}

theorem Bears.owed (bears : Bears o) (id : SoldierId) : 0 ≤ o.hurt Hurt.turn id := by
  cases found : o.soldierHurt.lookup id with
  | none => exact (Table.amount_none found _).ge
  | some hurt =>
    obtain ⟨hardHurt,die,minor⟩ := bears.counted id hurt found
    have turn : o.hurt Hurt.turn id = hurt.turn := Table.amount_some found _
    rw [turn,Hurt.turn]
    omega

theorem Divides.recorded (divides : Divides o.rallySoldiers.keys hurt o p id portion) : recordedTurn o p id = hurt.turn := by
  have own (m : Member) : (if (o.memberRef m id).isSome then ((p.memberHurt m id).map Hurt.turn).getD 0 else 0) = (portion m).turn := by
    by_cases some_ : (o.memberRef m id).isSome
    · obtain ⟨entry,found,records⟩ := divides.split.entries m some_
      rw [if_pos some_,found]
      exact records.turn
    · rw [if_neg some_,(divides.split.others m (Option.not_isSome_iff_eq_none.mp some_)).2.2]
      rfl
  unfold recordedTurn
  rw [List.map_congr_left (fun m _ => own m)]
  simp only [Portion.turn,List.sum_map_add]
  rw [divides.hardHurt,divides.die,divides.minor,Hurt.turn]

theorem unshared_distributed (share : Share) (kinds : Order SoldierId) (members : Order Member) (unshared : Unshared o) (bears : Bears o)
    (proportion : config.cityReinforceDeathProportion ≤ 1000) (id : SoldierId) :
    Distributed o (distributeRallyHurt share config kinds members o) id := by
  obtain ⟨removed,nonneg⟩ := distributeRallyHurt_total share config kinds members unshared bears.members (fun id => ⟨bears.owed id,bears.room id⟩) id
  have visited : o.membersTotal id = ((members.visit o.rallySoldiers.keys).map (o.memberNum · id)).sum := (members.sum_visit _).symm
  obtain ⟨turns,unlisted,_⟩ := @foldKinds_turn o (distributeKind share config o (members.visit o.rallySoldiers.keys) o.soldierHurt)
    (kinds.visit o.soldierHurt.keys) (kinds.nodup_visit (AList.keys_nodup o.soldierHurt)) (MembersOnly o) (fun now id _ reached _ =>
      have frame : KindOnly id now (distributeKind share config o (members.visit o.rallySoldiers.keys) o.soldierHurt now id) :=
        distributeKind_kindOnly share config o _ o.soldierHurt
      ⟨reached.trans frame.membersOnly,fun _ other => frame.agree (reached.unshared unshared) other⟩) o (.refl o) (fun id _ => .refl id o)
  have present (hurt : Hurt) (found : o.soldierHurt.lookup id = some hurt) : ∃ now, MembersOnly o now ∧ Agree id o now ∧
      Agree id (distributeKind share config o (members.visit o.rallySoldiers.keys) o.soldierHurt now id)
        (distributeRallyHurt share config kinds members o) :=
    turns id (Table.visit_of_found found)
  have divided (hurt : Hurt) (found : o.soldierHurt.lookup id = some hurt) (some_ : 0 < o.membersTotal id) :
      ∃ portion, Divides o.rallySoldiers.keys hurt o (distributeRallyHurt share config kinds members o) id portion := by
    obtain ⟨now,frame,reached,after⟩ := present hurt found
    have nums (m : Member) : now.memberNum m id = o.memberNum m id := memberNum_congr (reached m).1
    have total : ((members.visit o.rallySoldiers.keys).map (now.memberNum · id)).sum = o.membersTotal id := by
      rw [visited,List.map_congr_left (fun m _ => nums m)]
    have amount : o.hurt Hurt.turn id = hurt.turn := Table.amount_some found _
    have room := bears.room id
    rw [amount] at room
    have covers (m : Member) (held : (now.memberRef m id).isSome) : m ∈ members.visit o.rallySoldiers.keys := by
      rw [(reached m).2.1] at held
      refine members.mem_visit.mpr (AList.mem_keys.mp ?_)
      by_contra gone
      rw [memberRef_absent gone] at held
      cases held
    obtain ⟨portion,divides⟩ := @distributeKind_divides now id share config (members.visit o.rallySoldiers.keys) hurt o o.soldierHurt found
      (members.nodup_visit (AList.keys_nodup o.rallySoldiers)) (frame.unshared unshared) (fun m => (reached m).1.symm) covers
      (fun m => by rw [nums m]; exact bears.members m id) (bears.counted id hurt found) (by rw [total]; exact room) (by rw [total]; exact some_) proportion
    exact ⟨portion,(divides.congr reached after (by rw [frame.rest]) (by rw [frame.rest])).perm (members.perm _)⟩
  -- Without losses or soldiers of the kind nothing is written.
  have idle (none_ : o.soldierHurt.lookup id = none ∨ o.membersTotal id = 0) : Agree id o (distributeRallyHurt share config kinds members o) := by
    cases found : o.soldierHurt.lookup id with
    | none => exact unlisted id (fun listed => AList.lookup_eq_none.mp found (AList.mem_keys.mpr (kinds.mem_visit.mp listed)))
    | some hurt =>
      have empty := none_.resolve_left (by rw [found]; exact Option.some_ne_none hurt)
      obtain ⟨now,_,reached,after⟩ := present hurt found
      have same : distributeKind share config o (members.visit o.rallySoldiers.keys) o.soldierHurt now id = now := by
        have nobody : ¬ 0 < ((members.visit o.rallySoldiers.keys).map (fun m => (o.memberCount m id).getD 0)).sum :=
          fun some_ => absurd (visited.symm.trans empty) some_.ne'
        simp only [distributeKind,found,if_neg nobody]
      rw [same] at after
      exact reached.trans after
  refine ⟨removed,nonneg,?_,?_,divided,fun none_ m => ⟨(idle none_ m).2.2,(idle none_ m).1⟩⟩
  · intro m missing
    by_cases some_ : (∃ hurt, o.soldierHurt.lookup id = some hurt) ∧ 0 < o.membersTotal id
    · obtain ⟨⟨hurt,found⟩,some_⟩ := some_
      obtain ⟨portion,divides⟩ := divided hurt found some_
      obtain ⟨ref,entry,_⟩ := divides.split.others m missing
      exact ⟨ref,entry⟩
    · have none_ : o.soldierHurt.lookup id = none ∨ o.membersTotal id = 0 := by
        cases found : o.soldierHurt.lookup id with
        | none => exact .inl rfl
        | some hurt =>
          have owed := bears.owed id
          have room := bears.room id
          exact .inr (by by_contra other; exact some_ ⟨⟨hurt,found⟩,by omega⟩)
      exact ⟨(idle none_ m).2.1.trans missing,(idle none_ m).2.2⟩
  · intro hurt found some_
    obtain ⟨portion,divides⟩ := divided hurt found some_
    exact divides.recorded

end distribution

theorem distributeRallyHurt_distributed {o : BattleObject} {config : BattleConfig} (share : Share) (kinds : Order SoldierId) (members : Order Member)
    (bears : Bears o) (proportion : config.cityReinforceDeathProportion ≤ 1000) (id : SoldierId) :
    Distributed o (distributeRallyHurt share config kinds members o) id := by
  have unshared : Unshared o.bare := ⟨fun found => (by cases found),bears.tables,fun found => (by cases found)⟩
  have bare : Bears o.bare := ⟨bears.tables,bears.members,bears.counted,bears.room⟩
  have split := unshared_distributed share kinds members unshared bare proportion id
  rw [distributeRallyHurt_bare] at split
  refine ⟨split.removed,split.nonneg,split.untouched,split.recorded,?_,split.idle⟩
  intro hurt found some_
  obtain ⟨portion,divides⟩ := split.divided hurt found some_
  exact ⟨portion,⟨divides.split.entries,divides.split.counts,divides.split.others⟩,
    fun m => ⟨(divides.fair m).die,(divides.fair m).minor,(divides.fair m).moved,(divides.fair m).reinforcing⟩,
    divides.hardHurt,divides.die,divides.minor⟩
section Besieged

-- A city with the army of its lord and one that reinforces it, of thirty and forty soldiers.
def besieged : BattleObject where
  objectIndex := 1
  objectType := .city
  isRally := false
  rallyLeader := 1
  exitBattleFlag := false
  attackTargetIndex := 2
  turnHurt := 0
  soldiers := AList.insert 1 (0,1) ∅
  soldierHurt := AList.insert 1 ⟨1,1,20,10,10,0,0,0⟩ ∅
  soldierHurtWithObjectIndex := ∅
  rallySoldiers := AList.insert (1,1) (AList.insert 1 (1,1) ∅) (AList.insert (2,1) (AList.insert 1 (2,1) ∅) ∅)
  rallySoldierHurt := ∅
  cell := fun ref => ⟨1,1,if ref.1 = 1 then 30 else 40⟩
  fresh := 3

theorem besieged_member {m : Member} {id : SoldierId} {ref : Ref} (found : besieged.memberRef m id = some ref) :
    id = 1 ∧ ref = m ∧ (m = (1,1) ∨ m = (2,1)) := memberRef_two rfl found

theorem besieged_bears : Bears besieged where
  tables left right := by
    obtain ⟨rfl,rfl,_⟩ := besieged_member left
    obtain ⟨rfl,same,_⟩ := besieged_member right
    exact ⟨same,rfl⟩
  members m id := by
    cases held : besieged.memberRef m id with
    | none =>
      rw [memberNum,memberCount,held]
      exact Int.le_refl 0
    | some ref =>
      rw [memberNum_of_ref held]
      obtain ⟨_,rfl,rfl | rfl⟩ := besieged_member held <;> decide
  counted id hurt found := by
    obtain ⟨_,rfl⟩ := Table.lookup_only found
    decide
  room id := by
    by_cases same : id = 1
    · subst same
      decide
    · have missing : besieged.soldierHurt.lookup id = none := (AList.lookup_insert_ne same).trans (AList.lookup_empty id)
      have nobody (m : Member) : besieged.memberNum m id = 0 := by
        cases held : besieged.memberRef m id with
        | none =>
          rw [memberNum,memberCount,held]
          rfl
        | some ref => exact absurd (besieged_member held).1 same
      rw [hurt,Table.amount_none missing,membersTotal,List.map_congr_left (fun m _ => nobody m)]
      decide

theorem besieged_split : Bears besieged ∧
    Distributed besieged (distributeRallyHurt Share.exact ⟨fun _ => some 1,500⟩ .stored .stored besieged) 1 :=
  ⟨besieged_bears,distributeRallyHurt_distributed Share.exact .stored .stored besieged_bears (by decide) 1⟩

example : (distributeRallyHurt Share.exact ⟨fun _ => some 1,500⟩ .stored .stored besieged).memberHurt (2,1) 1 = some ⟨1,1,6,10,5,0,0,0⟩ := by decide

end Besieged
end OriginGame.Battle
