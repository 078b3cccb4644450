import Mathlib.Algebra.Order.BigOperators.Group.List
import OriginGame.BattleFrames

namespace OriginGame.Battle
open BattleObject

variable {o : BattleObject} {id : SoldierId} {ref : Ref} {share : Share} {config : BattleConfig} {state : Healing}
  {entry : Hurt} {healMinor : Int}

-- The object once the entry is written.
def afterHeal (o : BattleObject) (id : SoldierId) (entry : Hurt) (healMinor : Int) : BattleObject :=
  {o with soldierHurt:=o.soldierHurt.insert id (entry.heal (healed entry healMinor))}

theorem healKind_absent (missing : state.object.soldiers.lookup id = none)
    (found : state.object.soldierHurt.lookup id = some entry) :
    (healKind state id healMinor).object =
      recordSoldierHealWithObjectIndex (afterHeal state.object id entry healMinor) id (healed entry healMinor) := by
  simp only [healKind,found,missing,afterHeal]

theorem healKind_present (held : state.object.soldiers.lookup id = some ref)
    (found : state.object.soldierHurt.lookup id = some entry) :
    healKind state id healMinor = ⟨recordSoldierHealWithObjectIndex ((afterHeal state.object id entry healMinor).setNum ref
        ((state.object.cell ref).num+healed entry healMinor)) id (healed entry healMinor),
      state.hadHeal+healed entry healMinor,
      state.allHealInfo.insert id (Table.amount state.allHealInfo (·) id+healed entry healMinor)⟩ := by
  simp only [healKind,found,held,afterHeal]

theorem healed_nonneg (minor : 0 ≤ entry.allMinor) (nonneg : 0 ≤ healMinor) : 0 ≤ healed entry healMinor := by
  unfold healed
  split <;> omega

theorem healed_le : healed entry healMinor ≤ entry.allMinor ∧ healed entry healMinor ≤ healMinor := by
  unfold healed
  split <;> omega

theorem healed_counted (counted : Hurt.Counted entry) : (entry.heal (healed entry healMinor)).Counted :=
  ⟨counted.hardHurt,counted.die,counted.minor,counted.allHardHurt,counted.allDie,Int.sub_nonneg.mpr healed_le.1⟩

theorem lost_heal (entry : Hurt) (n : Int) : (entry.heal n).lost = entry.lost-n := by
  simp only [Hurt.heal,Hurt.lost,Hurt.hard,Hurt.dead,Hurt.light]
  omega

theorem healKind_soldiers : (healKind state id healMinor).object.soldiers = state.object.soldiers := by
  cases found : state.object.soldierHurt.lookup id with
  | none => simp only [healKind,found]
  | some entry =>
    cases held : state.object.soldiers.lookup id with
    | none => rw [healKind_absent held found]; rfl
    | some ref => rw [healKind_present held found]; rfl

theorem healKind_soldiersOnly : SoldiersOnly state.object (healKind state id healMinor).object := by
  cases found : state.object.soldierHurt.lookup id with
  | none =>
    simp only [healKind,found]
    exact .refl _
  | some entry =>
    cases held : state.object.soldiers.lookup id with
    | none =>
      rw [healKind_absent held found]
      exact ⟨rfl,rfl,rfl,rfl,rfl,fun found => found,fun _ => rfl⟩
    | some ref =>
      rw [healKind_present held found]
      exact ⟨rfl,rfl,rfl,rfl,rfl,fun found => found,fun unheld => cell_setNum_ne (afterHeal state.object id entry healMinor) _
        (fun same => unheld id (same ▸ held))⟩

theorem healKind_hurt_ne (field : Hurt → Int) (other : j ≠ id) :
    (healKind state id healMinor).object.hurt field j = state.object.hurt field j := by
  cases found : state.object.soldierHurt.lookup id with
  | none => simp only [healKind,found]
  | some entry =>
    cases held : state.object.soldiers.lookup id with
    | none => rw [healKind_absent held found]; exact Table.amount_insert_ne _ _ _ other
    | some ref => rw [healKind_present held found]; exact Table.amount_insert_ne _ _ _ other

theorem healKind_hadHeal (minor : 0 ≤ state.object.hurt Hurt.allMinor id) (nonneg : 0 ≤ healMinor) :
    state.hadHeal ≤ (healKind state id healMinor).hadHeal ∧
      (healKind state id healMinor).hadHeal ≤ state.hadHeal+healMinor := by
  cases found : state.object.soldierHurt.lookup id with
  | none => simp only [healKind,found]; omega
  | some entry =>
    rw [BattleObject.hurt,Table.amount_some found] at minor
    have given := healed_nonneg minor nonneg
    have most : healed entry healMinor ≤ healMinor := healed_le.2
    cases held : state.object.soldiers.lookup id with
    | none => simp only [healKind,found,held]; omega
    | some ref => rw [healKind_present held found]; dsimp only; omega

section Kinds
variable {heal allMinorCount : Int} {kinds : List SoldierId} {valid : Healing → Prop}

-- The heal not yet spent always covers the shares of the kinds still to come,
-- so the remainder the last kind takes is not negative.
theorem healKinds_keeps (nonneg : 0 ≤ heal) (positive : 0 < allMinorCount) (distinct : kinds.Nodup)
    (kept : ∀ state id healMinor, id ∈ kinds → valid state → 0 ≤ state.object.hurt Hurt.allMinor id → 0 ≤ healMinor →
      healMinor ≤ heal → valid (healKind state id healMinor))
    (start : valid state) (spent : 0 ≤ state.hadHeal)
    (minors : ∀ id ∈ kinds, 0 ≤ state.object.hurt Hurt.allMinor id)
    (budget : heal*(kinds.map (state.object.hurt Hurt.allMinor)).sum ≤ (heal-state.hadHeal)*allMinorCount) :
    valid (healKinds share heal allMinorCount kinds state) := by
  induction kinds generalizing state with
  | nil => exact start
  | cons id rest ih =>
    have sum : 0 ≤ (rest.map (state.object.hurt Hurt.allMinor)).sum := by
      apply List.sum_nonneg
      intro n listed
      obtain ⟨other,member,rfl⟩ := List.mem_map.mp listed
      exact minors other (List.mem_cons_of_mem _ member)
    have minor := minors id List.mem_cons_self
    rw [List.map_cons,List.sum_cons,Int.mul_add] at budget
    have own : 0 ≤ heal*state.object.hurt Hurt.allMinor id := Int.mul_nonneg nonneg minor
    have others := Int.mul_nonneg nonneg sum
    have left : 0 ≤ heal-state.hadHeal :=
      Int.le_of_mul_le_mul_right (by rw [Int.zero_mul]; omega) positive
    cases rest with
    | nil => exact kept state id _ List.mem_cons_self start minor left (by omega)
    | cons next rest =>
      have share_nonneg := share.nonneg nonneg minor positive
      have share_below : share.floor heal (state.object.hurt Hurt.allMinor id) allMinorCount*allMinorCount ≤
        heal*state.object.hurt Hurt.allMinor id := share.below minor positive
      have share_left : share.floor heal (state.object.hurt Hurt.allMinor id) allMinorCount ≤ heal-state.hadHeal :=
        Int.le_of_mul_le_mul_right (by omega) positive
      obtain ⟨grew,most⟩ := healKind_hadHeal minor share_nonneg
      obtain ⟨fresh,distinct⟩ := List.nodup_cons.mp distinct
      have same : ∀ other ∈ next::rest, (healKind state id (share.floor heal (state.object.hurt Hurt.allMinor id)
          allMinorCount)).object.hurt Hurt.allMinor other = state.object.hurt Hurt.allMinor other :=
        fun other listed => healKind_hurt_ne _ (fun equal => fresh (equal ▸ listed))
      unfold healKinds
      refine ih distinct (fun state other n listed => kept state other n (List.mem_cons_of_mem _ listed))
        (kept state id _ List.mem_cons_self start minor share_nonneg (by omega)) (spent.trans grew) ?_ ?_
      · intro other listed
        rw [same other listed]
        exact minors other (List.mem_cons_of_mem _ listed)
      · rw [List.map_congr_left same]
        have spend := Int.mul_le_mul_of_nonneg_right most (Int.le_of_lt positive)
        rw [Int.add_mul] at spend
        rw [Int.sub_mul] at budget ⊢
        omega

theorem healable_minor (able : healable config o id = true) : 0 < o.hurt Hurt.allMinor id := by
  simp only [healable,Bool.and_eq_true,decide_eq_true_eq] at able
  exact able.1

theorem mem_allMinorInfo : id ∈ allMinorInfo config order o ↔ id ∈ o.soldierHurt ∧ healable config o id = true := by
  unfold allMinorInfo
  rw [List.mem_insertionSort,List.mem_filter,order.mem_visit,AList.mem_keys]

theorem allMinorInfo_nodup : (allMinorInfo config order o).Nodup := by
  unfold allMinorInfo
  rw [(List.perm_insertionSort _ _).nodup_iff]
  exact (order.nodup_visit (AList.keys_nodup _)).filter _

theorem healSoldiers_keeps (valid : Healing → Prop)
    (kept : ∀ state id healMinor, id ∈ o.soldierHurt → healable config o id = true → valid state →
      0 ≤ state.object.hurt Hurt.allMinor id → 0 ≤ healMinor → healMinor ≤ (call.heal : Int) → valid (healKind state id healMinor))
    (start : valid ⟨o,0,∅⟩) : valid (healSoldiers share config call o) := by
  have able : ∀ id ∈ allMinorInfo config call.hurtOrder o, 0 < o.hurt Hurt.allMinor id :=
    fun id listed => healable_minor (mem_allMinorInfo.mp listed).2
  unfold healSoldiers
  by_cases none : allMinorInfo config call.hurtOrder o = []
  · rw [none]
    exact start
  · apply healKinds_keeps (Int.natCast_nonneg _) _ allMinorInfo_nodup _ start (Int.le_refl 0)
    · exact fun id listed => Int.le_of_lt (able id listed)
    · rw [Int.sub_zero]
    · apply List.sum_pos _ _ (by simpa using none)
      intro n listed
      obtain ⟨id,member,rfl⟩ := List.mem_map.mp listed
      exact able id member
    · intro state id healMinor listed
      obtain ⟨held,able⟩ := mem_allMinorInfo.mp listed
      exact kept state id healMinor held able

end Kinds
end OriginGame.Battle
