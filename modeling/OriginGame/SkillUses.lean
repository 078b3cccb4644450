import Mathlib.Algebra.Order.BigOperators.Group.Finset
import Mathlib.Algebra.Order.BigOperators.Group.List
import OriginGame.BattleSkill

namespace OriginGame
namespace BattleSkill

section steps
variable {σ : Type} {e : Effects σ} {cfg : Config} {scene after : Scene σ}

-- A skill that passes all checks.
structure Passed (cfg : Config) (scene : Scene σ) (attackIndex : Nat) (skillInfo : SkillInfo) (use : Use) (battle : SkillBattle) : Prop where
  object : use.objectIndex = attackIndex
  skill : use.skillId = skillInfo.skillId
  hero : skillInfo.skillId ∈ cfg.s_HeroSkill
  entry : cfg.s_SkillBattle.lookup use.key = some battle
  active : battle.autoActive.isSome = true
  count : checkTriggerCount scene attackIndex skillInfo.skillId battle.autoActiveRate = true
  interval : checkTriggerInterval scene attackIndex skillInfo.skillId battle.autoActiveInterval = true

theorem attempt_passed {attackIndex defenseIndex skillBattleId : Nat} {skillTrigger : SkillTrigger} {useSkill : Option (Nat × Nat)} {skillInfo : SkillInfo}
    {use : Use} {battle : SkillBattle} (passes : (attempt e cfg scene attackIndex defenseIndex skillTrigger useSkill skillInfo skillBattleId).1 = some (use,battle)) :
    Passed cfg scene attackIndex skillInfo use battle := by
  unfold attempt at passes
  split at passes
  · cases passes
  · dsimp only at passes
    split at passes
    · rename_i hero entry heroes entries
      split at passes
      · rename_i checks
        dsimp only at passes
        split at passes
        · cases passes
        · cases passes
          simp only [Bool.and_eq_true,decide_eq_true_eq] at checks
          obtain ⟨⟨⟨⟨⟨_,active⟩,_⟩,_⟩,count⟩,interval⟩ := checks
          refine ⟨rfl,rfl,Table.mem_of_lookup heroes,entries,?_,count,interval⟩
          rw [active]
          rfl
      · cases passes
    · cases passes

def Frame.attacker : Frame σ → Option Nat
  | .skillInfo attackIndex .. | .skill attackIndex .. => some attackIndex
  | _ => none

-- Not the end of a use, and no skill of an object that is not on the map.
def Plain (e : Effects σ) (frame : Frame σ) : Prop := frame.records = none ∧ ∀ attackIndex ∈ frame.attacker, attackIndex ∈ e.objects

-- What one frame does to the uses and the counters.
inductive Does (e : Effects σ) (cfg : Config) (scene : Scene σ) (frame : Frame σ) (pushed : List (Frame σ)) (after : Scene σ) : Prop where
  | quiet (none : frame.records = none) (all : ∀ frame ∈ pushed, Plain e frame) (same : ∃ rest, after = {scene with rest})
  | begins (use : Use) (battle : SkillBattle) (none : frame.records = none) (known : use.objectIndex ∈ e.objects)
      (passed : ∃ skillInfo, Passed cfg scene use.objectIndex skillInfo use battle) (one : pushed.filterMap Frame.records = [use])
      (all : ∀ frame ∈ pushed, ∀ attackIndex ∈ frame.attacker, attackIndex ∈ e.objects) (same : ∃ rest, after = {scene with rest, used:=use::scene.used})
      (alone : ∀ below, Calm e cfg ⟨frame::below,scene⟩ → (∀ frame ∈ below, frame.records ≠ some use) ∧ (use.useSkillId = use.skillId ∨ use ∉ scene.used))
  | records (use : Use) (battle : SkillBattle) (one : frame.records = some use) (none : pushed = []) (same : after = record e scene use battle)

theorem plain_ended (moment : StatusTrigger) (objectIndex : Nat) (removed : List Nat) : ∀ frame ∈ ended moment objectIndex removed, Plain e frame := by
  unfold ended
  refine List.forall_mem_append.mpr ⟨List.forall_mem_map.mpr (fun _ _ => ⟨rfl,nofun⟩),?_⟩
  split
  · exact List.forall_mem_nil _
  · exact List.forall_mem_singleton.mpr ⟨rfl,nofun⟩

theorem plain_trigger (attackIndex defenseIndex : Nat) (skillTrigger : SkillTrigger) : Plain e (trigger attackIndex defenseIndex skillTrigger) := ⟨rfl,nofun⟩

theorem does_call (call : Call σ) : Does e cfg scene (.call call) (runCall e scene call).1 (runCall e scene call).2 := by
  cases call with
  | triggerSkill attackIndex defenseIndex skillTrigger useSkill =>
    refine .quiet rfl ?_ ⟨_,rfl⟩
    refine List.forall_mem_map.mpr (fun skillInfo mem => ⟨rfl,?_⟩)
    rintro _ ⟨⟩
    by_contra outside
    rw [e.skills_known scene.rest attackIndex outside] at mem
    cases mem
  | cacleShiled objectIndex damage => exact .quiet rfl (plain_ended _ _ _) ⟨_,rfl⟩
  | healArmy objectIndex heal => exact .quiet rfl (List.forall_mem_singleton.mpr (plain_trigger _ _ _)) ⟨_,rfl⟩
  | cacleStatusHeal objectIndex buffIndex =>
    refine .quiet rfl ?_ ⟨_,rfl⟩
    rw [runCall]
    dsimp only
    split
    · exact List.forall_mem_cons.mpr ⟨⟨rfl,nofun⟩,List.forall_mem_singleton.mpr ⟨rfl,nofun⟩⟩
    · exact List.forall_mem_nil _
  | cacleStatusDamage objectIndex buffIndex =>
    rw [runCall]
    split
    · exact .quiet rfl (List.forall_mem_nil _) ⟨_,rfl⟩
    · exact .quiet rfl (List.forall_mem_append.mpr ⟨plain_ended _ _ _,List.forall_mem_singleton.mpr ⟨rfl,nofun⟩⟩) ⟨_,rfl⟩
  | removeBuffs moment objectIndex pick => exact .quiet rfl (plain_ended _ _ _) ⟨_,rfl⟩
  | other change => exact .quiet rfl (List.forall_mem_nil _) ⟨_,rfl⟩

theorem records_useSkill (use : Use) (battle : SkillBattle) (targets : List Nat) (attackIndex defenseIndex : Nat) :
    (useSkill use battle targets attackIndex defenseIndex : List (Frame σ)).filterMap Frame.records = [use] := by
  have none : (targets.map (Frame.target (σ:=σ) use battle)).filterMap Frame.records = [] :=
    List.filterMap_eq_nil_iff.mpr (List.forall_mem_map.mpr (fun _ _ => rfl))
  unfold useSkill
  rw [List.filterMap_append,none]
  split <;> rfl

theorem attacker_useSkill (use : Use) (battle : SkillBattle) (targets : List Nat) (attackIndex defenseIndex : Nat) :
    ∀ frame ∈ (useSkill use battle targets attackIndex defenseIndex : List (Frame σ)), frame.attacker = none := by
  unfold useSkill
  refine List.forall_mem_append.mpr ⟨List.forall_mem_map.mpr (fun _ _ => rfl),List.forall_mem_cons.mpr ⟨rfl,List.forall_mem_cons.mpr ⟨rfl,?_⟩⟩⟩
  split
  · exact List.forall_mem_cons.mpr ⟨rfl,List.forall_mem_singleton.mpr rfl⟩
  · exact List.forall_mem_nil _

theorem frame_does (frame : Frame σ) (known : ∀ attackIndex ∈ frame.attacker, attackIndex ∈ e.objects) :
    Does e cfg scene frame (runFrame e cfg scene frame).1 (runFrame e cfg scene frame).2 := by
  cases frame with
  | call call => exact does_call call
  | skillInfo attackIndex defenseIndex skillTrigger useSkill skillInfo =>
    rw [runFrame]
    split
    · exact .quiet rfl (List.forall_mem_nil _) ⟨_,rfl⟩
    · exact .quiet rfl (List.forall_mem_map.mpr (fun _ _ => ⟨rfl,known⟩)) ⟨_,rfl⟩
  | skill attackIndex defenseIndex skillTrigger useSkillOf skillInfo skillBattleId =>
    rw [runFrame]
    split
    · exact .quiet rfl (List.forall_mem_nil _) ⟨_,rfl⟩
    · rename_i use battle rest result
      have passed : Passed cfg scene attackIndex skillInfo use battle := by
        apply attempt_passed
        rw [result]
      obtain rfl := passed.object
      refine .begins use battle rfl (known _ rfl) ⟨skillInfo,passed⟩ (records_useSkill _ _ _ _ _) ?_ ⟨_,rfl⟩ ?_
      · intro frame mem attackIndex its
        rw [attacker_useSkill _ _ _ _ _ frame mem] at its
        cases its
      · intro below calm
        apply calm use battle
        rw [result]
  | target use battle objectIndex =>
    rw [runFrame]
    dsimp only
    split
    · exact .quiet rfl (List.forall_mem_append.mpr ⟨plain_ended _ _ _,List.forall_mem_singleton.mpr ⟨rfl,nofun⟩⟩) ⟨_,rfl⟩
    · exact .quiet rfl (List.forall_mem_singleton.mpr ⟨rfl,nofun⟩) ⟨_,rfl⟩
  | hurt use battle objectIndex damage =>
    refine .quiet rfl ?_ ⟨_,rfl⟩
    exact List.forall_mem_append.mpr ⟨List.forall_mem_cons.mpr ⟨⟨rfl,nofun⟩,List.forall_mem_map.mpr (fun _ _ => ⟨rfl,nofun⟩)⟩,
      List.forall_mem_cons.mpr ⟨⟨rfl,nofun⟩,List.forall_mem_singleton.mpr ⟨rfl,nofun⟩⟩⟩
  | heal use battle objectIndex =>
    rw [runFrame]
    split
    · exact .quiet rfl (List.forall_mem_cons.mpr ⟨⟨rfl,nofun⟩,List.forall_mem_singleton.mpr ⟨rfl,nofun⟩⟩) ⟨_,rfl⟩
    · exact .quiet rfl (List.forall_mem_nil _) ⟨_,rfl⟩
  | status use objectIndex statusId =>
    refine .quiet rfl ?_ ⟨_,rfl⟩
    rw [runFrame]
    dsimp only
    split
    · exact List.forall_mem_cons.mpr ⟨plain_trigger _ _ _,List.forall_mem_singleton.mpr (plain_trigger _ _ _)⟩
    · exact List.forall_mem_nil _
  | clean battle objectIndex =>
    rw [runFrame]
    split
    · exact .quiet rfl (plain_ended _ _ _) ⟨_,rfl⟩
    · exact .quiet rfl (List.forall_mem_nil _) ⟨_,rfl⟩
  | hit use objectIndex damage =>
    refine .quiet rfl ?_ ⟨_,rfl⟩
    rw [runFrame]
    dsimp only
    split
    · refine List.forall_mem_cons.mpr ⟨plain_trigger _ _ _,List.forall_mem_cons.mpr ⟨plain_trigger _ _ _,List.forall_mem_cons.mpr ⟨plain_trigger _ _ _,?_⟩⟩⟩
      exact List.forall_mem_singleton.mpr ⟨rfl,nofun⟩
    · exact List.forall_mem_nil _
  | record use battle => exact .records use battle rfl rfl rfl
  | statusEnd moment objectIndex buffIndex =>
    refine .quiet rfl ?_ ⟨_,rfl⟩
    rw [runFrame]
    dsimp only
    split
    · exact List.forall_mem_cons.mpr ⟨⟨rfl,nofun⟩,List.forall_mem_cons.mpr ⟨⟨rfl,nofun⟩,List.forall_mem_singleton.mpr ⟨rfl,nofun⟩⟩⟩
    · exact List.forall_mem_singleton.mpr ⟨rfl,nofun⟩
  | dot objectIndex damage =>
    rw [runFrame]
    split
    · exact .quiet rfl (List.forall_mem_singleton.mpr (plain_trigger _ _ _)) ⟨_,rfl⟩
    · exact .quiet rfl (List.forall_mem_nil _) ⟨_,rfl⟩
  | healed objectIndex => exact .quiet rfl (List.forall_mem_nil _) ⟨_,rfl⟩
  | report attackIndex defenseIndex => exact .quiet rfl (List.forall_mem_nil _) ⟨_,rfl⟩
  | anger attackIndex => exact .quiet rfl (List.forall_mem_nil _) ⟨_,rfl⟩
  | removeBuff objectIndex buffIndex => exact .quiet rfl (List.forall_mem_nil _) ⟨_,rfl⟩
  | regroup objectIndex => exact .quiet rfl (List.forall_mem_nil _) ⟨_,rfl⟩

end steps

-- No use goes beyond the limits, and every use that is counted under its own id is either
-- counted or still going on.
structure Valid (e : Effects σ) (cfg : Config) (s : Running σ) : Prop where
  counted : ∀ use : Use, use.useSkillId = use.skillId → s.state.used.count use ≤
    ((s.state.triggerSkillCount use.objectIndex).lookup use.skillId).getD 0+(s.work.filterMap Frame.records).count use
  once : ∀ use : Use, use.useSkillId ≠ use.skillId → s.state.used.count use ≤ 1
  limits : ∀ use battle, cfg.s_SkillBattle.lookup use.key = some battle →
    (0 < battle.autoActiveRate → (s.state.used.count use : Int) ≤ battle.autoActiveRate) ∧
    (0 < battle.autoActiveInterval → s.state.used.count use ≤ 1)
  stamped : ∀ objectIndex skillId, skillId ∈ s.state.triggerSkillCount objectIndex →
    (s.state.triggerSkillInterval objectIndex).lookup skillId = some s.state.turn
  known : ∀ use ∈ s.state.used, use.objectIndex ∈ e.objects ∧ use.skillId ∈ cfg.s_HeroSkill ∧
    ∃ battle, cfg.s_SkillBattle.lookup use.key = some battle ∧ battle.autoActive.isSome = true
  frames : ∀ frame ∈ s.work, ∀ attackIndex ∈ frame.attacker, attackIndex ∈ e.objects

section valid
variable {σ : Type} {e : Effects σ} {cfg : Config} {scene : Scene σ}

theorem start_valid (calls : List (Call σ)) (fresh : scene.Fresh) : Valid e cfg (start calls scene) := by
  obtain ⟨unused,uncounted⟩ := fresh
  have none (use : Use) : (start calls scene).state.used.count use = 0 := by
    have empty : (start calls scene).state.used = [] := unused
    rw [empty,List.count_nil]
  refine ⟨?_,?_,?_,?_,?_,?_⟩
  · intro use _
    rw [none]
    exact Nat.zero_le _
  · intro use _
    rw [none]
    exact Nat.zero_le _
  · intro use battle _
    rw [none]
    exact ⟨Int.le_of_lt,fun _ => Nat.zero_le _⟩
  · intro objectIndex skillId counted
    change skillId ∈ scene.triggerSkillCount objectIndex at counted
    rw [uncounted] at counted
    cases counted
  · intro use mem
    change use ∈ scene.used at mem
    rw [unused] at mem
    cases mem
  · exact List.forall_mem_map.mpr (fun _ _ => nofun)

-- A use begins within its limits.
theorem Passed.within {use : Use} {battle : SkillBattle} {skillInfo : SkillInfo} {frames : List (Frame σ)} (valid : Valid e cfg ⟨frames,scene⟩)
    (passed : Passed cfg scene use.objectIndex skillInfo use battle) (rare : (frames.filterMap Frame.records).count use = 0)
    (own : use.useSkillId = use.skillId ∨ use ∉ scene.used) :
    (0 < battle.autoActiveRate → ((scene.used.count use+1 : Nat) : Int) ≤ battle.autoActiveRate) ∧
    (0 < battle.autoActiveInterval → scene.used.count use+1 ≤ 1) := by
  by_cases before : use ∈ scene.used
  · have counted := valid.counted use (own.resolve_right (fun other => other before))
    rw [rare] at counted
    have positive := List.count_pos_iff.mpr before
    dsimp only at counted
    cases its : (scene.triggerSkillCount use.objectIndex).lookup use.skillId with
    | none =>
      rw [its] at counted
      exact absurd positive (Nat.not_lt.mpr counted)
    | some count =>
      rw [its] at counted
      have few := passed.count
      have late := passed.interval
      have last := valid.stamped _ _ (Table.mem_of_lookup its)
      dsimp only at last
      rw [← passed.skill,checkTriggerCount,its] at few
      rw [← passed.skill,checkTriggerInterval,last] at late
      simp only [Option.all_some,decide_eq_true_eq,Int.sub_self] at few late
      simp only [Option.getD_some] at counted
      exact ⟨by omega,by omega⟩
  · rw [List.count_eq_zero_of_not_mem before]
    exact ⟨fun positive => positive,fun _ => Nat.le_refl _⟩

theorem lookup_record (use : Use) (battle : SkillBattle) (objectIndex skillId : Nat) :
    (((record e scene use battle).triggerSkillCount objectIndex).lookup skillId).getD 0 =
      ((scene.triggerSkillCount objectIndex).lookup skillId).getD 0+(if objectIndex = use.objectIndex ∧ skillId = use.useSkillId then 1 else 0) := by
  unfold record
  dsimp only
  by_cases its : objectIndex = use.objectIndex
  · subst its
    rw [Function.update_self]
    by_cases same : skillId = use.useSkillId
    · subst same
      rw [AList.lookup_insert,if_pos ⟨rfl,rfl⟩]
      rfl
    · rw [AList.lookup_insert_ne same,if_neg (fun both => same both.2),Nat.add_zero]
  · rw [Function.update_of_ne its,if_neg (fun both => its both.1),Nat.add_zero]

theorem stamped_record {use : Use} {battle : SkillBattle} (stamped : ∀ objectIndex skillId, skillId ∈ scene.triggerSkillCount objectIndex →
      (scene.triggerSkillInterval objectIndex).lookup skillId = some scene.turn) {objectIndex skillId : Nat}
    (counted : skillId ∈ (record e scene use battle).triggerSkillCount objectIndex) :
    ((record e scene use battle).triggerSkillInterval objectIndex).lookup skillId = some scene.turn := by
  unfold record at counted ⊢
  dsimp only at counted ⊢
  by_cases its : objectIndex = use.objectIndex
  · subst its
    rw [Function.update_self] at counted ⊢
    by_cases same : skillId = use.useSkillId
    · subst same
      exact AList.lookup_insert _
    · rw [AList.lookup_insert_ne same]
      exact stamped _ _ ((AList.mem_insert _).mp counted |>.resolve_left same)
  · rw [Function.update_of_ne its] at counted ⊢
    exact stamped _ _ counted

theorem quiet_valid {frame : Frame σ} {below pushed : List (Frame σ)} {rest : σ} (valid : Valid e cfg ⟨frame::below,scene⟩)
    (none : frame.records = none) (all : ∀ frame ∈ pushed, Plain e frame) : Valid e cfg ⟨pushed++below,{scene with rest}⟩ := by
  have quiet : pushed.filterMap Frame.records = [] := List.filterMap_eq_nil_iff.mpr (fun frame mem => (all frame mem).1)
  refine ⟨?_,valid.once,valid.limits,valid.stamped,valid.known,?_⟩
  · intro use own
    have before := valid.counted use own
    dsimp only at before ⊢
    rw [List.filterMap_cons_none none] at before
    rw [List.filterMap_append,quiet]
    exact before
  · exact List.forall_mem_append.mpr ⟨fun frame mem => (all frame mem).2,(List.forall_mem_cons.mp valid.frames).2⟩

theorem begins_valid {frame : Frame σ} {below pushed : List (Frame σ)} {use : Use} {battle : SkillBattle} {rest : σ} (valid : Valid e cfg ⟨frame::below,scene⟩)
    (none : frame.records = none) (known : use.objectIndex ∈ e.objects) (passed : ∃ skillInfo, Passed cfg scene use.objectIndex skillInfo use battle)
    (one : pushed.filterMap Frame.records = [use]) (all : ∀ frame ∈ pushed, ∀ attackIndex ∈ frame.attacker, attackIndex ∈ e.objects)
    (rare : ∀ frame ∈ below, frame.records ≠ some use) (own : use.useSkillId = use.skillId ∨ use ∉ scene.used) :
    Valid e cfg ⟨pushed++below,{scene with rest, used:=use::scene.used}⟩ := by
  obtain ⟨skillInfo,passed⟩ := passed
  have unrecorded : ((frame::below).filterMap Frame.records).count use = 0 := by
    rw [List.filterMap_cons_none none]
    refine List.count_eq_zero_of_not_mem (fun mem => ?_)
    obtain ⟨other,there,records⟩ := List.mem_filterMap.mp mem
    exact rare other there records
  have within := passed.within valid unrecorded own
  refine ⟨?_,?_,?_,valid.stamped,?_,?_⟩
  · intro other its
    have before := valid.counted other its
    dsimp only at before ⊢
    rw [List.filterMap_cons_none none] at before
    rw [List.filterMap_append,one,List.count_append,List.count_cons,List.count_cons,List.count_nil]
    omega
  · intro other its
    dsimp only
    by_cases same : use = other
    · subst same
      rw [List.count_cons_self,List.count_eq_zero_of_not_mem (own.resolve_left its)]
    · rw [List.count_cons_of_ne same]
      exact valid.once other its
  · intro other entry found
    dsimp only
    by_cases same : use = other
    · subst same
      obtain rfl := Option.some.inj (passed.entry.symm.trans found)
      rw [List.count_cons_self]
      exact within
    · rw [List.count_cons_of_ne same]
      exact valid.limits other entry found
  · refine List.forall_mem_cons.mpr ⟨⟨known,?_,battle,passed.entry,passed.active⟩,valid.known⟩
    rw [passed.skill]
    exact passed.hero
  · exact List.forall_mem_append.mpr ⟨all,(List.forall_mem_cons.mp valid.frames).2⟩

theorem records_valid {frame : Frame σ} {below : List (Frame σ)} {use : Use} {battle : SkillBattle} (valid : Valid e cfg ⟨frame::below,scene⟩)
    (one : frame.records = some use) : Valid e cfg ⟨below,record e scene use battle⟩ := by
  refine ⟨?_,valid.once,valid.limits,?_,valid.known,(List.forall_mem_cons.mp valid.frames).2⟩
  · intro other own
    have before := valid.counted other own
    dsimp only at before ⊢
    rw [List.filterMap_cons_some one,List.count_cons] at before
    rw [lookup_record]
    by_cases same : use = other
    · subst same
      rw [if_pos ⟨rfl,own.symm⟩]
      rw [if_pos (beq_self_eq_true use)] at before
      exact Nat.le_trans before (by omega)
    · rw [if_neg (fun alike => same (beq_iff_eq.mp alike))] at before
      exact Nat.le_trans before (by omega)
  · intro objectIndex skillId counted
    exact stamped_record valid.stamped counted

theorem step_valid {s : Running σ} (valid : Valid e cfg s) (calm : Calm e cfg s) : Valid e cfg (WorkStack.next (runFrame e cfg) s) := by
  obtain ⟨work,scene⟩ := s
  cases work with
  | nil => exact valid
  | cons frame below =>
    rw [WorkStack.next_cons]
    have does : Does e cfg scene frame _ _ := frame_does frame (valid.frames frame List.mem_cons_self)
    cases does with
    | quiet none all same =>
      obtain ⟨rest,after⟩ := same
      rw [after]
      exact quiet_valid valid none all
    | begins use battle none known passed one all same alone =>
      obtain ⟨rest,after⟩ := same
      obtain ⟨rare,own⟩ := alone below calm
      rw [after]
      exact begins_valid valid none known passed one all rare own
    | records use battle one none same =>
      rw [none,same]
      exact records_valid valid one

theorem used_grows (s : Running σ) (valid : Valid e cfg s) : s.state.used.length ≤ (WorkStack.next (runFrame e cfg) s).state.used.length := by
  obtain ⟨work,scene⟩ := s
  cases work with
  | nil => exact Nat.le_refl _
  | cons frame below =>
    rw [WorkStack.next_cons]
    have does : Does e cfg scene frame _ _ := frame_does frame (valid.frames frame List.mem_cons_self)
    cases does with
    | quiet none all same =>
      obtain ⟨rest,after⟩ := same
      rw [after]
    | begins use battle none known passed one all same alone =>
      obtain ⟨rest,after⟩ := same
      rw [after]
      exact Nat.le_succ _
    | records use battle one none same =>
      rw [same]
      exact Nat.le_refl _

-- The uses that the map and the configuration have room for.
def uses (e : Effects σ) (cfg : Config) : Finset Use :=
  let ids := Finset.range (cfg.s_SkillBattle.keys.sum+1)
  ((e.objects.toFinset ×ˢ cfg.s_HeroSkill.keys.toFinset) ×ˢ (ids ×ˢ ids)).image (fun use => ⟨use.1.1,use.1.2,use.2.1,use.2.2⟩)

def most (cfg : Config) : Nat := 1+(cfg.s_SkillBattle.entries.map (fun entry => entry.2.autoActiveRate.toNat)).sum

theorem mem_uses {use : Use} {battle : SkillBattle} (object : use.objectIndex ∈ e.objects) (skill : use.skillId ∈ cfg.s_HeroSkill)
    (entry : cfg.s_SkillBattle.lookup use.key = some battle) : use ∈ uses e cfg := by
  have small : use.key ≤ cfg.s_SkillBattle.keys.sum :=
    List.le_sum_of_mem (Table.mem_of_lookup entry)
  unfold Use.key battleKey at small
  refine Finset.mem_image.mpr ⟨((use.objectIndex,use.skillId),(use.useSkillId,use.skillLevel)),?_,rfl⟩
  refine Finset.mem_product.mpr ⟨Finset.mem_product.mpr ⟨List.mem_toFinset.mpr object,List.mem_toFinset.mpr skill⟩,?_⟩
  exact Finset.mem_product.mpr ⟨Finset.mem_range.mpr (by dsimp only; omega),Finset.mem_range.mpr (by dsimp only; omega)⟩

theorem rate_most {key : Nat} {battle : SkillBattle} (entry : cfg.s_SkillBattle.lookup key = some battle) : battle.autoActiveRate ≤ (most cfg : Int) := by
  have there := List.mem_map_of_mem (f := fun entry : Sigma (fun _ : Nat => SkillBattle) => entry.2.autoActiveRate.toNat) (AList.mem_lookup_iff.mp entry)
  have small := List.le_sum_of_mem there
  dsimp only at small
  unfold most
  omega

theorem few_uses {s : Running σ} (valid : Valid e cfg s) (limited : Limited cfg) {use : Use} (mem : use ∈ s.state.used) : s.state.used.count use ≤ most cfg := by
  obtain ⟨_,_,battle,entry,active⟩ := valid.known use mem
  obtain ⟨rated,spaced⟩ := valid.limits use battle entry
  rcases limited _ _ entry active with rate | interval
  · have small := (rated rate).trans (rate_most entry)
    omega
  · exact (spaced interval).trans (Nat.le_add_right _ _)

theorem used_bounded {s : Running σ} (valid : Valid e cfg s) (limited : Limited cfg) : s.state.used.length ≤ (uses e cfg).card*most cfg := by
  have inside : s.state.used.toFinset ⊆ uses e cfg := by
    intro use mem
    obtain ⟨object,skill,battle,entry,_⟩ := valid.known use (List.mem_toFinset.mp mem)
    exact mem_uses object skill entry
  calc s.state.used.length
      = ∑ use ∈ s.state.used.toFinset, s.state.used.count use := (List.sum_toFinset_count_eq_length _).symm
    _ ≤ s.state.used.toFinset.card*most cfg :=
      Finset.sum_le_card_nsmul _ _ _ (fun use mem => few_uses valid limited (List.mem_toFinset.mp mem))
    _ ≤ (uses e cfg).card*most cfg := Nat.mul_le_mul_right _ (Finset.card_le_card inside)

end valid

end BattleSkill
end OriginGame
