import OriginGame.SkillUses

namespace OriginGame
namespace BattleSkill
open WorkStack

section levels
variable {σ : Type} (e : Effects σ) (cfg : Config)

-- No more than `left` uses can still begin.
structure Good (left : Nat) (s : Running σ) : Prop where
  valid : Valid e cfg s
  calm : Always (runFrame e cfg) (Calm e cfg) s
  room : (uses e cfg).card*most cfg ≤ s.state.used.length+left

abbrev EndsAt (left : Nat) (below : List (Frame σ) → Prop) (frames : List (Frame σ)) : Prop := Ends (runFrame e cfg) (Good e cfg left) below frames

abbrev Over (left : Nat) (frames : List (Frame σ)) : Prop := EndsAt e cfg left (fun _ => True) frames

variable {e cfg} {left : Nat}

theorem good_next (s : Running σ) (good : Good e cfg left s) : Good e cfg left (next (runFrame e cfg) s) := by
  refine ⟨step_valid good.valid good.calm.now,good.calm.next,?_⟩
  have grows := used_grows s good.valid
  have room := good.room
  omega

-- A frame that leaves nothing.
theorem over_done {frame : Frame σ} (done : ∀ scene, (runFrame e cfg scene frame).1 = []) : Over e cfg left [frame] := by
  refine .push good_next (fun rest scene _ _ => ?_)
  rw [done]
  exact .nil

theorem over_pair {first second : Frame σ} (one : Over e cfg left [first]) (two : Over e cfg left [second]) : Over e cfg left [first,second] :=
  .cons good_next one two (fun _ _ => trivial)

section triggers
variable (triggers : ∀ attackIndex defenseIndex skillTrigger useSkill, Over e cfg left [.call (.triggerSkill attackIndex defenseIndex skillTrigger useSkill)])
include triggers

theorem over_dot (objectIndex : Nat) (damage : Int) : Over e cfg left [.dot objectIndex damage] := by
  refine .push good_next (fun rest scene _ _ => ?_)
  rw [runFrame]
  split
  · exact triggers _ _ _ _
  · exact .nil

theorem over_healArmy (objectIndex : Nat) (heal : Int) : Over e cfg left [.call (.healArmy objectIndex heal)] :=
  .push good_next (fun _ _ _ _ => triggers _ _ _ _)

theorem over_cacleStatusHeal (objectIndex buffIndex : Nat) : Over e cfg left [.call (.cacleStatusHeal objectIndex buffIndex)] := by
  refine .push good_next (fun rest scene _ _ => ?_)
  rw [runFrame,runCall]
  dsimp only
  split
  · exact over_pair (over_healArmy triggers _ _) (over_done (fun _ => rfl))
  · exact .nil

-- Before the status is removed, what it deals removes no other.
theorem ends_cacleStatusDamage (objectIndex buffIndex : Nat) :
    EndsAt e cfg left (fun below => ∃ frame ∈ below, frame.removes = some objectIndex) [.call (.cacleStatusDamage objectIndex buffIndex)] := by
  refine .push good_next (fun rest scene removing good => ?_)
  have calm := good.calm.now removing
  rw [runFrame,runCall]
  split
  · exact .nil
  · rename_i damage after dealt
    have none := calm damage (by rw [dealt])
    rw [dealt] at none
    dsimp only at none ⊢
    rw [none]
    exact (over_dot triggers _ _).weaken (fun _ _ => trivial)

theorem over_statusEnd (moment : StatusTrigger) (objectIndex buffIndex : Nat) : Over e cfg left [.statusEnd moment objectIndex buffIndex] := by
  have removeBuff : Over e cfg left [.removeBuff objectIndex buffIndex] := over_done (fun _ => rfl)
  refine .push good_next (fun rest scene _ _ => ?_)
  rw [runFrame]
  dsimp only
  split
  · refine .cons good_next (over_cacleStatusHeal triggers _ _) ?_ (fun _ _ => trivial)
    refine .cons good_next (ends_cacleStatusDamage triggers _ _) removeBuff (fun more _ => ?_)
    exact ⟨.removeBuff objectIndex buffIndex,List.mem_cons_self,rfl⟩
  · exact removeBuff

theorem each_ended (moment : StatusTrigger) (objectIndex : Nat) (removed : List Nat) : ∀ frame ∈ (ended moment objectIndex removed : List (Frame σ)),
    Over e cfg left [frame] := by
  refine List.forall_mem_append.mpr ⟨?_,?_⟩
  · exact List.forall_mem_map.mpr (fun buffIndex _ => over_statusEnd triggers moment objectIndex buffIndex)
  · split
    · exact List.forall_mem_nil _
    · exact List.forall_mem_singleton.mpr (over_done (fun _ => rfl))

theorem over_ended (moment : StatusTrigger) (objectIndex : Nat) (removed : List Nat) : Over e cfg left (ended moment objectIndex removed) :=
  .all good_next (each_ended triggers moment objectIndex removed)

-- Statuses that end, and then one more frame.
theorem over_endedThen (moment : StatusTrigger) (objectIndex : Nat) (removed : List Nat) {frame : Frame σ} (last : Over e cfg left [frame]) :
    Over e cfg left (ended moment objectIndex removed++[frame]) :=
  .all good_next (List.forall_mem_append.mpr ⟨each_ended triggers moment objectIndex removed,List.forall_mem_singleton.mpr last⟩)

theorem over_call (call : Call σ) : Over e cfg left [.call call] := by
  cases call with
  | triggerSkill attackIndex defenseIndex skillTrigger useSkill => exact triggers _ _ _ _
  | cacleShiled objectIndex damage => exact .push good_next (fun _ _ _ _ => over_ended triggers _ _ _)
  | healArmy objectIndex heal => exact over_healArmy triggers _ _
  | cacleStatusHeal objectIndex buffIndex => exact over_cacleStatusHeal triggers _ _
  | cacleStatusDamage objectIndex buffIndex =>
    refine .push good_next (fun rest scene _ _ => ?_)
    rw [runFrame,runCall]
    split
    · exact .nil
    · exact over_endedThen triggers _ _ _ (over_dot triggers _ _)
  | removeBuffs moment objectIndex pick => exact .push good_next (fun _ _ _ _ => over_ended triggers _ _ _)
  | other change => exact over_done (fun _ => rfl)

theorem over_status (use : Use) (objectIndex statusId : Nat) : Over e cfg left [.status use objectIndex statusId] := by
  refine .push good_next (fun rest scene _ _ => ?_)
  rw [runFrame]
  dsimp only
  split
  · exact over_pair (triggers _ _ _ _) (triggers _ _ _ _)
  · exact .nil

theorem over_heal (use : Use) (battle : SkillBattle) (objectIndex : Nat) : Over e cfg left [.heal use battle objectIndex] := by
  refine .push good_next (fun rest scene _ _ => ?_)
  rw [runFrame]
  split
  · exact over_pair (over_healArmy triggers _ _) (over_done (fun _ => rfl))
  · exact .nil

theorem over_clean (battle : SkillBattle) (objectIndex : Nat) : Over e cfg left [.clean battle objectIndex] := by
  refine .push good_next (fun rest scene _ _ => ?_)
  rw [runFrame]
  split
  · exact over_ended triggers _ _ _
  · exact .nil

theorem over_hit (use : Use) (objectIndex : Nat) (damage : Int) : Over e cfg left [.hit use objectIndex damage] := by
  refine .push good_next (fun rest scene _ _ => ?_)
  rw [runFrame]
  dsimp only
  split
  · refine .cons good_next (triggers _ _ _ _) ?_ (fun _ _ => trivial)
    refine .cons good_next (triggers _ _ _ _) ?_ (fun _ _ => trivial)
    exact over_pair (triggers _ _ _ _) (over_done (fun _ => rfl))
  · exact .nil

theorem over_hurt (use : Use) (battle : SkillBattle) (objectIndex : Nat) (damage : Int) : Over e cfg left [.hurt use battle objectIndex damage] := by
  refine .push good_next (fun rest scene _ _ => .all good_next (List.forall_mem_append.mpr ⟨List.forall_mem_cons.mpr ⟨?_,?_⟩,?_⟩))
  · exact over_heal triggers _ _ _
  · exact List.forall_mem_map.mpr (fun _ _ => over_status triggers _ _ _)
  · exact List.forall_mem_cons.mpr ⟨over_clean triggers _ _,List.forall_mem_singleton.mpr (over_hit triggers _ _ _)⟩

theorem over_target (use : Use) (battle : SkillBattle) (objectIndex : Nat) : Over e cfg left [.target use battle objectIndex] := by
  refine .push good_next (fun rest scene _ _ => ?_)
  rw [runFrame]
  dsimp only
  split
  · exact over_endedThen triggers _ _ _ (over_hurt triggers _ _ _ _)
  · exact over_hurt triggers _ _ _ _

theorem over_useSkill (use : Use) (battle : SkillBattle) (targets : List Nat) (attackIndex defenseIndex : Nat) :
    Over e cfg left (useSkill use battle targets attackIndex defenseIndex) := by
  refine .all good_next (List.forall_mem_append.mpr ⟨?_,List.forall_mem_cons.mpr ⟨?_,List.forall_mem_cons.mpr ⟨triggers _ _ _ _,?_⟩⟩⟩)
  · exact List.forall_mem_map.mpr (fun _ _ => over_target triggers _ _ _)
  · exact over_done (fun _ => rfl)
  · split
    · exact List.forall_mem_cons.mpr ⟨triggers _ _ _ _,List.forall_mem_singleton.mpr (over_done (fun _ => rfl))⟩
    · exact List.forall_mem_nil _

end triggers

-- A skill that passes leaves room for one use less; nothing passes when there is no room.
theorem over_skill (limited : Limited cfg) (lower : ∀ fewer < left, ∀ attackIndex defenseIndex skillTrigger useSkill,
      Over e cfg fewer [.call (.triggerSkill attackIndex defenseIndex skillTrigger useSkill)])
    (attackIndex defenseIndex : Nat) (skillTrigger : SkillTrigger) (useSkill : Option (Nat × Nat)) (skillInfo : SkillInfo) (skillBattleId : Nat) :
    Over e cfg left [.skill attackIndex defenseIndex skillTrigger useSkill skillInfo skillBattleId] := by
  intro rest scene _ good
  have after := good_next _ good
  rw [List.singleton_append,next_cons,runFrame] at after
  have enters : next (runFrame e cfg) ⟨.skill attackIndex defenseIndex skillTrigger useSkill skillInfo skillBattleId::rest,scene⟩ = _ :=
    next_cons _ rest scene
  rw [runFrame] at enters
  split at enters
  · exact ⟨1,_,enters⟩
  · rename_i use battle draw passes
    rw [passes] at after
    dsimp only at after enters
    have room := after.room
    have bounded := used_bounded after.valid limited
    have before := good.room
    dsimp only [List.length_cons] at room bounded before
    have fewer : Good e cfg (left-1) _ := ⟨after.valid,after.calm,by dsimp only [List.length_cons]; omega⟩
    obtain ⟨n,last,finished⟩ := over_useSkill (lower (left-1) (by omega)) use battle _ attackIndex defenseIndex rest _ trivial fewer
    refine ⟨n+1,last,?_⟩
    rw [Function.iterate_succ_apply,List.singleton_append,enters]
    exact finished

theorem over_trigger (limited : Limited cfg) (attackIndex defenseIndex : Nat) (skillTrigger : SkillTrigger) (useSkill : Option (Nat × Nat)) :
    Over e cfg left [.call (.triggerSkill attackIndex defenseIndex skillTrigger useSkill)] := by
  induction left using Nat.strongRecOn generalizing attackIndex defenseIndex skillTrigger useSkill with
  | _ left lower =>
    refine .push good_next (fun rest scene _ _ => .all good_next (List.forall_mem_map.mpr (fun skillInfo _ => ?_)))
    refine .push good_next (fun rest scene _ _ => ?_)
    rw [runFrame]
    split
    · exact .nil
    · exact .all good_next (List.forall_mem_map.mpr (fun _ _ => over_skill limited lower _ _ _ _ _ _))

end levels

section results
variable {σ : Type} {e : Effects σ} {cfg : Config} {scene : Scene σ}

theorem start_good (calls : List (Call σ)) (fresh : scene.Fresh) (calm : Always (runFrame e cfg) (Calm e cfg) (start calls scene)) :
    Good e cfg ((uses e cfg).card*most cfg) (start calls scene) :=
  ⟨start_valid calls fresh,calm,Nat.le_add_left _ _⟩

theorem start_over (limited : Limited cfg) (calls : List (Call σ)) (fresh : scene.Fresh)
    (calm : Always (runFrame e cfg) (Calm e cfg) (start calls scene)) : ∃ n, ((next (runFrame e cfg))^[n] (start calls scene)).work = [] := by
  have good := start_good calls fresh calm
  have ends : Over e cfg ((uses e cfg).card*most cfg) (calls.map .call) :=
    .all good_next (List.forall_mem_map.mpr (fun call _ => over_call (over_trigger limited) call))
  unfold start at good ⊢
  obtain ⟨n,after,finished⟩ := ends [] scene trivial (by rwa [List.append_nil])
  rw [List.append_nil] at finished
  exact ⟨n,by rw [finished]⟩

-- The calls of a turn return, and no skill of an object is used more often than its entry
-- allows, where every skill that comes to be used is calm.
theorem triggers_return (limited : Limited cfg) (calls : List (Call σ)) (fresh : scene.Fresh)
    (calm : Always (runFrame e cfg) (Calm e cfg) (start calls scene)) :
    (∃ n, ((next (runFrame e cfg))^[n] (start calls scene)).work = []) ∧
    ∀ n use battle, cfg.s_SkillBattle.lookup use.key = some battle →
      (0 < battle.autoActiveRate → (((next (runFrame e cfg))^[n] (start calls scene)).state.used.count use : Int) ≤ battle.autoActiveRate) ∧
      (0 < battle.autoActiveInterval → ((next (runFrame e cfg))^[n] (start calls scene)).state.used.count use ≤ 1) := by
  refine ⟨start_over limited calls fresh calm,fun n => ?_⟩
  have good := always_of good_next (start_good calls fresh calm) n
  exact good.valid.limits

end results

instance calmDecidable {σ : Type} (e : Effects σ) (cfg : Config) : DecidablePred (Calm e cfg)
  | ⟨.skill attackIndex defenseIndex skillTrigger useSkill skillInfo skillBattleId::below,scene⟩ =>
    decidable_of_iff (∀ passed ∈ (attempt e cfg scene attackIndex defenseIndex skillTrigger useSkill skillInfo skillBattleId).1,
        (∀ frame ∈ below, frame.records ≠ some passed.1) ∧ (passed.1.useSkillId = passed.1.skillId ∨ passed.1 ∉ scene.used))
      ⟨fun all _ _ passes => all _ passes,fun all _ passes => all _ _ passes⟩
  | ⟨.call (.cacleStatusDamage objectIndex buffIndex)::below,scene⟩ =>
    decidable_of_iff ((∃ frame ∈ below, frame.removes = some objectIndex) → ∀ damage ∈ (e.statusDamage scene.rest objectIndex buffIndex).1,
        (e.shileds (e.statusDamage scene.rest objectIndex buffIndex).2 objectIndex damage).1.2 = []) Iff.rfl
  | ⟨[],_⟩ => isTrue trivial
  | ⟨.call (.triggerSkill ..)::_,_⟩ | ⟨.call (.cacleShiled ..)::_,_⟩ | ⟨.call (.healArmy ..)::_,_⟩ | ⟨.call (.cacleStatusHeal ..)::_,_⟩
  | ⟨.call (.removeBuffs ..)::_,_⟩ | ⟨.call (.other ..)::_,_⟩ | ⟨.skillInfo ..::_,_⟩ | ⟨.target ..::_,_⟩ | ⟨.hurt ..::_,_⟩ | ⟨.heal ..::_,_⟩
  | ⟨.healed ..::_,_⟩ | ⟨.status ..::_,_⟩ | ⟨.clean ..::_,_⟩ | ⟨.hit ..::_,_⟩ | ⟨.report ..::_,_⟩ | ⟨.record ..::_,_⟩ | ⟨.anger ..::_,_⟩
  | ⟨.statusEnd ..::_,_⟩ | ⟨.removeBuff ..::_,_⟩ | ⟨.regroup ..::_,_⟩ | ⟨.dot ..::_,_⟩ => isTrue trivial

-- One object with one skill, which it uses on itself; it has no statuses.
def lone : Effects Unit where
  objects := [1]
  skills _ objectIndex := if objectIndex = 1 then [⟨7,1,false,false⟩] else []
  skills_known _ _ outside := if_neg (fun its => outside (List.mem_singleton.mpr its))
  checkSkillArmy _ _ _ := true
  checkSkillCondition _ _ _ _ _ _ _ := true
  random _ := (0,())
  useSkillAnger _ _ _ _ := ()
  recoverAnger _ _ := ()
  getTargetIndexs _ attackIndex _ _ := ([attackIndex],())
  enterBattle _ _ _ _ := ()
  cacleSkillDamage _ _ _ _ := (0,())
  shileds _ _ damage := ((damage,[]),())
  hurt _ _ _ _ := ()
  cacleSkillHeal _ _ _ _ := (5,())
  healMinor _ _ _ := ()
  addObjectHeal _ _ := ()
  addBuff _ _ _ _ := (false,())
  deleteBuff _ _ _ := ([],())
  noteHit _ _ _ _ := ()
  insertBattleReport _ _ _ := ()
  noteUse _ _ _ := ()
  statusMoment _ _ _ := .inTurn
  statusHeal _ _ _ := (0,())
  statusDamage _ _ _ := (none,())
  removeBuff _ _ _ := ()
  cacleObjectAttr _ _ := ()

-- Its skill has the entry `skillBattleId`, once a turn.
def onlySkill (skillBattleId : Nat) (autoActive : SkillTrigger) (healPower : Int) : Config where
  s_HeroSkill := AList.singleton 7 ⟨1,[skillBattleId],none⟩
  s_SkillBattle := AList.singleton (battleKey skillBattleId 1) ⟨some autoActive,1,0,1000,0,healPower,[],0⟩

theorem onlySkill_limited (skillBattleId : Nat) (autoActive : SkillTrigger) (healPower : Int) : Limited (onlySkill skillBattleId autoActive healPower) := by
  intro key battle entry _
  have there := AList.mem_lookup_iff.mp entry
  cases List.mem_singleton.mp there
  exact .inl Int.one_pos

def newTurn : Scene Unit := ⟨(),3,fun _ => ∅,fun _ => ∅,[]⟩

theorem newTurn_fresh : newTurn.Fresh := ⟨rfl,fun _ => rfl⟩

def attacks : Running Unit := start [.triggerSkill 1 2 .normalAttack none,.triggerSkill 1 2 .normalAttack none] newTurn

theorem attacks_return : (∃ n, ((next (runFrame lone (onlySkill 7 .normalAttack 0)))^[n] attacks).work = []) ∧
    ∀ n use battle, (onlySkill 7 .normalAttack 0).s_SkillBattle.lookup use.key = some battle →
      (0 < battle.autoActiveRate → (((next (runFrame lone (onlySkill 7 .normalAttack 0)))^[n] attacks).state.used.count use : Int) ≤ battle.autoActiveRate) ∧
      (0 < battle.autoActiveInterval → ((next (runFrame lone (onlySkill 7 .normalAttack 0)))^[n] attacks).state.used.count use ≤ 1) := by
  have returns : ((next (runFrame lone (onlySkill 7 .normalAttack 0)))^[15] attacks).work = [] := by decide +kernel
  refine triggers_return (onlySkill_limited _ _ _) _ newTurn_fresh (always_until (by decide +kernel) returns ?_)
  rintro ⟨_,_⟩ ⟨⟩
  trivial

-- About to be triggered again, with nothing counted.
def Healing (s : Running Unit) : Prop := ∃ below used, s = ⟨trigger 1 1 .resumeSoldier::below,{newTurn with used}⟩

-- A skill that heals its own object when soldiers come back is triggered by itself before
-- its use is counted; and a skill whose entry has another id is counted under that one.
theorem triggers_run_on :
    (Limited (onlySkill 7 .resumeSoldier 1) ∧ newTurn.Fresh ∧
      ∀ n, ((next (runFrame lone (onlySkill 7 .resumeSoldier 1)))^[n] (start [.triggerSkill 1 1 .resumeSoldier none] newTurn)).work ≠ []) ∧
    (Limited (onlySkill 70 .normalAttack 0) ∧
      (∃ battle, (onlySkill 70 .normalAttack 0).s_SkillBattle.lookup (Use.key ⟨1,7,70,1⟩) = some battle ∧ battle.autoActiveRate = 1) ∧
      ∃ n, ((next (runFrame lone (onlySkill 70 .normalAttack 0)))^[n] attacks).work = [] ∧
        ((next (runFrame lone (onlySkill 70 .normalAttack 0)))^[n] attacks).state.used.count ⟨1,7,70,1⟩ = 2) := by
  refine ⟨⟨onlySkill_limited _ _ _,newTurn_fresh,?_⟩,onlySkill_limited _ _ _,⟨_,rfl,rfl⟩,?_⟩
  · have back (s : Running Unit) : Healing s → Healing ((next (runFrame lone (onlySkill 7 .resumeSoldier 1)))^[7] s) := by
      rintro ⟨below,used,rfl⟩
      exact ⟨_,_,rfl⟩
    refine never_empty 7 (by decide) back ?_ ⟨[],[],rfl⟩
    rintro _ ⟨below,used,rfl⟩
    exact List.cons_ne_nil _ _
  · exact ⟨24,by decide +kernel,by decide +kernel⟩

end BattleSkill
end OriginGame
