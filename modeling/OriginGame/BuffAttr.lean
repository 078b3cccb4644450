import OriginGame.BattleBuff
import OriginGame.Gains

namespace OriginGame.BattleBuff
open Gains (total total_nil total_cons total_append total_map_mul)

section gains

theorem gain_lookup (attr : Table Attr Int) (entry : Attr × Int) (name : Attr) :
    (gain attr entry.1 entry.2).lookup name =
      if entry.1 = name then some ((attr.lookup name).getD 0+entry.2) else attr.lookup name := by
  by_cases same : entry.1 = name
  · subst same
    rw [gain,AList.lookup_insert,if_pos rfl]
  · rw [gain,AList.lookup_insert_ne (fun equal => same equal.symm),if_neg same]

theorem gainAll_lookup (attr : Table Attr Int) (gains : List (Attr × Int)) (name : Attr) :
    (gainAll attr gains).lookup name =
      if name ∈ gains.map Prod.fst then some ((attr.lookup name).getD 0+total gains name) else attr.lookup name := by
  induction gains generalizing attr with
  | nil => simp [gainAll]
  | cons entry rest ih =>
    change (gainAll (gain attr entry.1 entry.2) rest).lookup name = _
    rw [ih,gain_lookup,total_cons]
    by_cases same : entry.1 = name
    · by_cases later : name ∈ rest.map Prod.fst
      · simp [same,later,Int.add_assoc]
      · have none_left : total rest name = 0 := by
          have empty : rest.filter (fun entry => entry.1 = name) = [] := by
            rw [List.filter_eq_nil_iff]
            intro other inside equal
            exact later (List.mem_map.mpr ⟨other,inside,by simpa using equal⟩)
          rw [total,empty]
          rfl
        simp [same,later,none_left]
    · have outside : name ∈ (entry::rest).map Prod.fst ↔ name ∈ rest.map Prod.fst := by
        rw [List.map_cons,List.mem_cons]
        exact ⟨fun either => either.resolve_left (fun equal => same equal.symm),.inr⟩
      simp only [same,if_false,outside,Int.zero_add]

theorem gainPresent_lookup (attr : Table Attr Int) (entry : Attr × Int) (name : Attr) :
    (gainPresent attr entry.1 entry.2).lookup name =
      (attr.lookup name).map (fun value => value+if entry.1 = name then entry.2 else 0) := by
  unfold gainPresent
  by_cases same : entry.1 = name
  · subst same
    cases found : attr.lookup entry.1 with
    | none => simp [found]
    | some value => simp
  · have apart : name ≠ entry.1 := fun equal => same equal.symm
    cases found : attr.lookup entry.1 with
    | none => simp [same]
    | some value => simp [same,apart]

theorem gainAllPresent_lookup (attr : Table Attr Int) (gains : List (Attr × Int)) (name : Attr) :
    (gainAllPresent attr gains).lookup name = (attr.lookup name).map (fun value => value+total gains name) := by
  induction gains generalizing attr with
  | nil => simp [gainAllPresent]
  | cons entry rest ih =>
    change (gainAllPresent (gainPresent attr entry.1 entry.2) rest).lookup name = _
    rw [ih,gainPresent_lookup,total_cons]
    cases attr.lookup name with
    | none => rfl
    | some value => simp [Int.add_assoc]

end gains

section current
variable {cfg : Config}

-- Recomputing would change nothing.
def Current (cfg : Config) (o : Object) : Prop :=
  (∀ name, o.objectAttr.lookup name = (cacleAttr cfg o).lookup name) ∧ o.skills = cacleSkills cfg o

-- Two lists of buffs that give the same skills, name the same attributes and add the same.
structure Alike (cfg : Config) (before after : List Buff) : Prop where
  skills : after.filterMap (buffSkill cfg) = before.filterMap (buffSkill cfg)
  names : (after.flatMap (buffGains cfg)).map Prod.fst = (before.flatMap (buffGains cfg)).map Prod.fst
  gains : ∀ name, total (after.flatMap (buffGains cfg)) name = total (before.flatMap (buffGains cfg)) name

theorem Alike.refl (buffs : List Buff) : Alike cfg buffs buffs := ⟨rfl,rfl,fun _ => rfl⟩

theorem Alike.cons {one other : Buff} (skill : buffSkill cfg other = buffSkill cfg one)
    (names : (buffGains cfg other).map Prod.fst = (buffGains cfg one).map Prod.fst)
    (gains : ∀ name, total (buffGains cfg other) name = total (buffGains cfg one) name)
    (rest : Alike cfg before after) : Alike cfg (one::before) (other::after) := by
  refine ⟨?_,?_,?_⟩
  · rw [List.filterMap_cons,List.filterMap_cons,skill,rest.skills]
  · rw [List.flatMap_cons,List.flatMap_cons,List.map_append,List.map_append,names,rest.names]
  · intro name
    rw [List.flatMap_cons,List.flatMap_cons,total_append,total_append,gains,rest.gains]

theorem Alike.current {o : Object} (alike : Alike cfg o.buffs buffs) (current : Current cfg o) : Current cfg {o with buffs:=buffs} := by
  have skills : cacleSkills cfg {o with buffs:=buffs} = cacleSkills cfg o := by
    simp only [cacleSkills]
    rw [alike.skills]
  refine ⟨fun name => ?_,current.2.trans skills.symm⟩
  rw [current.1 name]
  simp only [cacleAttr,gainAllPresent_lookup,gainAll_lookup,skills,alike.names,alike.gains]

-- A status whose layers add nothing to any attribute.
def Plain (cfg : Config) (buff : Buff) : Prop :=
  ∀ sSkillStatus, cfg.status buff.statusId = some sSkillStatus → ∀ name, total sSkillStatus.attrs name = 0

-- The buff an addBuff stacks another layer on.
def stackedAt (cfg : Config) (o : Object) (caster : ObjectIndex) (statusId : StatusId) (rolls : Rolls) : Option Nat :=
  match admitted cfg o statusId rolls with
  | none => none
  | some sSkillStatus =>
    match sSkillStatus.coexistRule with
    | some .threeOverlay => (checkBuffExistByOverlay o.buffs sSkillStatus.overlayType none).filter (fun place =>
        1 < sSkillStatus.overlay ∧ (o.buffs[place]?).any (fun buff => decide (buff.overlay < sSkillStatus.overlay)))
    | some .threeOverlayReplace => (checkBuffExistByOverlay o.buffs sSkillStatus.overlayType (some caster)).filter (fun _ =>
        1 < sSkillStatus.overlay)
    | _ => none

end current

section scene
variable (cfg : Config)

-- An object at which a removal that has buffs to remove is at work.
def Removing (s : Scene) (object : ObjectIndex) : Prop := ∃ frame ∈ s.frames, frame.object = object ∧ frame.any = true

structure Settled (s : Scene) : Prop where
  current : ∀ object o, s.objectInfos.lookup object = some o → ¬Removing s object → Current cfg o
  idle : ∀ frame ∈ s.frames, frame.any = false → frame.remove = []

variable {cfg} {s : Scene}

def Steps (cfg : Config) (s : Scene) (label : Label) (t : Scene) : Prop := t = next cfg s label

def opening : Scene := ⟨∅,[],1⟩

-- Attribute 0 gains 10 for each of up to three layers.
def layered : Status where
  coexistRule := some .threeOverlay
  level := 1
  type := 1
  overlayType := 1
  overlay := 3
  refreshRoundRule := false
  boutTimes := 5
  silentType := .none
  silentRate := 0
  immuneType := .none
  immuneRate := 0
  hitRate := 1000
  buffType := some .buff
  delRule := true
  autoSkillID := 0
  attrs := [(0,10)]

def layers : Config := ⟨fun id => if id = 7 then some layered else none,fun _ _ => [],fun _ => false,fun _ _ => 0⟩

def recruits : Info := ⟨(∅ : Table Attr Int).insert 0 100,[],∅,∅,[],50⟩

def certain : Rolls := ⟨[],1,0,1⟩

end scene
end OriginGame.BattleBuff
