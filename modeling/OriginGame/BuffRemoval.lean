import OriginGame.BattleBuff
import OriginGame.BattleSkill
import OriginGame.Slots

namespace OriginGame.BuffRemoval
open BattleBuff Slots

-- A buff of the object, and the place it had when the removal began.
structure Held where
  ref : Nat
  buff : Buff
  deriving DecidableEq, Repr

-- What a removal calls. A world `W` is all of the battle but the buffs of the object:
-- soldiers, attributes, skills, the other objects. `damage` is the damage of
-- cacleStatusDamage before the shields, with 0 where it returns without any, and `hurt`
-- what it does with the damage the shields let through, up to the skills BE_ANY_DAMAGE
-- triggers, which may change the buffs as well.
structure Effects (W : Type) where
  statusMoment : StatusId → Option StatusTrigger
  cacleStatusHeal : W → Held → W
  damage : W → Held → Int
  hurt : W → Slots Held → Int → W × Slots Held
  removeSkill : W → StatusId → W
  cacleObjectAttr : W → List Buff → W

-- `spent` are the shields cacleShiled found used up, and `astray` says that a place a loop
-- recorded no longer held the buff it was recorded for.
structure State (W : Type) where
  world : W
  buffs : Slots Held
  spent : List Nat
  astray : Bool
  deriving DecidableEq, Repr

abbrev Shields (W : Type) := State W → Int → Option (State W × Int)

section code
variable {W : Type} (fx : Effects W)

-- The first loop of cacleShiled: the buffs, the places and buffs to remove, and the damage.
def drain : Int → Nat → Slots Held → Slots Held × List (Nat × Nat) × Int
  | damage,_,[] => ([],[],damage)
  | damage,place,none::rest =>
    let later := drain damage (place+1) rest
    (none::later.1,later.2)
  | damage,place,some held::rest =>
    if 0 < held.buff.shiled ∧ 0 < damage then
      if damage < held.buff.shiled then
        let later := drain 0 (place+1) rest
        (some {held with buff:={held.buff with shiled:=held.buff.shiled-damage}}::later.1,later.2)
      else
        let later := drain (damage-held.buff.shiled) (place+1) rest
        (some held::later.1,(place,held.ref)::later.2.1,later.2.2)
    else
      let later := drain damage (place+1) rest
      (some held::later.1,later.2)

def cacleStatusDamage (cacleShiled : Shields W) (s : State W) (held : Held) : Option (State W) :=
  (cacleShiled s (fx.damage s.world held)).map (fun result =>
    if 0 < result.2 then
      let hurt := fx.hurt result.1.world result.1.buffs result.2
      {result.1 with world:=hurt.1, buffs:=hurt.2}
    else result.1)

-- The effects of a buff that goes, if it has them at this moment.
def effects (cacleShiled : Shields W) (moment : StatusTrigger) (s : State W) (held : Held) : Option (State W) :=
  if fx.statusMoment held.buff.statusId = some moment then
    cacleStatusDamage fx cacleShiled {s with world:=fx.cacleStatusHeal s.world held} held
  else some s

def removeSkillOnStatusDelete (s : State W) (place : Nat) : W :=
  match find s.buffs place with
  | some held => fx.removeSkill s.world held.buff.statusId
  | none => s.world

-- removeSkillOnStatusDelete and `objectInfo.buffs[buffIndex] = nil`.
def clear (s : State W) (place ref : Nat) : State W :=
  {s with
    world:=removeSkillOnStatusDelete fx s place,
    buffs:=s.buffs.set place none,
    astray:=s.astray || (find s.buffs place).map Held.ref != some ref}

-- A turn of the removing loop. Only turnOverSubStatusTurn looks whether there is a buff; the
-- others fail on nil.
def remove (cacleShiled : Shields W) (moment : StatusTrigger) (guarded : Bool) (s : State W) (place ref : Nat) : Option (State W) :=
  match find s.buffs place with
  | none => if guarded then some {s with astray:=true} else none
  | some held =>
    (effects fx cacleShiled moment {s with astray:=s.astray || held.ref != ref} held).map (fun s => clear fx s place ref)

def removeAll (cacleShiled : Shields W) (moment : StatusTrigger) (guarded : Bool) : List (Nat × Nat) → State W → Option (State W)
  | [],s => some s
  | (place,ref)::rest,s => (remove fx cacleShiled moment guarded s place ref).bind (removeAll cacleShiled moment guarded rest)

-- The end of every removal: the attributes, if a buff was to go, and the list put together.
def regroup (any : Bool) (s : State W) : State W :=
  {s with
    world:=if any then fx.cacleObjectAttr s.world ((present s.buffs).map Held.buff) else s.world,
    buffs:=compact s.buffs}

-- A shield that is used up may hurt its bearer, and so on: without fuel there is no end
-- in sight.
def cacleShiled : Nat → Shields W
  | 0,s,damage => if damage ≤ 0 then some (s,damage) else none
  | fuel+1,s,damage =>
    if damage ≤ 0 then some (s,damage)
    else
      let drained := drain damage 0 s.buffs
      let started := {s with buffs:=drained.1, spent:=s.spent++drained.2.1.map Prod.snd}
      (removeAll fx (cacleShiled fuel) .onEnd false drained.2.1 started).map (fun cleared =>
        (regroup fx (!drained.2.1.isEmpty) cleared,drained.2.2))

variable (cfg : Config)

-- turnOverSubStatusTurn for one object, and deleteObjectBuff, deleteObjectDebuff,
-- deleteObjectAllBuff, deleteObjectStatusBuff and deleteObjectOverlayBuff.
inductive Removal where
  | turnOverSubStatusTurn
  | delete (deletion : Deletion) (delRate delCount : Int) (rolls : List Int)

namespace Removal

def choose : Removal → List Buff → List Buff × List Nat
  | .turnOverSubStatusTurn,buffs => subTurn 0 buffs
  | .delete deletion delRate delCount rolls,buffs => (buffs,removeIndexs cfg deletion delRate delCount rolls 0 buffs)

def moment : Removal → StatusTrigger
  | .turnOverSubStatusTurn => .onEnd
  | .delete _ _ _ _ => .onClean

def guarded : Removal → Bool
  | .turnOverSubStatusTurn => true
  | .delete _ _ _ _ => false

end Removal

def number (buffs : List Buff) : List Held := buffs.zipIdx.map (fun entry => ⟨entry.2,entry.1⟩)

def start (world : W) (buffs : List Buff) : State W := ⟨world,full (number buffs),[],false⟩

def Removal.run (removal : Removal) (fuel : Nat) (world : W) (buffs : List Buff) : Option (State W) :=
  let chosen := removal.choose cfg buffs
  (removeAll fx (cacleShiled fx fuel) removal.moment removal.guarded (chosen.2.map (fun place => (place,place)))
    (start world chosen.1)).map (regroup fx (!chosen.2.isEmpty))

end code

-- The loop as the scene of buffs has it.
theorem drain_absorb (damage : Int) (place : Nat) (list : List Held) :
    (present (drain damage place (full list)).1).map Held.buff = (absorb damage place (list.map Held.buff)).1 ∧
    (drain damage place (full list)).2.1.map Prod.fst = (absorb damage place (list.map Held.buff)).2 := by
  induction list generalizing damage place with
  | nil => exact ⟨rfl,rfl⟩
  | cons held rest ih =>
    change (present (drain damage place (some held::full rest)).1).map Held.buff = (absorb damage place (held.buff::rest.map Held.buff)).1 ∧
      (drain damage place (some held::full rest)).2.1.map Prod.fst = (absorb damage place (held.buff::rest.map Held.buff)).2
    unfold drain absorb
    split
    · split
      · exact ⟨congrArg _ (ih 0 _).1,(ih 0 _).2⟩
      · exact ⟨congrArg _ (ih _ _).1,congrArg _ (ih _ _).2⟩
    · exact ⟨congrArg _ (ih _ _).1,(ih _ _).2⟩

section calm
variable {W : Type} {fx : Effects W} {shields : Shields W} {moment : StatusTrigger}

-- What the effects of a buff make of the world, and the damage they deal.
def healed (fx : Effects W) (moment : StatusTrigger) (world : W) (held : Held) : W :=
  if fx.statusMoment held.buff.statusId = some moment then fx.cacleStatusHeal world held else world

def blow (fx : Effects W) (moment : StatusTrigger) (world : W) (held : Held) : Int :=
  if fx.statusMoment held.buff.statusId = some moment then fx.damage (fx.cacleStatusHeal world held) held else 0

def passed (fx : Effects W) (moment : StatusTrigger) (world : W) (held : Held) : W :=
  fx.removeSkill (healed fx moment world held) held.buff.statusId

-- Buffs that go one after another without any damage.
def Calm (fx : Effects W) (moment : StatusTrigger) : W → List Held → Prop
  | _,[] => True
  | world,held::rest => blow fx moment world held ≤ 0 ∧ Calm fx moment (passed fx moment world held) rest

def walk (fx : Effects W) (moment : StatusTrigger) (world : W) (list : List Held) : W := list.foldl (passed fx moment) world

def Idle (shields : Shields W) : Prop := ∀ s damage, damage ≤ 0 → shields s damage = some (s,damage)

theorem cacleShiled_idle (fuel : Nat) : Idle (cacleShiled fx fuel) := by
  intro s damage none
  cases fuel <;> exact if_pos none

theorem calm_of_none (world : W) (list : List Held) (none : ∀ held ∈ list, fx.statusMoment held.buff.statusId ≠ some moment) :
    Calm fx moment world list := by
  induction list generalizing world with
  | nil => trivial
  | cons held rest ih =>
    refine ⟨?_,ih _ (fun other inside => none other (List.mem_cons_of_mem _ inside))⟩
    unfold blow
    rw [if_neg (none held List.mem_cons_self)]

theorem effects_calm (idle : Idle shields) (calm : blow fx moment s.world held ≤ 0) :
    effects fx shields moment s held = some {s with world:=healed fx moment s.world held} := by
  unfold effects healed
  unfold blow at calm
  split
  next fires =>
    rw [if_pos fires] at calm
    unfold cacleStatusDamage
    rw [idle _ _ calm]
    exact congrArg some (if_neg (not_lt.mpr calm))
  next => rfl

-- A turn of the loop where the effects have left the buff at its place.
theorem remove_found {after : State W} {kept : Held} (there : find s.buffs place = some held) (same : held.ref = ref)
    (does : effects fx shields moment s held = some after) (still : find after.buffs place = some kept)
    (status : kept.buff.statusId = held.buff.statusId) (same' : kept.ref = ref) (guarded : Bool) :
    remove fx shields moment guarded s place ref =
      some {after with world:=fx.removeSkill after.world held.buff.statusId, buffs:=after.buffs.set place none} := by
  have met : {s with astray:=s.astray || held.ref != ref} = s := by
    rw [same,bne_self_eq_false,Bool.or_false]
  unfold remove
  rw [there]
  dsimp only
  rw [met,does,Option.map_some]
  unfold clear removeSkillOnStatusDelete
  rw [still,Option.map_some,same']
  dsimp only
  rw [status,bne_self_eq_false,Bool.or_false]

theorem calm_removes (idle : Idle shields) (s : State W) (entries : List (Nat × Held))
    (there : ∀ entry ∈ entries, find s.buffs entry.1 = some entry.2) (apart : (entries.map Prod.fst).Nodup)
    (calm : Calm fx moment s.world (entries.map Prod.snd)) (guarded : Bool) :
    removeAll fx shields moment guarded (entries.map (fun entry => (entry.1,entry.2.ref))) s =
      some {s with world:=walk fx moment s.world (entries.map Prod.snd), buffs:=clearAll s.buffs (entries.map Prod.fst)} := by
  induction entries generalizing s with
  | nil => rfl
  | cons entry rest ih =>
    rw [List.map_cons,List.nodup_cons] at apart
    have first := remove_found (there entry List.mem_cons_self) rfl (effects_calm idle calm.1)
      (there entry List.mem_cons_self) rfl rfl guarded
    rw [List.map_cons,removeAll,first,Option.bind_some,ih _ _ apart.2 calm.2]
    · rfl
    · intro other inside
      have differ : entry.1 ≠ other.1 := fun same => apart.1 (by rw [same]; exact List.mem_map_of_mem inside)
      rw [find_clear_other s.buffs differ]
      exact there other (List.mem_cons_of_mem _ inside)

end calm
end OriginGame.BuffRemoval
