import OriginGame.RemovedPlaces

namespace OriginGame.BuffRemoval
open BattleBuff Slots

namespace Removal

-- What a removal does to the buffs before it removes any, and which it is to remove.
def aged : Removal → Buff → Buff
  | .turnOverSubStatusTurn,buff => if 0 ≤ buff.turn then {buff with turn:=buff.turn-1} else buff
  | .delete _ _ _ _,buff => buff

def due (cfg : Config) : Removal → List Buff → List Nat
  | .turnOverSubStatusTurn,buffs =>
    (buffs.zipIdx.filter (fun entry => 0 ≤ entry.1.turn && entry.1.turn-1 ≤ 0)).map Prod.snd
  | .delete deletion delRate delCount rolls,buffs => removeIndexs cfg deletion delRate delCount rolls 0 buffs

end Removal

-- The buffs at some places.
def picked (list : List Held) (places : List Nat) : List Held := places.filterMap (list[·]?)

section steady
variable {W : Type}

def hurtWorld (fx : Effects W) (world : W) (damage : Int) (list : List Held) : W :=
  let shielded := recalculated fx (walk fx .onEnd world (exhausted damage list)) damage list
  if 0 < max 0 (damage-total list) then (fx.hurt shielded (full (survivors damage list)) (max 0 (damage-total list))).1 else shielded

-- A damage that uses up no shield before the last place, nor hurts by the shields it uses
-- up, nor triggers what changes the buffs.
structure Harmless (fx : Effects W) (world : W) (list : List Held) (places : List Nat) (damage : Int) : Prop where
  beyond : ∀ held ∈ exhausted damage list, ∀ place ∈ places, place < held.ref
  contained : Contained fx world (exhausted damage list)
  quiet : 0 < max 0 (damage-total list) →
    (fx.hurt (recalculated fx (walk fx .onEnd world (exhausted damage list)) damage list) (full (survivors damage list))
      (max 0 (damage-total list))).2 = full (survivors damage list)

-- Only the first buff that goes may hurt, and harmlessly.
def Steady (fx : Effects W) (moment : StatusTrigger) (world : W) (list : List Held) : List Nat → Prop
  | [] => True
  | place::rest => ∀ held, list[place]? = some held →
    (blow fx moment world held ≤ 0 → Calm fx moment (passed fx moment world held) (picked list rest)) ∧
    (0 < blow fx moment world held →
      Harmless fx (healed fx moment world held) list (place::rest) (blow fx moment world held) ∧
      Calm fx moment
        (fx.removeSkill (hurtWorld fx (healed fx moment world held) (blow fx moment world held) list) held.buff.statusId)
        (picked (survivors (blow fx moment world held) list) rest))

-- Every place held its buff, and what is left is what neither was due nor used up.
structure Right (cfg : Config) (removal : Removal) (buffs : List Buff) (after : State W) : Prop where
  faithful : after.astray = false
  left : (present after.buffs).map Held.ref =
    (List.range buffs.length).filter (fun place => place ∉ removal.due cfg buffs ∧ place ∉ after.spent)
  kept : ∀ held ∈ present after.buffs, ∃ buff, buffs[held.ref]? = some buff ∧
    held.buff = {removal.aged buff with shiled:=held.buff.shiled}

end steady

section choosing
variable {cfg : Config}

end choosing

section steady
variable {W : Type} {fx : Effects W} {cfg : Config} {removal : Removal} {buffs : List Buff}

-- Each place of a loop that went right still stands behind its buff before the loop.
theorem reached {s : State W} {shields : Shields W} {moment : StatusTrigger} {guarded : Bool} {targets : List (Nat × Nat)}
    (quiet : Quiet fx) (sinks : Sinks shields) (does : removeAll fx shields moment guarded targets s = some t) (honest : t.astray = false) :
    ∀ target ∈ targets, ∃ place, target.1 ≤ place ∧ (find s.buffs place).map Held.ref = some target.2 := by
  induction targets generalizing s with
  | nil => exact fun _ inside => absurd inside List.not_mem_nil
  | cons first rest ih =>
    obtain ⟨middle,gone,later⟩ := Option.bind_eq_some_iff.mp does
    intro target inside
    rcases List.mem_cons.mp inside with rfl | inside
    · obtain ⟨held,_,there,same,_⟩ := remove_honest quiet sinks gone (honest_before (removeAll_moves quiet sinks later) honest)
      exact ⟨target.1,le_refl _,by rw [there]; exact congrArg some same⟩
    · obtain ⟨place,upward,there⟩ := ih later target inside
      obtain ⟨old,further,there⟩ := (remove_moves quiet sinks gone).lower place _ there
      exact ⟨old,upward.trans further,there⟩

end steady

-- Three buffs without shields: two at their last turn, of which the second hurts when it
-- ends, and one for good.
def expiry : Effects Unit where
  statusMoment statusId := if statusId = 2 then some .onEnd else none
  cacleStatusHeal world _ := world
  damage _ _ := 5
  hurt world buffs _ := (world,buffs)
  removeSkill world _ := world
  cacleObjectAttr world _ := world

def lasting (statusId : StatusId) (turn : Int) : Buff := ⟨statusId,9,0,1,turn,.none,1,0,0⟩

def expiring : List Buff := [lasting 1 1,lasting 2 1,lasting 3 (-1)]

end OriginGame.BuffRemoval
