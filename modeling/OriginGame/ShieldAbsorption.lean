import OriginGame.BuffRemoval
import Mathlib.Algebra.BigOperators.Group.List.Basic

namespace OriginGame.BuffRemoval
open BattleBuff Slots

def strength (held : Held) : Int := max 0 held.buff.shiled

-- The buffs, each with the shields that stand before it.
def exposed : Int → List Held → List (Held × Int)
  | _,[] => []
  | before,held::rest => (held,before)::exposed (before+strength held) rest

def usedUp (damage : Int) (entry : Held × Int) : Bool := 0 < entry.1.buff.shiled && entry.2+entry.1.buff.shiled ≤ damage

-- A buff takes of the damage what the shields before it leave.
def weakened (damage : Int) (entry : Held × Int) : Held :=
  {entry.1 with buff:={entry.1.buff with
    shiled:=entry.1.buff.shiled-max 0 (min entry.1.buff.shiled (damage-entry.2))}}

def survivors (damage : Int) (list : List Held) : List Held :=
  ((exposed 0 list).filter (fun entry => !usedUp damage entry)).map (weakened damage)

def exhausted (damage : Int) (list : List Held) : List Held := ((exposed 0 list).filter (usedUp damage)).map Prod.fst

def total (list : List Held) : Int := (list.map strength).sum

-- The buffs before any is removed, and the ones to remove with their places.
def struck (damage : Int) (entry : Held × Int) : Held := if usedUp damage entry then entry.1 else weakened damage entry

def targets (damage : Int) : Nat → List (Held × Int) → List (Nat × Held)
  | _,[] => []
  | place,entry::rest =>
    if usedUp damage entry then (place,entry.1)::targets damage (place+1) rest else targets damage (place+1) rest

def blasted (damage : Int) (list : List Held) : List Held := (exposed 0 list).map (struck damage)

def aims (damage : Int) (list : List Held) : List (Nat × Held) := targets damage 0 (exposed 0 list)

theorem exposed_cons (before : Int) (held : Held) (rest : List Held) :
    exposed before (held::rest) = (held,before)::exposed (before+strength held) rest := rfl

theorem targets_cons (damage : Int) (place : Nat) (entry : Held × Int) (rest : List (Held × Int)) :
    targets damage place (entry::rest) =
      if usedUp damage entry then (place,entry.1)::targets damage (place+1) rest else targets damage (place+1) rest := rfl

theorem strength_nonneg (held : Held) : 0 ≤ strength held := le_max_left _ _

theorem total_cons (held : Held) (rest : List Held) : total (held::rest) = strength held+total rest := List.sum_cons

theorem total_nonneg (list : List Held) : 0 ≤ total list := by
  induction list with
  | nil => exact le_refl _
  | cons held rest ih =>
    rw [total_cons]
    exact Int.add_nonneg (strength_nonneg held) ih

-- The first loop, with the damage that is left as it comes to each buff.
theorem drain_exposed (damage before : Int) (place : Nat) (list : List Held) :
    drain (max 0 (damage-before)) place (full list) =
      (full ((exposed before list).map (struck damage)),
        (targets damage place (exposed before list)).map (fun entry => (entry.1,entry.2.ref)),
        max 0 (damage-before-total list)) := by
  induction list generalizing before place with
  | nil =>
    change ([],[],max 0 (damage-before)) = (([] : Slots Held),([] : List (Nat × Nat)),max 0 (damage-before-0))
    rw [Int.sub_zero]
  | cons held rest ih =>
    have next := ih (before+strength held) (place+1)
    have share : damage-(before+strength held)-total rest = damage-before-total (held::rest) := by
      rw [total_cons]
      omega
    rw [share] at next
    change drain _ place (some held::full rest) = _
    rw [exposed_cons,targets_cons,List.map_cons]
    change _ = (some (struck damage (held,before))::full _,_,_)
    unfold drain struck usedUp weakened
    unfold strength at next
    dsimp only
    split
    next meets =>
      split
      next small =>
        have spent : max 0 (damage-(before+max 0 held.buff.shiled)) = 0 := by omega
        have whole : ¬(decide (0 < held.buff.shiled) && decide (before+held.buff.shiled ≤ damage)) = true := by
          rw [Bool.and_eq_true,decide_eq_true_eq,decide_eq_true_eq]
          omega
        have part : max 0 (min held.buff.shiled (damage-before)) = max 0 (damage-before) := by omega
        rw [spent] at next
        rw [if_neg whole,if_neg whole,next,part]
        rfl
      next large =>
        have left : max 0 (damage-before)-held.buff.shiled = max 0 (damage-(before+max 0 held.buff.shiled)) := by omega
        have used : (decide (0 < held.buff.shiled) && decide (before+held.buff.shiled ≤ damage)) = true := by
          rw [Bool.and_eq_true,decide_eq_true_eq,decide_eq_true_eq]
          omega
        rw [if_pos used,if_pos used,left,next]
        rfl
    next idle =>
      have same : max 0 (damage-before) = max 0 (damage-(before+max 0 held.buff.shiled)) := by omega
      have whole : ¬(decide (0 < held.buff.shiled) && decide (before+held.buff.shiled ≤ damage)) = true := by
        rw [Bool.and_eq_true,decide_eq_true_eq,decide_eq_true_eq]
        omega
      have nothing : max 0 (min held.buff.shiled (damage-before)) = 0 := by omega
      rw [if_neg whole,if_neg whole,nothing,Int.sub_zero,same,next]
      rfl

theorem drain_full (hurt : 0 < damage) (list : List Held) : drain damage 0 (full list) =
    (full (blasted damage list),(aims damage list).map (fun entry => (entry.1,entry.2.ref)),max 0 (damage-total list)) := by
  have whole := drain_exposed damage 0 0 list
  rwa [Int.sub_zero,max_eq_right hurt.le] at whole

theorem exposed_fst (before : Int) (list : List Held) : (exposed before list).map Prod.fst = list := by
  induction list generalizing before with
  | nil => rfl
  | cons held rest ih => exact congrArg (held::·) (ih _)

theorem targets_snd (damage : Int) (place : Nat) (list : List (Held × Int)) :
    (targets damage place list).map Prod.snd = (list.filter (usedUp damage)).map Prod.fst := by
  induction list generalizing place with
  | nil => rfl
  | cons entry rest ih =>
    unfold targets
    split
    next used => rw [List.filter_cons_of_pos used,List.map_cons,List.map_cons,ih]
    next left => rw [List.filter_cons_of_neg left,ih]

theorem targets_mem (inside : target ∈ targets damage place list) :
    ∃ entry, place ≤ target.1 ∧ list[target.1-place]? = some entry ∧ entry.1 = target.2 ∧ usedUp damage entry = true := by
  induction list generalizing place with
  | nil => cases inside
  | cons entry rest ih =>
    have later (inside : target ∈ targets damage (place+1) rest) :
        ∃ other, place ≤ target.1 ∧ (entry::rest)[target.1-place]? = some other ∧ other.1 = target.2 ∧ usedUp damage other = true := by
      obtain ⟨other,reach,there,same⟩ := ih inside
      have step : target.1-place = target.1-(place+1)+1 := by omega
      exact ⟨other,by omega,by rw [step]; exact there,same⟩
    unfold targets at inside
    split at inside
    next used =>
      rcases List.mem_cons.mp inside with rfl | inside
      · exact ⟨entry,le_refl _,by rw [Nat.sub_self]; rfl,rfl,used⟩
      · exact later inside
    next => exact later inside

theorem targets_sorted (damage : Int) (place : Nat) (list : List (Held × Int)) :
    ((targets damage place list).map Prod.fst).Pairwise (· < ·) := by
  induction list generalizing place with
  | nil => exact .nil
  | cons entry rest ih =>
    unfold targets
    split
    next =>
      refine List.Pairwise.cons (fun other inside => ?_) (ih _)
      obtain ⟨target,among,rfl⟩ := List.mem_map.mp inside
      obtain ⟨_,reach,_⟩ := targets_mem among
      exact reach
    next => exact ih _

theorem struck_ref (damage : Int) (entry : Held × Int) : (struck damage entry).ref = entry.1.ref := by
  unfold struck weakened
  split <;> rfl

theorem blasted_refs (damage : Int) (list : List Held) : (blasted damage list).map Held.ref = list.map Held.ref := by
  unfold blasted
  rw [List.map_map]
  calc (exposed 0 list).map (Held.ref ∘ struck damage) = (exposed 0 list).map (Held.ref ∘ Prod.fst) :=
        List.map_congr_left (fun entry _ => struck_ref damage entry)
    _ = list.map Held.ref := by rw [←List.map_map,exposed_fst]

theorem aims_snd (damage : Int) (list : List Held) : (aims damage list).map Prod.snd = exhausted damage list := targets_snd _ _ _

theorem aims_refs (damage : Int) (list : List Held) :
    (aims damage list).map (fun entry => entry.2.ref) = (exhausted damage list).map Held.ref := by
  rw [←aims_snd,List.map_map]
  rfl

theorem aims_apart (damage : Int) (list : List Held) : ((aims damage list).map Prod.fst).Nodup :=
  (targets_sorted _ _ _).imp Nat.ne_of_lt

theorem aims_there (inside : entry ∈ aims damage list) : (blasted damage list)[entry.1]? = some entry.2 := by
  obtain ⟨other,_,placed,same,used⟩ := targets_mem inside
  unfold blasted
  rw [List.getElem?_map,←Nat.sub_zero entry.1,placed,Option.map_some,←same]
  exact congrArg some (if_pos used)

theorem unspent (distinct : (list.map Held.ref).Nodup) (damage : Int) :
    (blasted damage list).filter (fun held => held.ref ∉ (exhausted damage list).map Held.ref) = survivors damage list := by
  have apart : ((exposed 0 list).map (Held.ref ∘ Prod.fst)).Nodup := by rwa [←List.map_map,exposed_fst]
  have goes (entry : Held × Int) (inside : entry ∈ exposed 0 list) :
      entry.1.ref ∈ (exhausted damage list).map Held.ref ↔ usedUp damage entry = true := by
    unfold exhausted
    rw [List.map_map]
    constructor
    · intro among
      obtain ⟨other,among,same⟩ := List.mem_map.mp among
      obtain ⟨member,used⟩ := List.mem_filter.mp among
      exact List.inj_on_of_nodup_map apart member inside same ▸ used
    · intro used
      exact List.mem_map.mpr ⟨entry,List.mem_filter.mpr ⟨inside,used⟩,rfl⟩
  unfold survivors blasted
  rw [List.filter_map]
  have kept : (exposed 0 list).filter ((fun held => decide (held.ref ∉ (exhausted damage list).map Held.ref)) ∘ struck damage) =
      (exposed 0 list).filter (fun entry => !usedUp damage entry) := by
    refine List.filter_congr (fun entry inside => ?_)
    rw [Function.comp_apply,struck_ref,decide_not]
    exact congrArg not (Bool.eq_iff_iff.mpr (decide_eq_true_iff.trans (goes entry inside)))
  rw [kept]
  refine List.map_congr_left (fun entry inside => ?_)
  have left := (List.mem_filter.mp inside).2
  unfold struck
  rw [if_neg (by rw [Bool.not_eq_true]; exact (Bool.not_eq_true' _).mp left)]

section absorbing
variable {W : Type} {fx : Effects W}

-- The world after the shields: the attributes change if one is used up.
def recalculated (fx : Effects W) (world : W) (damage : Int) (list : List Held) : W :=
  if (exhausted damage list).isEmpty then world else fx.cacleObjectAttr world ((survivors damage list).map Held.buff)

def outcome (fx : Effects W) (s : State W) (damage : Int) (list : List Held) (world : W) : State W × Int :=
  ({s with
    world:=recalculated fx world damage list,
    buffs:=full (survivors damage list),
    spent:=s.spent++(exhausted damage list).map Held.ref},max 0 (damage-total list))

-- Once every used-up shield has gone from its own place, the list is as it should be.
theorem cacleShiled_outcome {s : State W} (dense : s.buffs = full list) (distinct : (list.map Held.ref).Nodup) (hurt : 0 < damage)
    (goes : removeAll fx (cacleShiled fx fuel) .onEnd false ((aims damage list).map (fun entry => (entry.1,entry.2.ref)))
        {s with buffs:=full (blasted damage list), spent:=s.spent++(exhausted damage list).map Held.ref} =
      some {s with
        world:=world,
        buffs:=clearAll (full (blasted damage list)) ((aims damage list).map Prod.fst),
        spent:=s.spent++(exhausted damage list).map Held.ref}) :
    cacleShiled fx (fuel+1) s damage = some (outcome fx s damage list world) := by
  have refs : ((aims damage list).map (fun entry => (entry.1,entry.2.ref))).map Prod.snd = (exhausted damage list).map Held.ref := by
    rw [List.map_map]
    exact aims_refs damage list
  have any : ((aims damage list).map (fun entry => (entry.1,entry.2.ref))).isEmpty = (exhausted damage list).isEmpty := by
    rw [←aims_snd,List.isEmpty_map,List.isEmpty_map]
  have left : present (clearAll (full (blasted damage list)) ((aims damage list).map Prod.fst)) = survivors damage list := by
    have whole : ((present (full (blasted damage list))).map Held.ref).Nodup := by rwa [present_full,blasted_refs]
    rw [present_clearAll whole (aims_apart damage list) (fun entry inside => (find_full _ _).trans (aims_there inside)),
      present_full,aims_refs,unspent distinct]
  unfold cacleShiled
  rw [if_neg (not_le.mpr hurt),dense,drain_full hurt]
  dsimp only
  rw [refs,goes,Option.map_some,any]
  unfold regroup outcome recalculated compact
  rw [left]
  cases (exhausted damage list).isEmpty <;> rfl

theorem cacleShiled_calm {s : State W} (dense : s.buffs = full list) (distinct : (list.map Held.ref).Nodup) (hurt : 0 < damage)
    (calm : Calm fx .onEnd s.world (exhausted damage list)) (fuel : Nat) :
    cacleShiled fx (fuel+1) s damage = some (outcome fx s damage list (walk fx .onEnd s.world (exhausted damage list))) := by
  rw [←aims_snd] at calm ⊢
  refine cacleShiled_outcome dense distinct hurt ?_
  exact calm_removes (cacleShiled_idle fuel)
    {s with buffs:=full (blasted damage list), spent:=s.spent++(exhausted damage list).map Held.ref} _
    (fun entry inside => (find_full _ _).trans (aims_there inside)) (aims_apart damage list) calm false

end absorbing

theorem number_refs (buffs : List Buff) : (number buffs).map Held.ref = List.range buffs.length := by
  unfold number
  rw [List.map_map,List.range_eq_range',←List.zipIdx_map_snd 0 buffs]
  rfl

theorem number_buffs (buffs : List Buff) : (number buffs).map Held.buff = buffs := by
  unfold number
  rw [List.map_map]
  exact List.zipIdx_map_fst 0 buffs

theorem number_distinct (buffs : List Buff) : ((number buffs).map Held.ref).Nodup := by
  rw [number_refs]
  exact List.nodup_range

theorem exhausted_sub (inside : held ∈ exhausted damage list) : held ∈ list := by
  obtain ⟨entry,among,rfl⟩ := List.mem_map.mp inside
  rw [←exposed_fst 0 list]
  exact List.mem_map_of_mem (List.mem_filter.mp among).1

theorem exposed_before (inside : entry ∈ exposed before list) : before ≤ entry.2 := by
  induction list generalizing before with
  | nil => cases inside
  | cons held rest ih =>
    rcases List.mem_cons.mp inside with rfl | inside
    · exact le_refl _
    · exact (Int.le_add_of_nonneg_right (strength_nonneg held)).trans (ih inside)

-- No damage uses up nothing.
theorem survivors_unhurt (list : List Held) : survivors 0 list = list := by
  have left (entry : Held × Int) (inside : entry ∈ exposed 0 list) : usedUp 0 entry = false ∧ weakened 0 entry = entry.1 := by
    have behind := exposed_before inside
    constructor
    · unfold usedUp
      rw [Bool.and_eq_false_iff,decide_eq_false_iff_not,decide_eq_false_iff_not]
      omega
    · unfold weakened
      have nothing : max 0 (min entry.1.buff.shiled (0-entry.2)) = 0 := by omega
      rw [nothing,Int.sub_zero]
  unfold survivors
  rw [List.filter_eq_self.mpr (fun entry inside => by rw [(left entry inside).1]; rfl),
    List.map_congr_left (fun entry inside => (left entry inside).2)]
  exact exposed_fst 0 list

theorem total_survivors (damage before : Int) (list : List Held) :
    total (((exposed before list).filter (fun entry => !usedUp damage entry)).map (weakened damage)) =
      max 0 (total list-max 0 (damage-before)) := by
  induction list generalizing before with
  | nil =>
    change (0 : Int) = max 0 (0-max 0 (damage-before))
    omega
  | cons held rest ih =>
    have later := ih (before+strength held)
    have nonneg := total_nonneg rest
    unfold exposed
    rw [total_cons]
    cases used : usedUp damage (held,before) with
    | true =>
      rw [List.filter_cons_of_neg (by rw [used]; decide),later]
      unfold usedUp at used
      rw [Bool.and_eq_true,decide_eq_true_eq,decide_eq_true_eq] at used
      unfold strength
      dsimp only at used
      omega
    | false =>
      rw [List.filter_cons_of_pos (by rw [used]; rfl),List.map_cons,total_cons,later]
      unfold usedUp at used
      rw [Bool.and_eq_false_iff,decide_eq_false_iff_not,decide_eq_false_iff_not] at used
      unfold strength weakened
      dsimp only at used ⊢
      omega

def shields (buffs : List Buff) : Int := (buffs.map Buff.shiled).sum

theorem total_shields {list : List Held} (shielded : ∀ held ∈ list, 0 ≤ held.buff.shiled) :
    total list = shields (list.map Held.buff) := by
  unfold total shields
  rw [List.map_map]
  exact congrArg List.sum (List.map_congr_left (fun held inside => max_eq_right (shielded held inside)))

theorem survivors_shielded (damage : Int) (inside : held ∈ survivors damage list) (shielded : ∀ held ∈ list, 0 ≤ held.buff.shiled) :
    0 ≤ held.buff.shiled := by
  obtain ⟨entry,among,rfl⟩ := List.mem_map.mp inside
  have was : 0 ≤ entry.1.buff.shiled := by
    refine shielded _ ?_
    rw [←exposed_fst 0 list]
    exact List.mem_map_of_mem (List.mem_filter.mp among).1
  unfold weakened
  dsimp only
  omega

theorem shields_absorb {W : Type} (fx : Effects W) (world : W) (buffs : List Buff) (damage : Int) (fuel : Nat)
    (shielded : ∀ buff ∈ buffs, 0 ≤ buff.shiled) (endless : ∀ buff ∈ buffs, fx.statusMoment buff.statusId ≠ some .onEnd)
    (hurt : 0 ≤ damage) :
    ∃ after, cacleShiled fx (fuel+1) (start world buffs) damage = some (after,max 0 (damage-shields buffs)) ∧
      after.buffs = full (survivors damage (number buffs)) ∧
      shields ((survivors damage (number buffs)).map Held.buff) = max 0 (shields buffs-damage) := by
  have each (held : Held) (inside : held ∈ number buffs) : held.buff ∈ buffs := by
    rw [←number_buffs buffs]
    exact List.mem_map_of_mem inside
  have strong : ∀ held ∈ number buffs, 0 ≤ held.buff.shiled := fun held inside => shielded _ (each held inside)
  have whole : total (number buffs) = shields buffs := by rw [total_shields strong,number_buffs]
  have nonneg : 0 ≤ shields buffs := by rw [←whole]; exact total_nonneg _
  have left : shields ((survivors damage (number buffs)).map Held.buff) = max 0 (shields buffs-damage) := by
    rw [←total_shields (fun held inside => survivors_shielded damage inside strong),←whole]
    have spared := total_survivors damage 0 (number buffs)
    rwa [Int.sub_zero,max_eq_right hurt] at spared
  rcases hurt.lt_or_eq with hurt | rfl
  · have calm : Calm fx .onEnd world (exhausted damage (number buffs)) :=
      calm_of_none _ _ (fun held inside => endless _ (each held (exhausted_sub inside)))
    have absorbed := cacleShiled_calm (s:=start world buffs) rfl (number_distinct buffs) hurt calm fuel
    rw [←whole]
    exact ⟨_,absorbed,rfl,by rw [whole]; exact left⟩
  · refine ⟨start world buffs,?_,by rw [survivors_unhurt]; rfl,left⟩
    have none : max 0 (0-shields buffs) = 0 := by omega
    rw [none]
    exact cacleShiled_idle _ _ _ (le_refl 0)

def plain : Effects Unit := ⟨fun _ => none,fun world _ => world,fun _ _ => 0,fun world buffs _ => (world,buffs),fun world _ => world,fun world _ => world⟩

def shield (statusId : StatusId) (shiled : Int) : Buff := ⟨statusId,9,shiled,1,3,.none,1,0,0⟩

-- Six of damage use up the first shield and one of the second.
theorem three_shields : ∃ after, cacleShiled plain 1 (start () [shield 1 5,shield 2 3,shield 3 4]) 6 =
      some (after,max 0 (6-shields [shield 1 5,shield 2 3,shield 3 4])) ∧
    after.buffs = full (survivors 6 (number [shield 1 5,shield 2 3,shield 3 4])) ∧
    shields ((survivors 6 (number [shield 1 5,shield 2 3,shield 3 4])).map Held.buff) =
      max 0 (shields [shield 1 5,shield 2 3,shield 3 4]-6) :=
  shields_absorb plain () _ 6 0 (by decide) (by decide) (by decide)

end OriginGame.BuffRemoval
