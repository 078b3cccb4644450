import Mathlib.Algebra.Order.BigOperators.Group.List
import OriginGame.Gathering

namespace OriginGame.Gathering

-- A gathering with its history at a time: the army has its record, no speed or time is
-- negative, and the earlier speeds do not take longer than the gathering.
structure Session where
  resource : Resource
  its : Collecting
  army : Army
  role : Role
  now : Int
  recorded : army.collectResource.isSome
  amount_nonneg : 0 ≤ resource.resourceAmount
  speed_nonneg : 0 ≤ its.collectSpeed
  parts_nonneg : ∀ part ∈ army.collectSpeeds, 0 ≤ part.collectSpeed ∧ 0 ≤ part.collectTime
  elapsed : useTime army.collectSpeeds ≤ now-its.collectTime

section amounts
variable (cfg : Config)

-- What the army can still carry of the node's kind, and what it has dug of the node.
def carried (s : Session) : Int := loadToResourceCount cfg (s.resource.type cfg) (max 0 (leftLoad cfg s.role s.army))
def gathered (s : Session) : Int := (dug s.its s.army s.now).floor

def totalLoad (loads : List Load) : Int := (loads.map (·.load)).sum

theorem total_addLoad (resource : Resource) (territory : Option Bool) (guildId : Option Nat) (amount : Int) (loads : List Load) :
    totalLoad (addLoad resource territory guildId amount loads) = totalLoad loads+amount := by
  induction loads with
  | nil => simp [addLoad,totalLoad]
  | cons loadInfo rest ih =>
    unfold addLoad
    split
    · simp only [totalLoad,List.map_cons,List.sum_cons]
      omega
    · simp only [totalLoad,List.map_cons,List.sum_cons] at ih ⊢
      omega

theorem dugBefore_nonneg {parts : List SpeedInfo} (nonneg : ∀ part ∈ parts, 0 ≤ part.collectSpeed ∧ 0 ≤ part.collectTime) : 0 ≤ dugBefore parts := by
  apply List.sum_nonneg
  intro amount there
  obtain ⟨part,inside,rfl⟩ := List.mem_map.mp there
  have speed : (0 : Rat) ≤ part.collectSpeed := by exact_mod_cast (nonneg part inside).1
  have time : (0 : Rat) ≤ part.collectTime := by exact_mod_cast (nonneg part inside).2
  exact mul_nonneg (div_nonneg speed (by norm_num [collectSpeedMultiple])) time

theorem gathered_nonneg (s : Session) : 0 ≤ gathered s := by
  have before := dugBefore_nonneg s.parts_nonneg
  have speed : (0 : Rat) ≤ s.its.collectSpeed := by exact_mod_cast s.speed_nonneg
  have time : (0 : Rat) ≤ ((s.now-s.its.collectTime-useTime s.army.collectSpeeds : Int) : Rat) := by
    have left := s.elapsed
    exact_mod_cast (by omega : 0 ≤ s.now-s.its.collectTime-useTime s.army.collectSpeeds)
  apply Rat.le_floor_iff.mpr
  push_cast at time ⊢
  unfold dug
  push_cast
  have current := mul_nonneg (div_nonneg speed (by norm_num [collectSpeedMultiple] : 0 ≤ collectSpeedMultiple)) time
  linarith

theorem raito_pos {type : ResourceType} {ratio : Rat} (its : raito cfg type = some ratio) : 0 < ratio := by
  cases type <;> cases its
  · exact cfg.food_pos
  · exact cfg.wood_pos
  · exact cfg.stone_pos
  · exact cfg.gold_pos
  · exact cfg.diamon_pos

-- What a load is worth in a kind needs no more than the load.
theorem count_bounds (type : ResourceType) {load : Rat} (nonneg : 0 ≤ load) :
    0 ≤ loadToResourceCount cfg type load ∧ loadToResourceCount cfg type load*(raito cfg type).getD 0 ≤ load := by
  unfold loadToResourceCount
  cases its : raito cfg type with
  | none => simpa using nonneg
  | some ratio =>
    have positive := raito_pos cfg its
    simp only [Option.elim_some,Option.getD_some]
    constructor
    · exact Rat.le_floor_iff.mpr (by push_cast; exact div_nonneg nonneg positive.le)
    · exact (le_div_iff₀ positive).mp (Rat.floor_le (load/ratio))

theorem carried_nonneg (s : Session) : 0 ≤ carried cfg s := (count_bounds cfg _ (le_max_left _ _)).1

-- What the army gets.
def gained (s : Session) : Int := min (carried cfg s) (min s.resource.resourceAmount (gathered s))

theorem gained_nonneg (s : Session) : 0 ≤ gained cfg s :=
  le_min (carried_nonneg cfg s) (le_min s.amount_nonneg (gathered_nonneg s))

end amounts

section finish
variable (cfg : Config)

def finish (s : Session) : Finished := collectFinish cfg s.role s.now s.resource s.its s.army

theorem collectNum_eq (s : Session) : collectNum s.now s.resource s.its s.army = min s.resource.resourceAmount (gathered s) := by
  change (if s.resource.resourceAmount < gathered s then _ else gathered s) = _
  split <;> omega

theorem collectAmount_eq (s : Session) : collectAmount cfg s.role s.now s.resource s.its s.army = gained cfg s := by
  have clamped : (if leftLoad cfg s.role s.army < 0 then 0 else leftLoad cfg s.role s.army) = max 0 (leftLoad cfg s.role s.army) := by
    split
    next below => exact (max_eq_left below.le).symm
    next above => exact (max_eq_right (not_lt.mp above)).symm
  unfold collectAmount
  dsimp only
  rw [clamped,collectNum_eq]
  change (if carried cfg s > _ then _ else carried cfg s) = _
  unfold gained
  split <;> omega

-- The army's loads grow by what is gained.
theorem finish_load (s : Session) : totalLoad (finish cfg s).army.resourceLoads = totalLoad s.army.resourceLoads+gained cfg s := by
  have nonneg := gained_nonneg cfg s
  unfold finish collectFinish
  dsimp only
  rw [collectAmount_eq]
  split
  · exact total_addLoad ..
  · omega

theorem finish_resource (s : Session) : (finish cfg s).resource =
    if s.resource.resourceAmount ≤ gathered s ∨ deleteTime cfg s.resource ≤ s.now then none
    else some {s.resource with resourceAmount:=s.resource.resourceAmount-gained cfg s} := by
  have test : s.resource.resourceAmount ≤ min s.resource.resourceAmount (gathered s) ↔ s.resource.resourceAmount ≤ gathered s := by omega
  unfold finish collectFinish
  dsimp only
  rw [collectAmount_eq,collectNum_eq]
  simp only [test]

end finish

section conserves
variable (cfg : Config)

-- What collectFinish adds to the army's loads.
def added (s : Session) : Int := totalLoad (finish cfg s).army.resourceLoads-totalLoad s.army.resourceLoads

structure Conserves (s : Session) : Prop where
  taken : ∀ left, (finish cfg s).resource = some left → s.resource.resourceAmount-left.resourceAmount = added cfg s
  amount : added cfg s ≤ s.resource.resourceAmount
  carry : added cfg s ≤ carried cfg s
  nonneg : 0 ≤ added cfg s ∧ ∀ left, (finish cfg s).resource = some left → 0 ≤ left.resourceAmount
  removed : s.now < deleteTime cfg s.resource → (finish cfg s).resource = none → s.resource.resourceAmount-added cfg s = 0

-- The army has dug all the node had, but it cannot carry it any more.
def Overdug (s : Session) : Prop :=
  s.resource.resourceAmount ≤ gathered s ∧ carried cfg s < s.resource.resourceAmount ∧ s.now < deleteTime cfg s.resource

theorem added_eq (s : Session) : added cfg s = gained cfg s := by
  rw [added,finish_load]
  omega

theorem finish_conserves (s : Session) : Conserves cfg s ↔ ¬Overdug cfg s := by
  have nonneg := gained_nonneg cfg s
  have its : gained cfg s = min (carried cfg s) (min s.resource.resourceAmount (gathered s)) := rfl
  constructor
  · rintro conserves ⟨all,few,early⟩
    have none : (finish cfg s).resource = none := by
      rw [finish_resource,if_pos (.inl all)]
    have left := conserves.removed early none
    rw [added_eq] at left
    omega
  · intro fits
    have stays {left : Resource} (found : (finish cfg s).resource = some left) : left.resourceAmount = s.resource.resourceAmount-gained cfg s := by
      rw [finish_resource] at found
      split at found
      · cases found
      · cases found
        rfl
    refine ⟨?_,?_,?_,⟨?_,?_⟩,?_⟩
    · intro left found
      rw [added_eq,stays found]
      omega
    · rw [added_eq]
      omega
    · rw [added_eq]
      omega
    · rw [added_eq]
      exact nonneg
    · intro left found
      rw [stays found]
      omega
    · intro early none
      rw [added_eq]
      rw [finish_resource] at none
      split at none
      next gone =>
        have all : s.resource.resourceAmount ≤ gathered s := gone.resolve_right (not_le.mpr early)
        have enough : s.resource.resourceAmount ≤ carried cfg s := by
          by_contra less
          exact fits ⟨all,not_le.mp less,early⟩
        omega
      next => cases none

end conserves

section lost

def plain : Config where
  foodRaito := 1
  woodRaito := 1
  stoneRaito := 1
  goldRaito := 1
  diamonRaito := 1
  s_ResourceGatherType _ := ⟨.farmland,3600⟩
  capacity _ := 1
  food_pos := by decide
  wood_pos := by decide
  stone_pos := by decide
  gold_pos := by decide
  diamon_pos := by decide

-- A hundred seconds at one a second, by an army that has forty soldiers left.
def shrunk : Session where
  resource := ⟨7,1,0,(0,0),100⟩
  its := ⟨1,1,0,10000⟩
  army := ⟨[⟨101,40⟩],[],some ⟨1,(0,0),7,0,100,100,[],10000⟩⟩
  role := ⟨0,0,0,false⟩
  now := 100
  recorded := rfl
  amount_nonneg := by decide
  speed_nonneg := by decide
  parts_nonneg := by
    intro part none
    cases none
  elapsed := by decide

theorem shrunk_loses : ¬Conserves plain shrunk := by
  intro conserves
  have left := conserves.removed (by decide) (by decide +kernel)
  revert left
  decide +kernel

end lost

end OriginGame.Gathering
