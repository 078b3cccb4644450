import OriginGame.PlunderBounds

namespace OriginGame.CityPlunder
open BuildingRoleMgr (Resource)

-- What a battle's attackers have in common.
structure Battle where
  cityAttackCount : Table Nat Int
  plunderResource : Resource → Int
  resourceLoad : Nat → Int
  lossConstant : Int

def Battle.exitArg (b : Battle) (objectIndex : Nat) : ExitArg := ⟨objectIndex,b.cityAttackCount,some b.plunderResource⟩

-- The attackers one after the other, and what they took of the stock together.
def Battle.plunder (b : Battle) : List Nat → Defender → Except Defender (Defender×(Resource → Int))
  | [],d => .ok (d,fun _ => 0)
  | objectIndex::rest,d =>
    match dispatchCityPlunder (b.exitArg objectIndex) (b.resourceLoad objectIndex) b.lossConstant d with
    | .error left => .error left
    | .ok (after,_) =>
      match b.plunder rest after with
      | .error left => .error left
      | .ok (last,more) => .ok (last,fun resource => max 0 (d.stored resource-after.stored resource)+more resource)

-- What an army takes that attacks alone and can carry everything.
def alone (e : ExitArg) (resourceLoad lossConstant : Int) (d : Defender) : Except Defender (Resource → Int) :=
  match dispatchCityPlunder e resourceLoad lossConstant d with
  | .error left => .error left
  | .ok (after,_) => .ok (fun resource => max 0 (d.stored resource-after.stored resource))

section shares
variable {b : Battle} {d : Defender} {city : Resource → Int}

-- The share of one attacker in what the second subtraction of the protected amounts leaves.
def share (b : Battle) (protect : Resource → Int) (objectIndex : Nat) (resource : Resource) : Int :=
  portion (spare b.plunderResource protect resource) ((b.cityAttackCount.lookup objectIndex).getD 0) (Table.sumOver id b.cityAttackCount)

def count (b : Battle) (objectIndex : Nat) : Int := (b.cityAttackCount.lookup objectIndex).getD 0

def allCount (b : Battle) : Int := Table.sumOver id b.cityAttackCount

theorem sum_counts {attackers : List Nat} (order : attackers.Perm b.cityAttackCount.keys) : (attackers.map (count b)).sum = allCount b := by
  rw [(order.map _).sum_eq,allCount,Table.sumOver,AList.keys,List.keys,List.map_map]
  congr 1
  refine List.map_congr_left (fun e mem => ?_)
  have found : b.cityAttackCount.lookup e.1 = some e.2 := List.mem_dlookup b.cityAttackCount.nodupKeys mem
  rw [Function.comp,count,found]
  rfl

variable (b) in
def Multi : Prop := 2 ≤ b.cityAttackCount.keys.length ∧ ∀ objectIndex n, b.cityAttackCount.lookup objectIndex = some n → 0 < n

theorem Multi.count_pos (multi : Multi b) (there : objectIndex ∈ b.cityAttackCount.keys) : 0 < count b objectIndex := by
  obtain ⟨n,found⟩ := Table.lookup_of_mem (AList.mem_keys.mpr there)
  rw [count,found]
  exact multi.2 objectIndex n found

theorem Multi.all_pos (multi : Multi b) : 0 < allCount b := by
  rw [← sum_counts (List.Perm.refl _)]
  have several := multi.1
  have each : ∀ objectIndex ∈ b.cityAttackCount.keys, 0 < count b objectIndex := fun _ there => multi.count_pos there
  revert several each
  cases b.cityAttackCount.keys with
  | nil => exact fun several => absurd several (by simp)
  | cons head rest =>
    intro _ each
    rw [List.map_cons,List.sum_cons]
    have first := each head List.mem_cons_self
    have more : 0 ≤ (rest.map (count b)).sum := List.sum_nonneg (fun n mem => by
      obtain ⟨other,there,rfl⟩ := List.mem_map.mp mem
      exact (each other (List.mem_cons_of_mem _ there)).le)
    omega

theorem share_nonneg (multi : Multi b) (there : objectIndex ∈ b.cityAttackCount.keys) (resource : Resource) :
    0 ≤ share b protect objectIndex resource := by
  refine portion_nonneg ?_ ?_ ?_
  · exact_mod_cast spare_nonneg b.plunderResource protect resource
  · exact_mod_cast (multi.count_pos there).le
  · exact_mod_cast multi.all_pos.le

end shares

section sharing
variable (b : Battle) (d : Defender) (attackers : List Nat)

variable {b d attackers}

theorem share_below (multi : Multi b) (order : attackers.Perm b.cityAttackCount.keys) (there : objectIndex ∈ attackers) (resource : Resource) :
    share b d.protect objectIndex resource ≤ (attackers.map (share b d.protect · resource)).sum := by
  have nonneg : ∀ n ∈ attackers.map (share b d.protect · resource), 0 ≤ n := fun n mem => by
    obtain ⟨other,inside,rfl⟩ := List.mem_map.mp mem
    exact share_nonneg multi (order.mem_iff.mp inside) resource
  exact List.single_le_sum nonneg _ (List.mem_map.mpr ⟨objectIndex,there,rfl⟩)

end sharing

section pair
-- Two armies of one and of two soldiers before a city with some food, and before one that protects some.
def pair (food : Int) : Battle := ⟨AList.insert 1 1 (AList.insert 2 2 ∅),amounts food 0 0 0,fun _ => 5000,0⟩

end pair
end OriginGame.CityPlunder
