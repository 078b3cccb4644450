import OriginGame.BuildingRoleMgr
import Mathlib.Algebra.BigOperators.Intervals
import Mathlib.Data.List.TakeWhile
import Mathlib.Algebra.Order.Ring.Int

namespace OriginGame.BuildingRoleMgr

section moment
variable (m : Moment)

def capacity (city : City) (building : Building) : Option Int :=
  (m.produce building.type building.level).map (fun config => gatherMax config (addRate city building.type))

-- What has accrued in a building.
def amount (city : City) (building : Building) : Int :=
  (m.produce building.type building.level).elim 0 (fun config => addNum m config (addRate city building.type) building.buildingGainInfo)

def accrued (city : City) (index : Nat) : Int :=
  (city.buildings.lookup index).elim 0 (fun building => if 0 < building.level then amount m city building else 0)

def kindAt (city : City) (index : Nat) : Option Resource := (city.buildings.lookup index).bind (fun building => building.type.resource)

def owed (city : City) (indexs : Finset Nat) (resource : Option Resource) : Int :=
  ∑ index ∈ indexs, if kindAt city index = resource then accrued m city index else 0

-- Whether awardResources raises at the index.
def lacks (city : City) (index : Nat) : Bool :=
  (city.buildings.lookup index).any (fun building => decide (0 < building.level) && (m.produce building.type building.level).isNone)

-- Half-way through awardResources.
structure Awarded (city : City) (taken : Finset Nat) (left : City) (totalNum : Int) : Prop where
  buildings : ∀ index, left.buildings.lookup index =
    (city.buildings.lookup index).map (fun building => if index ∈ taken ∧ 0 < building.level then emptied m building else building)
  stored : left.stored = city.stored
  capacityMulti : left.capacityMulti = city.capacityMulti
  totalNum : totalNum = ∑ index ∈ taken, accrued m city index

def lastType (city : City) (indexs : List Nat) : Option BuildingType :=
  indexs.getLast?.bind (fun index => (city.buildings.lookup index).map Building.type)

section steps
variable {m} {city left : City} {taken : Finset Nat} {totalNum : Int} {index : Nat} {building held : Building}

theorem lacks_iff : lacks m city index = true ↔
    ∃ building, city.buildings.lookup index = some building ∧ 0 < building.level ∧ m.produce building.type building.level = none := by
  simp only [lacks,Option.any_eq_true,Bool.and_eq_true,decide_eq_true_eq,Option.isNone_iff_eq_none]

theorem addNum_emptied (config : Produce) (addRate : Int) (building : Building) : addNum m config addRate (emptied m building).buildingGainInfo = 0 := by
  unfold addNum emptied
  dsimp only [Option.getD_some]
  rw [Int.sub_self,m.growth.still]
  split <;> omega

theorem Awarded.finds (awarded : Awarded m city taken left totalNum) (found : city.buildings.lookup index = some building) :
    ∃ held, left.buildings.lookup index = some held ∧ held.type = building.type ∧ held.level = building.level ∧
      held = if index ∈ taken ∧ 0 < building.level then emptied m building else building := by
  refine ⟨_,(awarded.buildings index).trans (congrArg _ found),?_,?_,rfl⟩
  · dsimp only
    split <;> rfl
  · dsimp only
    split <;> rfl

theorem Awarded.passed (awarded : Awarded m city taken left totalNum)
    (idle : ∀ building, city.buildings.lookup index = some building → building.level = 0) : Awarded m city (insert index taken) left totalNum := by
  refine ⟨fun j => ?_,awarded.stored,awarded.capacityMulti,?_⟩
  · rw [awarded.buildings]
    cases found : city.buildings.lookup j with
    | none => rfl
    | some building =>
      rw [Option.map_some,Option.map_some]
      by_cases same : j = index
      · subst same
        have level := idle building found
        rw [if_neg (by omega),if_neg (by omega)]
      · simp only [Finset.mem_insert,same,false_or]
  · have nothing : accrued m city index = 0 := by
      unfold accrued
      cases found : city.buildings.lookup index with
      | none => rfl
      | some building =>
        have level := idle building found
        exact if_neg (by omega)
    rw [awarded.totalNum]
    by_cases there : index ∈ taken
    · rw [Finset.insert_eq_of_mem there]
    · rw [Finset.sum_insert there,nothing,zero_add]

-- A second time there is nothing left to collect.
theorem Awarded.collected {config : Produce} (awarded : Awarded m city taken left totalNum)
    (found : city.buildings.lookup index = some building) (works : 0 < building.level) (produce : m.produce building.type building.level = some config)
    (now : left.buildings.lookup index = some held) :
    Awarded m city (insert index taken) {left with buildings:=left.buildings.insert index (emptied m held)}
      (totalNum+addNum m config (addRate left held.type) held.buildingGainInfo) := by
  obtain ⟨also,there,type,level,same⟩ := awarded.finds found
  cases now.symm.trans there
  have rate : addRate left held.type = addRate city building.type := by
    rw [addRate,addRate,awarded.capacityMulti,type]
  refine ⟨fun j => ?_,awarded.stored,awarded.capacityMulti,?_⟩
  · by_cases here : j = index
    · subst here
      rw [AList.lookup_insert,found,Option.map_some,if_pos ⟨Finset.mem_insert_self _ _,works⟩,same]
      split <;> rfl
    · rw [AList.lookup_insert_ne here,awarded.buildings]
      simp only [Finset.mem_insert,here,false_or]
  · rw [awarded.totalNum,rate,same]
    have due : accrued m city index = addNum m config (addRate city building.type) building.buildingGainInfo := by
      rw [accrued,found,Option.elim_some,if_pos works,amount,produce,Option.elim_some]
    by_cases before : index ∈ taken
    · rw [Finset.insert_eq_of_mem before,if_pos ⟨before,works⟩,addNum_emptied,add_zero]
    · rw [if_neg (fun both => before both.1),Finset.sum_insert before,due,add_comm]

theorem awardOn_ok (awarded : Awarded m city taken left totalNum) (configured : lacks m city index = false) (type : Option BuildingType) :
    ∃ next, awardOn m index ⟨left,totalNum,type⟩ = .ok next ∧ Awarded m city (insert index taken) next.city next.totalNum ∧
      next.type = (city.buildings.lookup index).map Building.type := by
  unfold awardOn
  cases found : city.buildings.lookup index with
  | none =>
    have missing : left.buildings.lookup index = none := (awarded.buildings index).trans (congrArg _ found)
    simp only [missing]
    exact ⟨_,rfl,awarded.passed (by rw [found]; exact nofun),rfl⟩
  | some building =>
    obtain ⟨held,now,type,level,_⟩ := awarded.finds found
    simp only [now]
    by_cases works : 0 < held.level
    · rw [if_pos works,type,level]
      rw [level] at works
      cases produce : m.produce building.type building.level with
      | none => exact absurd (lacks_iff.mpr ⟨building,found,works,produce⟩) (Bool.eq_false_iff.mp configured)
      | some config => exact ⟨_,rfl,type ▸ awarded.collected found works produce now,rfl⟩
    · rw [if_neg works]
      refine ⟨_,rfl,awarded.passed (fun other there => ?_),congrArg some type⟩
      rw [found] at there
      cases there
      omega

theorem awardOn_error (awarded : Awarded m city taken left totalNum) (raises : lacks m city index = true) (type : Option BuildingType) :
    awardOn m index ⟨left,totalNum,type⟩ = .error left := by
  obtain ⟨building,found,works,missing⟩ := lacks_iff.mp raises
  obtain ⟨held,now,same,level,_⟩ := awarded.finds found
  simp only [awardOn,now]
  rw [if_pos (level ▸ works),same,level,missing]

-- As far as no building lacks its config.
theorem awardLoop_ok {indexs : List Nat} (awarded : Awarded m city taken left totalNum) (configured : ∀ index ∈ indexs, lacks m city index = false)
    (rest : List Nat) (type : Option BuildingType) :
    ∃ s, awardLoop m (indexs++rest) ⟨left,totalNum,type⟩ = awardLoop m rest s ∧ Awarded m city (taken ∪ indexs.toFinset) s.city s.totalNum ∧
      s.type = if indexs = [] then type else lastType city indexs := by
  induction indexs generalizing taken left totalNum type with
  | nil => exact ⟨⟨left,totalNum,type⟩,rfl,by rwa [List.toFinset_nil,Finset.union_empty],rfl⟩
  | cons index more ih =>
    obtain ⟨next,step,after,kind⟩ := awardOn_ok awarded (configured index List.mem_cons_self) type
    obtain ⟨s,loop,last,final⟩ := ih after (fun other mem => configured other (List.mem_cons_of_mem _ mem)) next.type
    refine ⟨s,?_,?_,?_⟩
    · rw [List.cons_append,awardLoop,step]
      exact loop
    · rw [List.toFinset_cons,Finset.union_insert,← Finset.insert_union]
      exact last
    · rw [final,if_neg (List.cons_ne_nil _ _)]
      cases more with
      | nil => exact kind
      | cons => rfl

theorem award_begins (city : City) : Awarded m city ∅ city 0 := by
  refine ⟨fun index => ?_,rfl,rfl,Finset.sum_empty.symm⟩
  simp

theorem awardResources_ok {indexs : List Nat} (configured : ∀ index ∈ indexs, lacks m city index = false) :
    ∃ left total, Awarded m city indexs.toFinset left total ∧
      awardResources m indexs city = .ok (((lastType city indexs).bind BuildingType.resource).elim left (fun resource =>
        {left with stored:=Function.update left.stored resource (left.stored resource+total)})) := by
  obtain ⟨s,loop,awarded,type⟩ := awardLoop_ok (award_begins city) configured [] none
  rw [List.append_nil,awardLoop] at loop
  rw [Finset.empty_union] at awarded
  have last : s.type = lastType city indexs := by
    rw [type]
    cases indexs <;> rfl
  refine ⟨s.city,s.totalNum,awarded,?_⟩
  rw [awardResources,loop,← last]

theorem awardResources_error {indexs : List Nat} (configured : ∀ index ∈ indexs, lacks m city index = false) (raises : lacks m city index = true)
    (rest : List Nat) : ∃ left total, Awarded m city indexs.toFinset left total ∧ awardResources m (indexs++index::rest) city = .error left := by
  obtain ⟨⟨left,total,type⟩,loop,awarded,_⟩ := awardLoop_ok (award_begins city) configured (index::rest) none
  rw [Finset.empty_union] at awarded
  refine ⟨left,total,awarded,?_⟩
  rw [awardResources,loop,awardLoop,awardOn_error awarded raises]

end steps

-- Each kind gets what its listed buildings had, and those are empty; or nothing happens.
def Paid (city : City) (indexs : List Nat) : Prop :=
  match awardResources m indexs city with
  | .ok after => (∀ resource, after.stored resource = city.stored resource+owed m city indexs.toFinset (some resource)) ∧
      ∀ index, after.buildings.lookup index = (city.buildings.lookup index).map (fun building => if index ∈ indexs then emptied m building else building)
  | .error left => left.stored = city.stored ∧ ∀ index, left.buildings.lookup index = city.buildings.lookup index

-- Nothing has accrued in buildings of another kind than the last; before a building without config
-- there are only buildings emptied at this moment.
def Payable (city : City) (indexs : List Nat) : Prop :=
  match indexs.dropWhile (fun index => !lacks m city index) with
  | [] => let last := (lastType city indexs).bind BuildingType.resource
      (∀ resource, last ≠ some resource → owed m city indexs.toFinset (some resource) = 0) ∧ (last ≠ none → owed m city indexs.toFinset none = 0)
  | _::_ => ∀ index ∈ indexs.takeWhile (fun index => !lacks m city index), ∀ building,
      city.buildings.lookup index = some building → 0 < building.level → emptied m building = building

section payments
variable {m} {city : City} {indexs : List Nat}

theorem owed_split (city : City) (taken : Finset Nat) : ∑ index ∈ taken, accrued m city index =
    owed m city taken (some .food)+owed m city taken (some .wood)+owed m city taken (some .stone)+owed m city taken (some .gold)+
    owed m city taken none := by
  unfold owed
  rw [← Finset.sum_add_distrib,← Finset.sum_add_distrib,← Finset.sum_add_distrib,← Finset.sum_add_distrib]
  refine Finset.sum_congr rfl (fun index _ => ?_)
  rcases kindAt city index with _ | _ | _ | _ | _ <;> simp

-- Only one resource is owed.
theorem owed_one {taken : Finset Nat} {kind : Resource} (others : ∀ resource, some kind ≠ some resource → owed m city taken (some resource) = 0) :
    ∑ index ∈ taken, accrued m city index = owed m city taken (some kind)+owed m city taken none := by
  rw [owed_split]
  have food := others .food
  have wood := others .wood
  have stone := others .stone
  have gold := others .gold
  cases kind <;>
    simp only [ne_eq,Option.some.injEq,reduceCtorEq,not_false_eq_true,not_true_eq_false,true_implies,false_implies] at food wood stone gold <;>
    omega

theorem stored_iff {left : City} {total : Int} (stored : left.stored = city.stored) (sum : total = ∑ index ∈ indexs.toFinset, accrued m city index)
    (last : Option Resource) :
    (∀ resource, (last.elim left (fun resource => {left with stored:=Function.update left.stored resource (left.stored resource+total)})).stored resource =
      city.stored resource+owed m city indexs.toFinset (some resource)) ↔
    (∀ resource, last ≠ some resource → owed m city indexs.toFinset (some resource) = 0) ∧ (last ≠ none → owed m city indexs.toFinset none = 0) := by
  cases last with
  | none =>
    rw [Option.elim_none,stored]
    constructor
    · exact fun paid => ⟨fun resource _ => by have := paid resource; omega,fun same => absurd rfl same⟩
    · intro nothing resource
      have zero := nothing.1 resource nofun
      omega
  | some kind =>
    rw [Option.elim_some]
    dsimp only
    rw [stored]
    constructor
    · intro paid
      have others (resource : Resource) (other : some kind ≠ some resource) : owed m city indexs.toFinset (some resource) = 0 := by
        have same := paid resource
        rw [Function.update_of_ne (fun equal => other (congrArg some equal.symm))] at same
        omega
      refine ⟨others,fun _ => ?_⟩
      have own := paid kind
      rw [Function.update_self,sum,owed_one others] at own
      omega
    · rintro ⟨others,rest⟩ resource
      have none_ := rest nofun
      by_cases same : resource = kind
      · subst same
        rw [Function.update_self,sum,owed_one others,none_,add_zero]
      · rw [Function.update_of_ne same,others resource (fun equal => same (Option.some.inj equal).symm),add_zero]

theorem paid_iff (accepted : checkIndexs city (some indexs) = .ok indexs) : Paid m city indexs ↔ Payable m city indexs := by
  have levels (index : Nat) (mem : index ∈ indexs) (building : Building) (found : city.buildings.lookup index = some building) : 0 < building.level := by
    simp only [checkIndexs] at accepted
    split at accepted
    · cases accepted
    · rename_i none_
      refine Nat.pos_of_ne_zero (fun zero => none_ (List.any_eq_true.mpr ⟨index,mem,?_⟩))
      rw [found,Option.any_some,zero]
      rfl
  have configured : ∀ index ∈ indexs.takeWhile (fun index => !lacks m city index), lacks m city index = false :=
    fun index mem => by simpa using List.mem_takeWhile_imp mem
  have split := List.takeWhile_append_dropWhile (p:=fun index => !lacks m city index) (l:=indexs)
  unfold Payable
  cases drop : indexs.dropWhile (fun index => !lacks m city index) with
  | nil =>
    rw [drop,List.append_nil] at split
    rw [split] at configured
    obtain ⟨left,total,awarded,paid⟩ := awardResources_ok configured
    have emptied_all : ∀ index, left.buildings.lookup index =
        (city.buildings.lookup index).map (fun building => if index ∈ indexs then emptied m building else building) := by
      intro index
      rw [awarded.buildings]
      cases found : city.buildings.lookup index with
      | none => rfl
      | some building =>
        rw [Option.map_some,Option.map_some]
        by_cases mem : index ∈ indexs
        · rw [if_pos mem,if_pos ⟨List.mem_toFinset.mpr mem,levels index mem building found⟩]
        · rw [if_neg mem,if_neg (fun both => mem (List.mem_toFinset.mp both.1))]
    unfold Paid
    rw [paid]
    dsimp only
    rw [stored_iff awarded.stored awarded.totalNum,and_iff_left]
    intro index
    rw [← emptied_all]
    cases (lastType city indexs).bind BuildingType.resource with
    | none => rfl
    | some => rfl
  | cons index rest =>
    have raises : lacks m city index = true := by
      have head := List.head_dropWhile_not (fun index => !lacks m city index) (l:=indexs) (by rw [drop]; exact List.cons_ne_nil _ _)
      simp only [drop,List.head_cons] at head
      simpa using head
    rw [drop] at split
    obtain ⟨left,total,awarded,error⟩ := awardResources_error configured raises rest
    rw [split] at error
    unfold Paid
    rw [error]
    dsimp only
    rw [and_iff_right awarded.stored]
    constructor
    · intro same other mem building found works
      have after := awarded.buildings other
      rw [same,found,Option.map_some,if_pos ⟨List.mem_toFinset.mpr mem,works⟩] at after
      exact (Option.some.inj after).symm
    · intro fresh other
      rw [awarded.buildings]
      cases found : city.buildings.lookup other with
      | none => rfl
      | some building =>
        rw [Option.map_some]
        split
        · rename_i both
          rw [fresh other (List.mem_toFinset.mp both.1) building found both.2]
        · rfl

end payments

def gainAt (city : City) (index : Nat) (resource : Resource) : Int := if kindAt city index = some resource then accrued m city index else 0

def blocks (city : City) (index : Nat) : Bool := (kindAt city index).isSome && lacks m city index

-- PLUNDER and SCOUT agree; both have for each kind what awardResources pays for its buildings;
-- and nothing grows over a capacity.
structure Agreeing (city : City) : Prop where
  readers : ∀ order other onlyCache, (plunder m order onlyCache city).1 = scout m other city
  credited : ∀ order totals, scout m order city = some totals → ∀ resource indexs,
    (∀ index, index ∈ indexs ↔ kindAt city index = some resource) → ∃ after, awardResources m indexs city = .ok after ∧
      after.stored resource = city.stored resource+totals resource ∧ ∀ other, other ≠ resource → after.stored other = city.stored other
  capped : ∀ index building, city.buildings.lookup index = some building → ∀ limit ∈ capacity m city building,
    amount m city building ≤ max limit (building.buildingGainInfo.getD ⟨0,m.now⟩).num

section readers
variable {m} {city : City} {index : Nat} {building : Building}

theorem missing_gain (missing : city.buildings.lookup index = none) : blocks m city index = false ∧ ∀ resource, gainAt m city index resource = 0 := by
  have none_ : kindAt city index = none := by rw [kindAt,missing,Option.bind_none]
  refine ⟨?_,fun resource => ?_⟩
  · rw [blocks,none_]
    rfl
  · rw [gainAt,none_,if_neg nofun]

-- A building in the totals of either action.
theorem buildingGain_spec (found : city.buildings.lookup index = some building) :
    (buildingGain m city building = none ∧ blocks m city index = true) ∨
    (buildingGain m city building = some none ∧ blocks m city index = false ∧ ∀ resource, gainAt m city index resource = 0) ∨
    ∃ gain, buildingGain m city building = some (some gain) ∧ blocks m city index = false ∧
      ∀ totals resource, addTotal totals gain resource = totals resource+gainAt m city index resource := by
  have kind : kindAt city index = building.type.resource := by rw [kindAt,found,Option.bind_some]
  have lacking : lacks m city index = (decide (0 < building.level) && (m.produce building.type building.level).isNone) := by
    rw [lacks,found,Option.any_some]
  have due : accrued m city index = if 0 < building.level then amount m city building else 0 := by rw [accrued,found,Option.elim_some]
  simp only [buildingGain,blocks,gainAt,kind,lacking,due]
  cases building.type.resource with
  | none => exact .inr (.inl ⟨rfl,rfl,fun _ => if_neg nofun⟩)
  | some resource =>
    by_cases works : 0 < building.level
    · simp only [if_pos works,amount]
      cases m.produce building.type building.level with
      | none => exact .inl ⟨rfl,by simp [works]⟩
      | some config =>
        refine .inr (.inr ⟨_,rfl,by simp,fun totals other => ?_⟩)
        unfold addTotal
        by_cases same : other = resource
        · subst same
          rw [Function.update_self,if_pos rfl]
          rfl
        · rw [Function.update_of_ne same,if_neg (fun equal => same (Option.some.inj equal).symm),add_zero]
    · simp only [if_neg works]
      exact .inr (.inl ⟨trivial,by simp [works],fun _ => ite_self _⟩)

theorem scoutLoop_spec (indexs : List Nat) (totals : Resource → Int) : scoutLoop m city indexs totals =
    if indexs.any (blocks m city) then none else some (fun resource => totals resource+(indexs.map (fun index => gainAt m city index resource)).sum) := by
  induction indexs generalizing totals with
  | nil => simp [scoutLoop]
  | cons index rest ih =>
    unfold scoutLoop
    rw [List.any_cons]
    cases found : city.buildings.lookup index with
    | none =>
      obtain ⟨free,nothing⟩ := missing_gain (m:=m) found
      simp only [ih,free,Bool.false_or,List.map_cons,List.sum_cons,nothing,zero_add]
    | some building =>
      dsimp only
      rcases buildingGain_spec (m:=m) found with ⟨gain,free⟩ | ⟨gain,free,nothing⟩ | ⟨each,gain,free,adds⟩
      · simp only [gain,free,Bool.true_or,if_true]
      · simp only [gain,ih,free,Bool.false_or,List.map_cons,List.sum_cons,nothing,zero_add]
      · simp only [gain,ih,free,Bool.false_or,List.map_cons,List.sum_cons,adds,add_assoc]

theorem plunderLoop_totals (onlyCache : Bool) (indexs : List Nat) (totals : Resource → Int) (buildings : Table Nat Building) :
    (plunderLoop m onlyCache city indexs totals buildings).1 = scoutLoop m city indexs totals := by
  induction indexs generalizing totals buildings with
  | nil => rfl
  | cons index rest ih =>
    unfold plunderLoop scoutLoop
    cases city.buildings.lookup index with
    | none => exact ih _ _
    | some building =>
      dsimp only
      rcases buildingGain m city building with _ | _ | gain
      · rfl
      · exact ih _ _
      · exact ih _ _

theorem scout_spec (order : Order Nat) (city : City) : scout m order city =
    if city.buildings.keys.any (blocks m city) then none
    else some (fun resource => ∑ index ∈ city.buildings.keys.toFinset, gainAt m city index resource) := by
  rw [scout,scoutLoop_spec,(order.perm _).any_eq]
  congr 2
  funext resource
  rw [zero_add,List.sum_toFinset _ city.buildings.keys_nodup]
  exact ((order.perm _).map _).sum_eq

theorem gains_credited {order : Order Nat} {totals : Resource → Int} (seen : scout m order city = some totals) {resource : Resource} {indexs : List Nat}
    (every : ∀ index, index ∈ indexs ↔ kindAt city index = some resource) : ∃ after, awardResources m indexs city = .ok after ∧
      after.stored resource = city.stored resource+totals resource ∧ ∀ other, other ≠ resource → after.stored other = city.stored other := by
  rw [scout_spec] at seen
  split at seen
  · cases seen
  rename_i free
  cases seen
  have inside (index : Nat) (mem : index ∈ indexs) : index ∈ city.buildings.keys := by
    obtain ⟨building,found,_⟩ := Option.bind_eq_some_iff.mp ((every index).mp mem)
    exact AList.mem_keys.mp (Table.mem_of_lookup found)
  have configured (index : Nat) (mem : index ∈ indexs) : lacks m city index = false := by
    refine Bool.eq_false_iff.mpr (fun raises => free (List.any_eq_true.mpr ⟨index,inside index mem,?_⟩))
    rw [blocks,(every index).mp mem,raises]
    rfl
  obtain ⟨left,total,awarded,paid⟩ := awardResources_ok configured
  have sum : total = ∑ index ∈ city.buildings.keys.toFinset, gainAt m city index resource := by
    have part : ∑ index ∈ indexs.toFinset, gainAt m city index resource = ∑ index ∈ city.buildings.keys.toFinset, gainAt m city index resource :=
      Finset.sum_subset (fun index mem => List.mem_toFinset.mpr (inside index (List.mem_toFinset.mp mem)))
        (fun index _ out => if_neg (fun kind => out (List.mem_toFinset.mpr ((every index).mpr kind))))
    rw [awarded.totalNum,← part]
    refine Finset.sum_congr rfl (fun index mem => ?_)
    rw [gainAt,if_pos ((every index).mp (List.mem_toFinset.mp mem))]
  refine ⟨_,paid,?_⟩
  dsimp only
  rw [← sum]
  cases last : indexs.getLast? with
  | none =>
    have empty := List.getLast?_eq_none_iff.mp last
    subst empty
    have zero : total = 0 := awarded.totalNum
    rw [lastType,last,Option.bind_none,Option.bind_none,Option.elim_none,awarded.stored,zero]
    exact ⟨(add_zero _).symm,fun _ _ => rfl⟩
  | some index =>
    have kind := (every index).mp (List.mem_of_getLast? last)
    obtain ⟨building,found,type⟩ := Option.bind_eq_some_iff.mp kind
    rw [lastType,last,Option.bind_some,found,Option.map_some,Option.bind_some,type,Option.elim_some,awarded.stored]
    exact ⟨Function.update_self _ _ _,fun other apart => Function.update_of_ne apart _ _⟩

theorem addNum_capped (config : Produce) (addRate : Int) (info : Option GainInfo) :
    addNum m config addRate info ≤ max (gatherMax config addRate) (info.getD ⟨0,m.now⟩).num := by
  unfold addNum
  dsimp only
  split
  · exact (min_le_right _ _).trans (le_max_left _ _)
  · exact le_max_right _ _

theorem agreeing (city : City) : Agreeing m city where
  readers order other onlyCache := by
    have same := scout_spec (m:=m) order city
    rw [scout_spec other,← same]
    exact plunderLoop_totals onlyCache _ _ _
  credited _ _ seen _ _ every := gains_credited seen every
  capped index building _ limit mem := by
    obtain ⟨config,produce,rfl⟩ := Option.map_eq_some_iff.mp mem
    rw [amount,produce,Option.elim_some]
    exact addNum_capped _ _ _

-- A change of the bonus does not lift a building over its capacity either.
theorem changeBuildingGain_capped (resource : Resource) (num : Int) (found : city.buildings.lookup index = some building) :
    ∃ after, (changeBuildingGain m resource num city).buildings.lookup index = some after ∧ ∀ config, m.produce building.type building.level = some config →
      (after.buildingGainInfo.getD ⟨0,m.now⟩).num ≤ max (gatherMax config num) (building.buildingGainInfo.getD ⟨0,m.now⟩).num := by
  refine ⟨_,(Table.lookup_mapValues _ _ _).trans (congrArg _ found),fun config produce => ?_⟩
  dsimp only
  split
  · rw [produce,Option.elim_some]
    exact addNum_capped config num _
  · exact le_max_right _ _

end readers

theorem production_paid {city : City} {indexs : List Nat} (accepted : checkIndexs city (some indexs) = .ok indexs) :
    Paid m city indexs ∧ Agreeing m city ↔ Payable m city indexs := by
  rw [and_iff_left (agreeing city)]
  exact paid_iff accepted

section farms
-- A farm of index 1 with 100 food and a lumber mill of index 2 with 50 wood, neither growing.
def still : Moment := ⟨0,fun type _ => if type.resource.isSome then some ⟨1000,0⟩ else none,.exact⟩

def farms : City := ⟨(AList.insert 1 ⟨.farm,1,some ⟨100,0⟩⟩ (AList.insert 2 ⟨.wood,1,some ⟨50,0⟩⟩ ∅)),fun _ => 0,fun _ => none⟩

theorem farm_paid : checkIndexs farms (some [1,1]) = .ok [1,1] ∧ Paid still farms [1,1] ∧ Agreeing still farms := by
  have payable : Payable still farms [1,1] := by
    refine ⟨fun resource other => ?_,fun _ => by decide⟩
    cases resource with
    | food => exact absurd rfl other
    | wood => decide
    | stone => decide
    | gold => decide
  exact ⟨by decide,(production_paid still (by decide)).mpr payable⟩

theorem mill_gets_all : checkIndexs farms (some [1,2]) = .ok [1,2] ∧ ¬ (Paid still farms [1,2] ∧ Agreeing still farms) := by
  refine ⟨by decide,fun paid => ?_⟩
  have others : ∀ resource, (lastType farms [1,2]).bind BuildingType.resource ≠ some resource → owed still farms [1,2].toFinset (some resource) = 0 :=
    ((paid_iff (m:=still) (by decide)).mp paid.1).1
  exact absurd (others .food (by decide)) (by decide)

end farms
end moment
end OriginGame.BuildingRoleMgr
