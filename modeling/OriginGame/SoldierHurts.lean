import Mathlib.Algebra.BigOperators.Ring.List
import Mathlib.Algebra.Order.BigOperators.Group.List
import OriginGame.BattleLosses

namespace OriginGame.Battle
open BattleObject

-- The hurt assigned to the kinds of a list.
def assigned (kinds : List SoldierId) (hurts : Table SoldierId Int) : Int := (kinds.map (Table.amount hurts (·))).sum

-- Every kind of the object is hit within its count and no other kind is, and together they take the
-- hurt of the turn or all there are.
structure Assigns (o : BattleObject) (hurts : Table SoldierId Int) : Prop where
  within : ∀ id ∈ o.soldiers.keys, 0 ≤ Table.amount hurts (·) id ∧ Table.amount hurts (·) id ≤ o.num id
  others : ∀ id ∈ hurts, id ∈ o.soldiers.keys
  total : assigned o.soldiers.keys hurts = min o.turnHurt o.getArmySoldierCount

section sums
variable {kinds all : List SoldierId} {hurts : Table SoldierId Int} {id : SoldierId} {num value : SoldierId → Int} {left n : Int}

theorem assigned_insert (distinct : all.Nodup) (mem : id ∈ all) (n : Int) :
    assigned all (hurts.insert id n) = assigned all hurts+(n-Table.amount hurts (·) id) := by
  unfold assigned
  induction all with
  | nil => cases mem
  | cons kind rest ih =>
    obtain ⟨fresh,distinct⟩ := List.nodup_cons.mp distinct
    rw [List.map_cons,List.map_cons,List.sum_cons,List.sum_cons]
    by_cases same : kind = id
    · subst same
      have others : rest.map (Table.amount (hurts.insert kind n) (·)) = rest.map (Table.amount hurts (·)) :=
        List.map_congr_left (fun other listed => Table.amount_insert_ne hurts _ n (fun same => fresh (same ▸ listed)))
      rw [others,Table.amount_insert]
      omega
    · rw [Table.amount_insert_ne hurts _ n same,ih distinct ((List.mem_cons.mp mem).resolve_left (Ne.symm same))]
      omega

theorem assigned_empty (kinds : List SoldierId) : assigned kinds ∅ = 0 := by
  refine List.sum_eq_zero (fun n listed => ?_)
  obtain ⟨id,_,rfl⟩ := List.mem_map.mp listed
  exact Table.amount_none (AList.lookup_empty id) _

theorem insertAll_amount (distinct : kinds.Nodup) (value : SoldierId → Int) (mem : id ∈ kinds) :
    Table.amount (kinds.foldl (fun hurts id => hurts.insert id (value id)) hurts) (·) id = value id := by
  induction kinds generalizing hurts with
  | nil => cases mem
  | cons kind rest ih =>
    obtain ⟨fresh,distinct⟩ := List.nodup_cons.mp distinct
    rw [List.foldl_cons]
    rcases List.mem_cons.mp mem with rfl | later
    · have kept (others : List SoldierId) (away : id ∉ others) (table : Table SoldierId Int) :
          Table.amount (others.foldl (fun hurts id => hurts.insert id (value id)) table) (·) id = Table.amount table (·) id := by
        induction others generalizing table with
        | nil => rfl
        | cons other rest ih =>
          obtain ⟨apart,away⟩ := not_or.mp (fun either => away (List.mem_cons.mpr either))
          rw [List.foldl_cons,ih away,Table.amount_insert_ne table _ _ apart]
      rw [kept rest fresh,Table.amount_insert]
    · exact ih distinct later

theorem insertAll_mem (part : ∀ id ∈ kinds, id ∈ all) (inside : ∀ id ∈ hurts, id ∈ all) :
    ∀ id ∈ kinds.foldl (fun hurts id => hurts.insert id (value id)) hurts, id ∈ all := by
  induction kinds generalizing hurts with
  | nil => exact inside
  | cons kind rest ih =>
    refine ih (fun id listed => part id (List.mem_cons_of_mem _ listed)) (fun id there => ?_)
    rcases (AList.mem_insert _).mp there with rfl | old
    · exact part id List.mem_cons_self
    · exact inside id old

theorem Within.amount (within : Within num hurts) (count : 0 ≤ num id) : 0 ≤ Table.amount hurts (·) id ∧ Table.amount hurts (·) id ≤ num id := by
  cases found : hurts.lookup id with
  | none =>
    rw [Table.amount_none found]
    exact ⟨Int.le_refl 0,count⟩
  | some hurt =>
    rw [Table.amount_some found]
    exact within id hurt found

theorem insertAll_assigned (distinct : kinds.Nodup) (value : SoldierId → Int) :
    assigned kinds (kinds.foldl (fun hurts id => hurts.insert id (value id)) hurts) = (kinds.map value).sum :=
  congrArg List.sum (List.map_congr_left (fun _ listed => insertAll_amount distinct value listed))

end sums

section rest
variable {kinds all : List SoldierId} {hurts : Table SoldierId Int} {id : SoldierId} {num : SoldierId → Int} {left : Int}

-- What a pass gives is taken from what is left.
theorem giveRound_total (distinct : all.Nodup) (part : ∀ id ∈ kinds, id ∈ all) :
    assigned all (giveRound num kinds hurts left).1+(giveRound num kinds hurts left).2 = assigned all hurts+left := by
  induction kinds generalizing hurts left with
  | nil => rfl
  | cons id rest ih =>
    have later := fun kind listed => part kind (List.mem_cons_of_mem _ listed)
    have given := @assigned_insert all hurts id distinct (part id List.mem_cons_self) (Table.amount hurts (·) id+1)
    unfold giveRound
    split
    · dsimp only
      split
      · rw [given]
        omega
      · rw [ih later,given]
        omega
    · exact ih later

theorem giveRound_le (some_ : 0 < left) : (giveRound num kinds hurts left).2 ≤ left ∧ 0 ≤ (giveRound num kinds hurts left).2 := by
  induction kinds generalizing hurts left with
  | nil => exact ⟨Int.le_refl _,some_.le⟩
  | cons id rest ih =>
    unfold giveRound
    split
    · dsimp only
      split
      · exact ⟨by omega,by omega⟩
      · have tail := @ih (hurts.insert id (Table.amount hurts (·) id+1)) (left-1) (by omega)
        exact ⟨by omega,tail.2⟩
    · exact ih some_

-- A pass gives at least one point when some kind has room.
theorem giveRound_less (some_ : 0 < left) (mem : id ∈ kinds) (room : Table.amount hurts (·) id < num id) :
    (giveRound num kinds hurts left).2 ≤ left-1 := by
  induction kinds generalizing hurts left with
  | nil => cases mem
  | cons kind rest ih =>
    unfold giveRound
    split
    · dsimp only
      split
      · exact Int.le_refl _
      · exact (giveRound_le (by omega)).1
    · rename_i full
      refine ih some_ ((List.mem_cons.mp mem).resolve_left ?_) room
      rintro rfl
      exact full room

theorem giveRound_full (full : ∀ id ∈ kinds, num id ≤ Table.amount hurts (·) id) : giveRound num kinds hurts left = (hurts,left) := by
  induction kinds with
  | nil => rfl
  | cons kind rest ih =>
    unfold giveRound
    rw [if_neg (Int.not_lt.mpr (full kind List.mem_cons_self))]
    exact ih (fun id listed => full id (List.mem_cons_of_mem _ listed))

theorem giveRest_full (passes : Nat) (full : ∀ id ∈ kinds, num id ≤ Table.amount hurts (·) id) : giveRest num kinds passes hurts left = hurts := by
  induction passes with
  | zero => rfl
  | succ passes ih =>
    unfold giveRest
    split
    · rw [giveRound_full full]
      exact ih
    · rfl

-- As many passes as points are left give all of them, if there is room.
theorem giveRest_total (distinct : kinds.Nodup) (passes : Nat) (owed : 0 ≤ left) (enough : left ≤ passes)
    (room : assigned kinds hurts+left ≤ (kinds.map num).sum) :
    assigned kinds (giveRest num kinds passes hurts left) = assigned kinds hurts+left := by
  induction passes generalizing hurts left with
  | zero =>
    have none_ : left = 0 := by omega
    rw [none_,Int.add_zero]
    rfl
  | succ passes ih =>
    unfold giveRest
    split
    · rename_i some_
      have given := @giveRound_total kinds kinds hurts num left distinct (fun _ listed => listed)
      have bounds := @giveRound_le kinds hurts num left some_
      obtain ⟨id,mem,free⟩ : ∃ id ∈ kinds, Table.amount hurts (·) id < num id := by
        by_contra full
        have most : (kinds.map num).sum ≤ assigned kinds hurts :=
          List.sum_le_sum (fun id mem => Int.not_lt.mp (fun less => full ⟨id,mem,less⟩))
        omega
      have less := giveRound_less some_ mem free
      dsimp only
      rw [ih bounds.2 (by omega) (by omega)]
      exact given
    · have none_ : left = 0 := by omega
      rw [none_,Int.add_zero]

theorem giveRest_mem (part : ∀ id ∈ kinds, id ∈ all) (inside : ∀ id ∈ hurts, id ∈ all) (passes : Nat) :
    ∀ id ∈ giveRest num kinds passes hurts left, id ∈ all := by
  have round (list : List SoldierId) (part : ∀ id ∈ list, id ∈ all) (hurts : Table SoldierId Int) (inside : ∀ id ∈ hurts, id ∈ all) (left : Int) :
      ∀ id ∈ (giveRound num list hurts left).1, id ∈ all := by
    induction list generalizing hurts left with
    | nil => exact inside
    | cons kind rest ih =>
      have later := fun id listed => part id (List.mem_cons_of_mem _ listed)
      have grown : ∀ id ∈ hurts.insert kind (Table.amount hurts (·) kind+1), id ∈ all := by
        intro id there
        rcases (AList.mem_insert _).mp there with rfl | old
        · exact part id List.mem_cons_self
        · exact inside id old
      unfold giveRound
      split
      · dsimp only
        split
        · exact grown
        · exact ih later _ grown _
      · exact ih later _ inside _
  induction passes generalizing hurts left with
  | zero => exact inside
  | succ passes ih =>
    unfold giveRest
    split
    · exact ih (round kinds part hurts inside left)
    · exact inside

end rest

section kinds
variable {o : BattleObject} {share : Share} {order : Order SoldierId} {hurts : Table SoldierId Int} {id : SoldierId} {kinds : List SoldierId}

theorem lowestKind_some (level : SoldierId → Nat) (kinds : List SoldierId) (low : SoldierId) : ∃ id, lowestKind level kinds (some low) = some id := by
  induction kinds generalizing low with
  | nil => exact ⟨low,rfl⟩
  | cons kind rest ih => exact ih _

-- What the proportional part gives to a kind.
def proportion (share : Share) (o : BattleObject) (id : SoldierId) : Int :=
  min (o.num id) (share.floor o.turnHurt (o.num id) o.getArmySoldierCount)

def proportions (share : Share) (o : BattleObject) (kinds : List SoldierId) : Table SoldierId Int :=
  kinds.foldl (fun hurts id => hurts.insert id (proportion share o id)) ∅

theorem proportion_within (share : Share) (hit : 0 ≤ o.turnHurt) (count : 0 ≤ o.num id) (some_ : 0 < o.getArmySoldierCount) :
    0 ≤ proportion share o id ∧ proportion share o id ≤ o.num id := by
  have part := share.nonneg hit count some_
  unfold proportion
  omega

-- All proportional parts together miss the hurt by a point for each kind at most.
theorem proportion_sum (near : share.Near) (hit : 0 ≤ o.turnHurt) (present : ∀ id ∈ kinds, 0 ≤ o.num id) (some_ : 0 < o.getArmySoldierCount)
    (most : o.turnHurt ≤ o.getArmySoldierCount) :
    o.turnHurt*(kinds.map o.num).sum ≤ ((kinds.map (proportion share o)).sum+kinds.length)*o.getArmySoldierCount := by
  induction kinds with
  | nil => simp
  | cons id rest ih =>
    have tail := ih (fun other listed => present other (List.mem_cons_of_mem _ listed))
    have count := present id List.mem_cons_self
    have one : o.turnHurt*o.num id ≤ (proportion share o id+1)*o.getArmySoldierCount := by
      unfold proportion
      rcases le_total (o.num id) (share.floor o.turnHurt (o.num id) o.getArmySoldierCount) with all | part
      · rw [min_eq_left all]
        nlinarith
      · rw [min_eq_right part]
        exact near hit count some_
    simp only [List.map_cons,List.sum_cons,List.length_cons,Nat.cast_add,Nat.cast_one]
    nlinarith

theorem proportion_sum_le (share : Share) (present : ∀ id ∈ kinds, 0 ≤ o.num id) (some_ : 0 < o.getArmySoldierCount) :
    (kinds.map (proportion share o)).sum*o.getArmySoldierCount ≤ o.turnHurt*(kinds.map o.num).sum := by
  induction kinds with
  | nil => simp
  | cons id rest ih =>
    have tail := ih (fun other listed => present other (List.mem_cons_of_mem _ listed))
    have below : share.floor o.turnHurt (o.num id) o.getArmySoldierCount*o.getArmySoldierCount ≤ o.turnHurt*o.num id :=
      share.below (present id List.mem_cons_self) some_
    have one : proportion share o id*o.getArmySoldierCount ≤ o.turnHurt*o.num id :=
      (Int.mul_le_mul_of_nonneg_right (Int.min_le_right _ _) some_.le).trans below
    simp only [List.map_cons,List.sum_cons]
    nlinarith

-- More hurt than there are soldiers takes every one of them.
theorem proportion_all (near : share.Near) (count : 0 < o.num id) (some_ : 0 < o.getArmySoldierCount) (beyond : o.getArmySoldierCount < o.turnHurt) :
    proportion share o id = o.num id := by
  have bound : o.turnHurt*o.num id ≤ (share.floor o.turnHurt (o.num id) o.getArmySoldierCount+1)*o.getArmySoldierCount :=
    near (some_.trans beyond).le count.le some_
  have more : o.num id*o.getArmySoldierCount < (share.floor o.turnHurt (o.num id) o.getArmySoldierCount+1)*o.getArmySoldierCount := by nlinarith
  have less : o.num id < share.floor o.turnHurt (o.num id) o.getArmySoldierCount+1 := Int.lt_of_mul_lt_mul_right more some_.le
  exact min_eq_left (by omega)

theorem cacleSoldierHurt_several (share : Share) (order : Order SoldierId) (several : 2 ≤ o.soldiers.keys.length) :
    cacleSoldierHurt share order o =
      if 1 < o.turnHurt then
        if o.getArmySoldierCount ≤ 0 then some ∅ else
        let hurts := proportions share o (order.visit o.soldiers.keys)
        if assigned (order.visit o.soldiers.keys) hurts < o.turnHurt then
          some (giveRest o.num (order.visit o.soldiers.keys) 100 hurts (o.turnHurt-assigned (order.visit o.soldiers.keys) hurts))
        else some hurts
      else (lowestKind o.level (order.visit o.soldiers.keys) none).map (fun id => AList.insert id 1 ∅) := by
  have length := (order.perm o.soldiers.keys).length_eq
  unfold cacleSoldierHurt
  split
  · rename_i none_
    rw [none_,List.length_nil] at length
    omega
  · rename_i id only
    rw [only,List.length_singleton] at length
    omega
  · rfl

-- One kind takes it all.
theorem one_assigns (mem : id ∈ o.soldiers.keys) (hit : 1 ≤ o.turnHurt) (nonneg : ∀ id ∈ o.soldiers.keys, 0 ≤ o.num id) (room : o.turnHurt ≤ o.num id)
    (fits : o.turnHurt ≤ o.getArmySoldierCount) : Assigns o (AList.insert id o.turnHurt ∅) where
  within other listed := by
    have has := nonneg other listed
    by_cases same : other = id
    · subst same
      rw [Table.amount_insert]
      omega
    · rw [Table.amount_insert_ne _ _ _ same,Table.amount_none (AList.lookup_empty other)]
      omega
  others other there := by
    rcases (AList.mem_insert _).mp there with rfl | none_
    · exact mem
    · exact absurd none_ (AList.notMem_empty other)
  total := by
    rw [assigned_insert (AList.keys_nodup o.soldiers) mem,assigned_empty,Table.amount_none (AList.lookup_empty id)]
    omega

theorem several_assigns (near : share.Near) (order : Order SoldierId) (present : ∀ id ∈ o.soldiers.keys, 0 < o.num id) (hit : 1 ≤ o.turnHurt)
    (few : o.soldiers.keys.length ≤ 100) (several : 2 ≤ o.soldiers.keys.length) :
    ∃ hurts, cacleSoldierHurt share order o = some hurts ∧ Assigns o hurts := by
  have perm := order.perm o.soldiers.keys
  have distinct := order.nodup_visit (AList.keys_nodup o.soldiers)
  have kindsTotal (hurts : Table SoldierId Int) : assigned (order.visit o.soldiers.keys) hurts = assigned o.soldiers.keys hurts := order.sum_visit _
  have count : ((order.visit o.soldiers.keys).map o.num).sum = o.getArmySoldierCount := order.sum_visit _
  have visited (id : SoldierId) (listed : id ∈ order.visit o.soldiers.keys) : id ∈ o.soldiers.keys := order.mem_visit.mp listed
  have length : (order.visit o.soldiers.keys).length ≤ 100 := by rwa [perm.length_eq]
  have some_ : 0 < o.getArmySoldierCount := by
    obtain ⟨id,mem⟩ : ∃ id, id ∈ o.soldiers.keys := List.exists_mem_of_length_pos (by omega)
    have least := List.single_le_sum (l:=o.soldiers.keys.map o.num) (by
      intro n listed
      obtain ⟨other,there,rfl⟩ := List.mem_map.mp listed
      exact (present other there).le) _ (List.mem_map_of_mem mem)
    exact (present id mem).trans_le least
  rw [cacleSoldierHurt_several share order several]
  by_cases strong : 1 < o.turnHurt
  · rw [if_pos strong,if_neg (Int.not_le.mpr some_)]
    dsimp only
    have within : Within o.num (proportions share o (order.visit o.soldiers.keys)) :=
      insertAll_within _ _ (fun id hurt found => by rw [AList.lookup_empty] at found; cases found)
        (fun id listed => proportion_within share (by omega) (present id (visited id listed)).le some_)
    have inside : ∀ id ∈ proportions share o (order.visit o.soldiers.keys), id ∈ o.soldiers.keys :=
      insertAll_mem visited (fun id there => absurd there (AList.notMem_empty id))
    have amounts (id : SoldierId) (listed : id ∈ order.visit o.soldiers.keys) :
        Table.amount (proportions share o (order.visit o.soldiers.keys)) (·) id = proportion share o id := insertAll_amount distinct _ listed
    have sum : assigned (order.visit o.soldiers.keys) (proportions share o (order.visit o.soldiers.keys)) =
        ((order.visit o.soldiers.keys).map (proportion share o)).sum := insertAll_assigned distinct _
    generalize proportions share o (order.visit o.soldiers.keys) = first at within inside amounts sum ⊢
    by_cases most : o.turnHurt ≤ o.getArmySoldierCount
    · have near_ := proportion_sum near (by omega) (fun id listed => (present id (visited id listed)).le) some_ most
      have below := proportion_sum_le share (fun id listed => (present id (visited id listed)).le) some_
      rw [count,← sum] at near_ below
      have enough := Int.le_of_mul_le_mul_right near_ some_
      have fits := Int.le_of_mul_le_mul_right below some_
      split
      · refine ⟨_,rfl,fun id listed => (giveRest_within within).amount (present id listed).le,giveRest_mem visited inside 100,?_⟩
        rw [← kindsTotal,giveRest_total distinct 100 (by omega) (by omega) (by rw [count]; omega)]
        omega
      · refine ⟨_,rfl,fun id listed => within.amount (present id listed).le,inside,?_⟩
        rw [← kindsTotal]
        omega
    · have whole (id : SoldierId) (listed : id ∈ order.visit o.soldiers.keys) : Table.amount first (·) id = o.num id := by
        rw [amounts id listed]
        exact proportion_all near (present id (visited id listed)) some_ (Int.not_le.mp most)
      have all : assigned (order.visit o.soldiers.keys) first = o.getArmySoldierCount := by
        rw [← count]
        exact congrArg List.sum (List.map_congr_left whole)
      rw [if_pos (by omega),giveRest_full 100 (fun id listed => (whole id listed).ge)]
      refine ⟨_,rfl,fun id listed => within.amount (present id listed).le,inside,?_⟩
      rw [← kindsTotal]
      omega
  · rw [if_neg strong]
    have one : o.turnHurt = 1 := by omega
    obtain ⟨low,lowest⟩ : ∃ low, lowestKind o.level (order.visit o.soldiers.keys) none = some low := by
      cases visit : order.visit o.soldiers.keys with
      | nil =>
        have length := perm.length_eq
        rw [visit,List.length_nil] at length
        omega
      | cons kind rest => exact lowestKind_some o.level rest kind
    have mem : low ∈ o.soldiers.keys := by
      rcases lowestKind_mem lowest with listed | none_
      · exact visited low listed
      · cases none_
    have has := present low mem
    rw [lowest,←one]
    exact ⟨_,rfl,one_assigns mem hit (fun id listed => (present id listed).le) (by omega) (by omega)⟩

theorem single_assigns (order : Order SoldierId) (hit : 1 ≤ o.turnHurt) (only : o.soldiers.keys = [id]) :
    (∃ hurts, cacleSoldierHurt share order o = some hurts ∧ Assigns o hurts) ↔ o.turnHurt ≤ o.num id := by
  have visit : order.visit o.soldiers.keys = [id] := by
    have perm := order.perm o.soldiers.keys
    rw [only] at perm ⊢
    exact List.perm_singleton.mp perm
  have whole : cacleSoldierHurt share order o = some (AList.insert id o.turnHurt ∅) := by
    unfold cacleSoldierHurt
    rw [visit]
  have count : o.getArmySoldierCount = o.num id := by
    unfold getArmySoldierCount
    rw [only]
    exact Int.add_zero _
  rw [whole]
  constructor
  · rintro ⟨hurts,same,assigns⟩
    cases same
    have bound := (assigns.within id (by rw [only]; exact List.mem_singleton_self id)).2
    rwa [Table.amount_insert] at bound
  · intro room
    have mem : id ∈ o.soldiers.keys := by
      rw [only]
      exact List.mem_singleton_self id
    refine ⟨_,rfl,one_assigns mem hit (fun other listed => ?_) room (by omega)⟩
    rw [only,List.mem_singleton] at listed
    subst listed
    omega

end kinds

-- A single kind takes the whole hurt whatever its count; without a kind there is an error.
theorem cacleSoldierHurt_assigns {o : BattleObject} {share : Share} (near : share.Near) (order : Order SoldierId)
    (present : ∀ id ∈ o.soldiers.keys, 0 < o.num id) (hit : 1 ≤ o.turnHurt) (few : o.soldiers.keys.length ≤ 100) :
    (∃ hurts, cacleSoldierHurt share order o = some hurts ∧ Assigns o hurts) ↔
      2 ≤ o.soldiers.keys.length ∨ ∃ id, o.soldiers.keys = [id] ∧ o.turnHurt ≤ o.num id := by
  constructor
  · intro assigns
    match listed : o.soldiers.keys with
    | [] =>
      obtain ⟨hurts,found,_⟩ := assigns
      have none_ : order.visit o.soldiers.keys = [] := by
        have perm := order.perm o.soldiers.keys
        rw [listed] at perm ⊢
        exact List.perm_nil.mp perm
      unfold cacleSoldierHurt at found
      rw [none_] at found
      cases found
    | [id] => exact .inr ⟨id,rfl,(single_assigns order hit listed).mp assigns⟩
    | _::_::rest =>
      left
      simp only [List.length_cons]
      omega
  · rintro (several | ⟨id,only,room⟩)
    · exact several_assigns near order present hit few several
    · exact (single_assigns order hit only).mpr room

section lone

-- Three archers that are hit for five, and with two riders beside them.
def archers : BattleObject where
  objectIndex := 1
  objectType := .army
  isRally := false
  rallyLeader := 1
  exitBattleFlag := false
  attackTargetIndex := 2
  turnHurt := 5
  soldiers := AList.insert 1 (0,1) ∅
  soldierHurt := ∅
  soldierHurtWithObjectIndex := ∅
  rallySoldiers := ∅
  rallySoldierHurt := ∅
  cell := fun ref => ⟨ref.2,1,if ref.2 = 1 then 3 else 2⟩
  fresh := 1

def archersAndRiders : BattleObject := {archers with soldiers:=AList.insert 1 (0,1) (AList.insert 2 (0,2) ∅)}

theorem archers_overhit : ¬ ∃ hurts, cacleSoldierHurt Share.exact .stored archers = some hurts ∧ Assigns archers hurts := by
  rintro ⟨hurts,found,assigns⟩
  cases found
  exact absurd (assigns.within 1 (by decide)).2 (by decide)

theorem archersAndRiders_assigned : ((∀ id ∈ archersAndRiders.soldiers.keys, 0 < archersAndRiders.num id) ∧ 1 ≤ archersAndRiders.turnHurt) ∧
    ((∃ hurts, cacleSoldierHurt Share.exact .stored archersAndRiders = some hurts ∧ Assigns archersAndRiders hurts) ↔
      2 ≤ archersAndRiders.soldiers.keys.length ∨ ∃ id, archersAndRiders.soldiers.keys = [id] ∧ archersAndRiders.turnHurt ≤ archersAndRiders.num id) :=
  ⟨by decide,cacleSoldierHurt_assigns Share.exact_near .stored (by decide) (by decide) (by decide)⟩

end lone
end OriginGame.Battle
