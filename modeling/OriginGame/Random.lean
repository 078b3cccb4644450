import Mathlib.Algebra.Order.Ring.Rat
import Mathlib.Algebra.Order.BigOperators.Group.List
import Mathlib.Data.List.Nodup
import Mathlib.Data.List.Perm.Basic

namespace OriginGame.Random

-- A rate and the draw of a double in [0,1), as exact numbers.
structure Entry (ι : Type) where
  id : ι
  rate : ℚ
  deriving DecidableEq

variable {ι α : Type} {t after : List (Entry ι)} {draws : Nat → ℚ} {i j k n : Nat}

-- `t[i],t[n] = t[n],t[i]`
def exchange (t : List α) (i n : Nat) : List α :=
  match t[i]?,t[n]? with
  | some a,some b => (t.set i b).set n a
  | _,_ => t

-- Random.GetRange. The draws are those of math.random( i, size ), which raises on an empty interval.
def getRange (m n : Int) (k : Nat) (draws : Nat → Nat) : Option (List Int) :=
  let t := (List.range (n+1-m).toNat).map (fun i : Nat => m+i)
  if k ≤ t.length then some (((List.range k).foldl (fun t i => exchange t i (draws i)) t).take k) else none

-- `for j = i, #t`, from where the inner loop starts; the rates so far are in rate.
def findRate (x : ℚ) : ℚ → List (Entry ι) → Option Nat
  | _,[] => none
  | rate,e::rest => if rate+e.rate ≥ x then some 0 else (findRate x (rate+e.rate) rest).map (·+1)

structure Picking (ι : Type) where
  t : List (Entry ι)
  rateLeft : ℚ

-- One round of the outer loop; `t[nil]` raises.
def pickOne (draw : ℚ) (i : Nat) (state : Picking ι) : Option (Picking ι) := do
  let n ← findRate (draw*state.rateLeft) 0 (state.t.drop i)
  let t := exchange state.t i (i+n)
  let picked ← t[i]?
  some ⟨t,state.rateLeft-picked.rate⟩

-- The first k rounds.
def pick (draws : Nat → ℚ) (t : List (Entry ι)) : Nat → Option (Picking ι)
  | 0 => some ⟨t,t.foldl (fun rateLeft v => rateLeft+v.rate) 0⟩
  | k+1 => do
    let state ← pick draws t k
    pickOne (draws k) k state

-- Random.GetIds: the ids, and the list as it is left.
def getIds (t : List (Entry ι)) (k : Nat) (draws : Nat → ℚ) : Option (List ι × List (Entry ι)) :=
  if k ≤ t.length then (pick draws t k).map (fun last => ((last.t.take k).map Entry.id,last.t)) else none

section Exchange
variable {list : List α}

theorem exchange_eq (first : i < list.length) (second : n < list.length) :
    exchange list i n = (list.set i list[n]).set n list[i] := by
  unfold exchange
  rw [List.getElem?_eq_getElem first,List.getElem?_eq_getElem second]

theorem exchange_length (list : List α) (i n : Nat) : (exchange list i n).length = list.length := by
  unfold exchange
  split
  · rw [List.length_set,List.length_set]
  · rfl

theorem exchange_perm (first : i < list.length) (second : n < list.length) : (exchange list i n).Perm list := by
  rw [exchange_eq first second]
  exact List.set_set_perm first second

theorem exchange_first (first : i < list.length) (second : n < list.length) : (exchange list i n)[i]? = list[n]? := by
  rw [exchange_eq first second,List.getElem?_set,List.length_set,List.getElem?_set_self first,List.getElem?_eq_getElem second]
  split
  · rename_i same
    subst same
    rfl
  · rfl

theorem exchange_other (before : j < i) (later : i ≤ n) : (exchange list i n)[j]? = list[j]? := by
  unfold exchange
  split
  · rw [List.getElem?_set_ne (by omega),List.getElem?_set_ne (by omega)]
  · rfl

-- Nothing crosses a place before the two.
theorem exchange_drop (before : j ≤ i) (later : i ≤ n) (second : n < list.length) :
    ((exchange list i n).drop j).Perm (list.drop j) := by
  have first : i < list.length := by omega
  have inside : i-j < (list.drop j).length := by rw [List.length_drop]; omega
  have also : n-j < (list.drop j).length := by rw [List.length_drop]; omega
  have same := List.set_set_perm inside also
  simp only [List.getElem_drop,Nat.add_sub_cancel' before,Nat.add_sub_cancel' (before.trans later)] at same
  rw [exchange_eq first second,List.drop_set,if_neg (by omega),List.drop_set,if_neg (by omega)]
  exact same

end Exchange

section FindRate
variable {list : List (Entry ι)} {x rate : ℚ}

def total (list : List (Entry ι)) : ℚ := (list.map Entry.rate).sum

theorem total_perm {other : List (Entry ι)} (same : list.Perm other) : total list = total other := (same.map _).sum_eq

-- The rates reach what the draw is a part of.
theorem findRate_found (some : list ≠ []) (reached : x ≤ rate+total list) :
    ∃ n, findRate x rate list = .some n ∧ n < list.length := by
  induction list generalizing rate with
  | nil => exact absurd rfl some
  | cons e rest ih =>
    rw [findRate]
    split
    · exact ⟨0,rfl,Nat.zero_lt_succ _⟩
    · rename_i before
      have more : x ≤ rate+e.rate+total rest := by
        rw [add_assoc]
        exact reached
      have another : rest ≠ [] := by
        intro none
        rw [none] at more
        exact before (more.trans_eq (add_zero _))
      obtain ⟨n,found,inside⟩ := ih another more
      refine ⟨n+1,?_,Nat.succ_lt_succ inside⟩
      rw [found]
      rfl

-- What is found has reached x where the entries before it had not.
theorem findRate_positive (below : rate < x) (found : findRate x rate list = some n) :
    ∃ e, list[n]? = some e ∧ 0 < e.rate := by
  induction list generalizing rate n with
  | nil => cases found
  | cons e rest ih =>
    rw [findRate] at found
    split at found
    · rename_i reached
      cases found
      exact ⟨e,rfl,(lt_add_iff_pos_right rate).mp (lt_of_lt_of_le below reached)⟩
    · rename_i before
      obtain ⟨later,there,rfl⟩ := Option.map_eq_some_iff.mp found
      exact ih (not_le.mp before) there

-- A draw of zero falls on the first entry, whatever its rate.
theorem findRate_zero {e : Entry ι} (weight : 0 ≤ e.rate) (rest : List (Entry ι)) : findRate 0 0 (e::rest) = some 0 := by
  rw [findRate,if_pos]
  rw [zero_add]
  exact weight

end FindRate

section Pick
variable {state : Picking ι} {draw : ℚ}

-- The entry at place i has a rate, or no entry from there on has one.
def Weighs (i : Nat) (t : List (Entry ι)) : Prop := ∀ e, t[i]? = some e → e.rate = 0 → ∀ f ∈ t.drop i, f.rate = 0

-- After i rounds.
structure Stands (t : List (Entry ι)) (i : Nat) (state : Picking ι) : Prop where
  perm : state.t.Perm t
  left : state.rateLeft = total (state.t.drop i)

theorem weighs_exchange (before : j < i) (later : i ≤ n) (second : n < t.length) :
    Weighs j (exchange t i n) ↔ Weighs j t := by
  have same := exchange_drop (Nat.le_of_lt before) later second
  unfold Weighs
  rw [exchange_other before later]
  simp only [same.mem_iff]

theorem exchange_same (list : List α) (i : Nat) : exchange list i i = list := by
  unfold exchange
  split
  · rename_i a b first second
    rw [first] at second
    cases second
    obtain ⟨inside,rfl⟩ := List.getElem?_eq_some_iff.mp first
    rw [List.set_set,List.set_getElem_self]
  · rfl

theorem rates_zero (weights : ∀ e ∈ t, 0 ≤ e.rate) (none : total t = 0) : ∀ e ∈ t, e.rate = 0 := by
  induction t with
  | nil =>
    intro e mem
    cases mem
  | cons e rest ih =>
    obtain ⟨first,others⟩ := List.forall_mem_cons.mp weights
    have more : 0 ≤ total rest := List.sum_nonneg (fun r mem => by
      obtain ⟨f,inside,rfl⟩ := List.mem_map.mp mem
      exact others f inside)
    obtain ⟨zero,later⟩ := (add_eq_zero_iff_of_nonneg first more).mp none
    exact List.forall_mem_cons.mpr ⟨zero,ih others later⟩

-- One round always finds an entry, and finds one without a rate only at a draw of zero.
theorem pickOne_picks (stands : Stands t i state) (weights : ∀ e ∈ t, 0 ≤ e.rate) (inside : i < t.length)
    (unit : 0 ≤ draw ∧ draw < 1) :
    ∃ n next, pickOne draw i state = some next ∧ i ≤ n ∧ n < t.length ∧ next.t = exchange state.t i n ∧ Stands t (i+1) next ∧
      (Weighs i next.t ↔ (draw = 0 → Weighs i state.t)) := by
  have length := stands.perm.length_eq
  have each : ∀ e ∈ state.t.drop i, 0 ≤ e.rate := fun e mem => weights e (stands.perm.mem_iff.mp (List.mem_of_mem_drop mem))
  have sum : 0 ≤ total (state.t.drop i) := List.sum_nonneg (fun r mem => by
    obtain ⟨f,there,rfl⟩ := List.mem_map.mp mem
    exact each f there)
  have some : state.t.drop i ≠ [] := List.ne_nil_of_length_pos (by rw [List.length_drop]; omega)
  have reached : draw*state.rateLeft ≤ 0+total (state.t.drop i) := by
    rw [stands.left,zero_add]
    exact mul_le_of_le_one_left sum unit.2.le
  obtain ⟨n,found,below⟩ := findRate_found some reached
  rw [List.length_drop] at below
  have second : i+n < state.t.length := by omega
  have first : i < state.t.length := by omega
  have perm := exchange_perm first second
  have here : i < (exchange state.t i (i+n)).length := by rw [exchange_length]; exact first
  have picked := List.getElem?_eq_getElem here
  have one : pickOne draw i state =
      .some ⟨exchange state.t i (i+n),state.rateLeft-((exchange state.t i (i+n))[i]).rate⟩ := by
    simp only [pickOne,found,picked,Option.bind_eq_bind,Option.bind_some]
  refine ⟨i+n,_,one,Nat.le_add_right ..,by omega,rfl,⟨perm.trans stands.perm,?_⟩,?_⟩
  · have left := total_perm (exchange_drop (Nat.le_refl i) (Nat.le_add_right i n) second)
    rw [List.drop_eq_getElem_cons here] at left
    change _+total _ = _ at left
    dsimp only
    rw [stands.left,←left,add_sub_cancel_left]
  · dsimp only
    rcases unit.1.eq_or_lt with zero | positive
    · -- The first entry is found and stays where it is.
      subst zero
      rw [zero_mul,List.drop_eq_getElem_cons first,findRate_zero (each _ (by rw [List.drop_eq_getElem_cons first]; exact List.mem_cons_self ..))]
        at found
      cases found
      rw [Nat.add_zero,exchange_same]
      exact ⟨fun holds _ => holds,fun holds => holds rfl⟩
    · refine iff_of_true ?_ (fun zero => absurd zero positive.ne')
      rcases sum.eq_or_lt with none | more
      · intro e _ _ f mem
        apply rates_zero each none.symm
        exact (exchange_drop (Nat.le_refl i) (Nat.le_add_right i n) second).mem_iff.mp mem
      · have below : 0 < draw*state.rateLeft := by
          rw [stands.left]
          exact mul_pos positive more
        obtain ⟨e,there,rate⟩ := findRate_positive below found
        rw [List.getElem?_drop] at there
        intro f mine zero
        rw [exchange_first first second,there] at mine
        cases mine
        exact absurd zero rate.ne'

theorem foldl_total (rate : ℚ) (t : List (Entry ι)) : t.foldl (fun rateLeft v => rateLeft+v.rate) rate = rate+total t := by
  induction t generalizing rate with
  | nil => exact (add_zero rate).symm
  | cons e rest ih =>
    rw [List.foldl_cons,ih,add_assoc]
    rfl

theorem pick_picks (weights : ∀ e ∈ t, 0 ≤ e.rate) (few : k ≤ t.length) (unit : ∀ i, 0 ≤ draws i ∧ draws i < 1) :
    ∃ last, pick draws t k = some last ∧ Stands t k last ∧
      ∀ i < k, (Weighs i last.t ↔ (draws i = 0 → ∀ state, pick draws t i = some state → Weighs i state.t)) := by
  induction k with
  | zero =>
    refine ⟨_,rfl,⟨.refl _,?_⟩,?_⟩
    · dsimp only
      rw [foldl_total,zero_add]
      rfl
    · intro i below
      cases below
  | succ k ih =>
    obtain ⟨state,before,stands,each⟩ := ih (Nat.le_of_succ_le few)
    obtain ⟨n,next,one,later,inside,same,stood,mine⟩ := pickOne_picks stands weights few (unit k)
    refine ⟨next,?_,stood,?_⟩
    · rw [pick,before]
      exact one
    · intro i below
      rcases Nat.lt_succ_iff_lt_or_eq.mp below with earlier | rfl
      · rw [same,weighs_exchange earlier later (by rw [stands.perm.length_eq]; exact inside)]
        exact each i earlier
      · rw [mine,before]
        constructor
        · intro holds zero other there
          cases there
          exact holds zero
        · intro holds zero
          exact holds zero state rfl

end Pick

section GetIds

-- What is returned and what is left of the list.
structure Selection (t : List (Entry ι)) (k : Nat) (ids : List ι) (after : List (Entry ι)) : Prop where
  places : ∃ places : List Nat, places.Nodup ∧ places.length = k ∧ ids.map some = places.map (fun i => t[i]?.map Entry.id)
  perm : after.Perm t

theorem perm_places {list other : List α} (same : other.Perm list) :
    ∃ order : List Nat, order.Perm (List.range list.length) ∧ other.map some = order.map (fun i => list[i]?) := by
  have all : list.map some = (List.range list.length).map (fun i => list[i]?) := by
    apply List.ext_getElem?
    intro i
    rw [List.getElem?_map,List.getElem?_map]
    by_cases inside : i < list.length
    · rw [List.getElem?_range inside,List.getElem?_eq_getElem inside]
      exact congrArg some (List.getElem?_eq_getElem inside).symm
    · rw [List.getElem?_eq_none (not_lt.mp inside),List.getElem?_eq_none (by rw [List.length_range]; exact not_lt.mp inside)]
      rfl
  have moved : (other.map some).Perm ((List.range list.length).map (fun i => list[i]?)) := by
    rw [←all]
    exact same.map some
  have split := congrFun (congrFun (List.eq_map_comp_perm (fun i : Nat => list[i]?)) (other.map some)) (List.range list.length)
  obtain ⟨order,equal,perm⟩ := split.mpr moved
  exact ⟨order,perm,equal⟩

theorem perm_selection (same : after.Perm t) (few : k ≤ t.length) : Selection t k ((after.take k).map Entry.id) after := by
  refine ⟨?_,same⟩
  obtain ⟨order,perm,equal⟩ := perm_places same
  refine ⟨order.take k,(perm.nodup_iff.mpr List.nodup_range).sublist (List.take_sublist ..),?_,?_⟩
  · rw [List.length_take,perm.length_eq,List.length_range,Nat.min_eq_left few]
  · have taken := congrArg (fun list => (list.take k).map (Option.map Entry.id)) equal
    rw [←List.map_take,←List.map_take,List.map_map,List.map_map] at taken
    rw [List.map_map]
    exact taken

-- The places before a draw are the entries drawn, so Weighs i after is about the draw that returned place i.
theorem getIds_weighs (weights : ∀ e ∈ t, 0 ≤ e.rate) (few : k ≤ t.length) (unit : ∀ i, 0 ≤ draws i ∧ draws i < 1) :
    ∃ ids after, getIds t k draws = some (ids,after) ∧ Selection t k ids after ∧
      ((∀ i < k, Weighs i after) ↔ ∀ i < k, draws i = 0 → ∀ state, pick draws t i = some state → Weighs i state.t) := by
  obtain ⟨last,picked,stands,each⟩ := pick_picks weights few unit
  refine ⟨_,_,?_,perm_selection stands.perm few,forall₂_congr each⟩
  rw [getIds,if_pos few,picked]
  rfl

-- A draw of zero returns the first entry, though it has no rate.
theorem zero_drawn : getIds [⟨1,0⟩,⟨2,1⟩] 1 (fun _ => 0) = some ([1],[⟨1,0⟩,⟨2,1⟩]) ∧
    ¬ Weighs 0 [(⟨1,0⟩ : Entry Nat),⟨2,1⟩] := by
  refine ⟨by decide +kernel,?_⟩
  intro weighs
  have all := weighs ⟨1,0⟩ rfl rfl ⟨2,1⟩ (by simp)
  exact absurd all (by decide)

def goods : List (Entry Nat) := [⟨1,0⟩,⟨2,1⟩,⟨3,2⟩]

theorem goods_weigh : ∃ ids after, getIds goods 2 (fun _ => 1/2) = some (ids,after) ∧ Selection goods 2 ids after ∧
    ∀ i < 2, Weighs i after := by
  obtain ⟨ids,after,returned,selection,weighs⟩ := @getIds_weighs Nat goods (fun _ => 1/2) 2
    (by decide +kernel) (by decide) (fun _ => by decide +kernel)
  refine ⟨ids,after,returned,selection,weighs.mpr ?_⟩
  intro i _ zero
  exact absurd zero (by decide +kernel)

end GetIds

section GetRange

theorem exchanges_perm (list : List α) (k : Nat) (draws : Nat → Nat) (inside : ∀ i < k, i < list.length ∧ draws i < list.length) :
    ((List.range k).foldl (fun t i => exchange t i (draws i)) list).Perm list := by
  induction k with
  | zero => exact .refl _
  | succ k ih =>
    have earlier := ih (fun i below => inside i (Nat.lt_succ_of_lt below))
    obtain ⟨first,second⟩ := inside k (Nat.lt_succ_self k)
    rw [←earlier.length_eq] at first second
    rw [List.range_succ,List.foldl_append]
    exact (exchange_perm first second).trans earlier

-- k different numbers of the range.
theorem getRange_distinct {m n : Int} {draws : Nat → Nat} {result : List Int} (drawn : getRange m n k draws = some result)
    (inside : ∀ i < k, i ≤ draws i ∧ draws i < (n+1-m).toNat) :
    result.Nodup ∧ result.length = k ∧ ∀ x ∈ result, m ≤ x ∧ x ≤ n := by
  unfold getRange at drawn
  dsimp only at drawn
  split at drawn
  · rename_i few
    cases drawn
    rw [List.length_map,List.length_range] at few
    have perm := exchanges_perm ((List.range (n+1-m).toNat).map (fun i : Nat => m+i)) k draws (by
      intro i below
      have draw := inside i below
      rw [List.length_map,List.length_range]
      omega)
    refine ⟨?_,?_,?_⟩
    · have distinct : ((List.range (n+1-m).toNat).map (fun i : Nat => m+i)).Nodup :=
        List.Nodup.map (fun i j same => by omega) List.nodup_range
      exact (perm.nodup_iff.mpr distinct).sublist (List.take_sublist ..)
    · rw [List.length_take,perm.length_eq,List.length_map,List.length_range,Nat.min_eq_left few]
    · intro x mem
      obtain ⟨i,below,rfl⟩ := List.mem_map.mp (perm.mem_iff.mp (List.mem_of_mem_take mem))
      have small := List.mem_range.mp below
      omega
  · cases drawn

end GetRange
end OriginGame.Random
