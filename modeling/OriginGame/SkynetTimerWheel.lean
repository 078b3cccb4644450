import Mathlib.Data.List.Basic
import Mathlib.Data.Nat.Bitwise
import OriginGame.SkynetTimer

namespace OriginGame.SkynetTimer

-- The lists of the wheel.
inductive Place where
  | near (idx : Nat)
  | level (i idx : Nat)
deriving DecidableEq

def Timer.slot (T : Timer) : Place → List TimerNode
  | .near idx => T.near idx
  | .level i idx => T.t i idx

def link (T : Timer) (node : TimerNode) : Place → Timer
  | .near idx => linkNear T idx node
  | .level i idx => linkLevel T i idx node

-- How far above the lowest bits a tick differs from the one it is due at: 0 in the last 8, then in 6 more at a time.
def rank (now due : Nat) : Nat :=
  if due/2^8 = now/2^8 then 0 else if due/2^14 = now/2^14 then 1 else if due/2^20 = now/2^20 then 2
  else if due/2^26 = now/2^26 then 3 else 4

def place (now due : Nat) : Place := match rank now due with
  | 0 => .near (due%2^8)
  | i+1 => .level i (due/2^(8+i*6)%64)

-- The wheel that holds timeouts, each with the tick it is due at, in the order they were made in.
def nodeOf (timeout : Nat × TimerEvent) : TimerNode := ⟨timeout.1%2^32,timeout.2⟩

def wheel (now : Nat) (pending : List (Nat × TimerEvent)) : Timer :=
  ⟨fun idx => (pending.filter (fun timeout => place now timeout.1 = .near idx)).map nodeOf,
    fun i idx => (pending.filter (fun timeout => place now timeout.1 = .level i idx)).map nodeOf,now%2^32⟩

section slots
variable {T : Timer} {node : TimerNode}

theorem slot_ext {T other : Timer} (slots : ∀ p, T.slot p = other.slot p) (time : T.time = other.time) : T = other := by
  obtain ⟨near,t,_⟩ := T
  obtain ⟨near',t',_⟩ := other
  have nears : near = near' := funext (fun idx => slots (.near idx))
  have levels : t = t' := funext (fun i => funext (fun idx => slots (.level i idx)))
  subst nears levels time
  rfl

theorem wheel_slot (now : Nat) (pending : List (Nat × TimerEvent)) (p : Place) :
    (wheel now pending).slot p = (pending.filter (fun timeout => place now timeout.1 = p)).map nodeOf := by
  cases p <;> rfl

theorem link_slot (p q : Place) : (link T node p).slot q = T.slot q++(if p = q then [node] else []) := by
  cases p with
  | near idx =>
    cases q with
    | near other =>
      by_cases same : idx = other
      · subst same
        simp [link,linkNear,Timer.slot]
      · simp [link,linkNear,Timer.slot,same,Function.update_of_ne (Ne.symm same)]
    | level i other => simp [link,linkNear,Timer.slot]
  | level i idx =>
    cases q with
    | near other => simp [link,linkLevel,Timer.slot]
    | level i' other =>
      by_cases level : i = i'
      · subst level
        by_cases same : idx = other
        · subst same
          simp [link,linkLevel,Timer.slot]
        · simp [link,linkLevel,Timer.slot,same,Function.update_of_ne (Ne.symm same)]
      · simp [link,linkLevel,Timer.slot,level,Function.update_of_ne (Ne.symm level)]

theorem link_time (p : Place) : (link T node p).time = T.time := by
  cases p <;> rfl

theorem clearNear_slot (idx : Nat) (q : Place) : (clearNear T idx).slot q = if q = .near idx then [] else T.slot q := by
  cases q with
  | near other =>
    by_cases same : other = idx
    · subst same
      simp [clearNear,Timer.slot]
    · simp [clearNear,Timer.slot,same]
  | level i other => rfl

theorem clearLevel_slot (i idx : Nat) (q : Place) : (clearLevel T i idx).slot q = if q = .level i idx then [] else T.slot q := by
  cases q with
  | near other => rfl
  | level i' other =>
    by_cases level : i' = i
    · subst level
      by_cases same : other = idx
      · subst same
        simp [clearLevel,Timer.slot]
      · simp [clearLevel,Timer.slot,same]
    · simp [clearLevel,Timer.slot,level]

end slots

section bits

theorem or_mask (x y k : Nat) : x|||(2^k-1) = y|||(2^k-1) ↔ x/2^k = y/2^k := by
  constructor
  · intro same
    apply Nat.eq_of_testBit_eq
    intro i
    have bit := congrArg (fun n => Nat.testBit n (i+k)) same
    have above : decide (i+k < k) = false := decide_eq_false (by omega)
    simp only [Nat.testBit_or,Nat.testBit_two_pow_sub_one,above,Bool.or_false] at bit
    rwa [Nat.testBit_div_two_pow,Nat.testBit_div_two_pow]
  · intro same
    apply Nat.eq_of_testBit_eq
    intro i
    rw [Nat.testBit_or,Nat.testBit_or,Nat.testBit_two_pow_sub_one]
    by_cases low : i < k
    · simp [low]
    · have bit := congrArg (fun n => Nat.testBit n (i-k)) same
      simp only [Nat.testBit_div_two_pow,Nat.sub_add_cancel (Nat.le_of_not_lt low)] at bit
      rw [bit]

theorem and_mask (x k : Nat) : x&&&(2^k-1) = x%2^k := Nat.and_two_pow_sub_one_eq_mod x k

end bits

theorem level_idx (due : Nat) {i : Nat} (level : i ≤ 3) : (due%2^32)>>>(8+i*6)%2^6 = due/2^(8+i*6)%64 := by
  rw [Nat.shiftRight_eq_div_pow]
  obtain rfl | rfl | rfl | rfl : i = 0 ∨ i = 1 ∨ i = 2 ∨ i = 3 := by omega
  all_goals
    simp only [Nat.reduceMul,Nat.reduceAdd,Nat.reducePow]
    omega

theorem addLevel_three (time current_time : Nat) : addLevel time current_time 3 0 (256<<<6) =
    if time|||(2^14-1) = current_time|||(2^14-1) then 0 else if time|||(2^20-1) = current_time|||(2^20-1) then 1
    else if time|||(2^26-1) = current_time|||(2^26-1) then 2 else 3 := rfl

-- The list `add_node` links a node to is the one of the tick it is due at, whether that is behind a turn of the 32 bits or not.
theorem addNode_place {T : Timer} {now due : Nat} (event : TimerEvent) (time : T.time = now%2^32) (low : now ≤ due) (high : due < now+2^31) :
    addNode T (nodeOf (due,event)) = link T (nodeOf (due,event)) (place now due) := by
  have or8 : due%2^32|||255 = now%2^32|||255 ↔ due/2^8 = now/2^8 := (or_mask _ _ 8).trans (by omega)
  have or14 : due%2^32|||(2^14-1) = now%2^32|||(2^14-1) ↔ due/2^14 = now/2^14 := (or_mask _ _ 14).trans (by omega)
  have or20 : due%2^32|||(2^20-1) = now%2^32|||(2^20-1) ↔ due/2^20 = now/2^20 := (or_mask _ _ 20).trans (by omega)
  have or26 : due%2^32|||(2^26-1) = now%2^32|||(2^26-1) ↔ due/2^26 = now/2^26 := (or_mask _ _ 26).trans (by omega)
  have low8 : due%2^32&&&255 = due%2^8 := (and_mask _ 8).trans (by omega)
  have low6 : ∀ x, x&&&63 = x%2^6 := fun x => and_mask x 6
  unfold addNode place rank
  simp only [nodeOf,time,or8,addLevel_three,or14,or20,or26,low8,low6]
  by_cases same8 : due/2^8 = now/2^8
  · simp only [same8,if_true,link]
  · have idx := fun i => level_idx due (i:=i)
    by_cases same14 : due/2^14 = now/2^14
    · simp only [same8,same14,if_true,if_false,link,idx 0 (by decide)]
    · by_cases same20 : due/2^20 = now/2^20
      · simp only [same8,same14,same20,if_true,if_false,link,idx 1 (by decide)]
      · by_cases same26 : due/2^26 = now/2^26
        · simp only [same8,same14,same20,same26,if_true,if_false,link,idx 2 (by decide)]
        · simp only [same8,same14,same20,same26,if_false,link,idx 3 (by decide)]

theorem single_slot (now : Nat) (timeout : Nat × TimerEvent) (p : Place) : (if place now timeout.1 = p then [nodeOf timeout] else []) =
    ([timeout].filter (fun timeout => place now timeout.1 = p)).map nodeOf := by
  by_cases here : place now timeout.1 = p
  · simp [here]
  · simp [here]

-- A list that is linked node by node goes to its places, in its order.
theorem addNodes_slot {T : Timer} {now : Nat} (timeouts : List (Nat × TimerEvent)) (time : T.time = now%2^32)
    (bounds : ∀ timeout ∈ timeouts, now ≤ timeout.1 ∧ timeout.1 < now+2^31) :
    ((timeouts.map nodeOf).foldl addNode T).time = now%2^32 ∧ ∀ p, ((timeouts.map nodeOf).foldl addNode T).slot p =
      T.slot p++(timeouts.filter (fun timeout => place now timeout.1 = p)).map nodeOf := by
  induction timeouts generalizing T with
  | nil => exact ⟨time,fun p => (List.append_nil _).symm⟩
  | cons timeout rest ih =>
    have each := List.forall_mem_cons.mp bounds
    have linked := addNode_place timeout.2 time each.1.1 each.1.2
    rw [List.map_cons,List.foldl_cons,linked]
    obtain ⟨same,slots⟩ := ih ((link_time _).trans time) each.2
    refine ⟨same,fun p => ?_⟩
    rw [slots,link_slot,List.append_assoc,single_slot,← List.map_append,← List.filter_append,List.singleton_append]

-- `timer_add` puts a timeout behind those there are.
theorem timerAdd_wheel {now : Nat} {pending : List (Nat × TimerEvent)} (event : TimerEvent) (time : Int32) (positive : 0 < time.toInt) :
    timerAdd (wheel now pending) event time = wheel now (pending++[(now+time.toInt.toNat,event)]) := by
  have high : time.toInt < 2^31 := time.toInt_lt
  have expire : ((time.toInt+((now%2^32 : Nat) : Int))%2^32).toNat = (now+time.toInt.toNat)%2^32 := by omega
  have linked : addNode (wheel now pending) (nodeOf (now+time.toInt.toNat,event)) =
      link (wheel now pending) (nodeOf (now+time.toInt.toNat,event)) (place now (now+time.toInt.toNat)) :=
    addNode_place event rfl (by omega) (by omega)
  have added : timerAdd (wheel now pending) event time = addNode (wheel now pending) (nodeOf (now+time.toInt.toNat,event)) := by
    unfold timerAdd nodeOf
    rw [← expire]
    rfl
  rw [added,linked]
  refine slot_ext (fun p => ?_) (link_time _)
  have single := single_slot now (now+time.toInt.toNat,event) p
  dsimp only at single
  rw [link_slot,wheel_slot,wheel_slot,List.filter_append,List.map_append,single]

-- When of those that satisfy one of two conditions none satisfies the other, the two sublists behind each other are one.
theorem filter_either {l : List α} {f g h : α → Bool} (either : ∀ x ∈ l, h x = true ↔ (f x = true ∨ g x = true))
    (apart : (∀ x ∈ l, f x = false) ∨ ∀ x ∈ l, g x = false) : l.filter f++l.filter g = l.filter h := by
  rcases apart with none_left | none_right
  · rw [List.filter_eq_nil_iff.mpr (fun x inside => by rw [none_left x inside]; exact Bool.false_ne_true),List.nil_append]
    refine List.filter_congr (fun x inside => Bool.eq_iff_iff.mpr ?_)
    rw [either x inside,none_left x inside]
    exact ⟨.inr,fun one => one.resolve_left Bool.false_ne_true⟩
  · have empty : l.filter g = [] := List.filter_eq_nil_iff.mpr (fun x inside => by rw [none_right x inside]; exact Bool.false_ne_true)
    rw [empty,List.append_nil]
    refine List.filter_congr (fun x inside => Bool.eq_iff_iff.mpr ?_)
    rw [either x inside,none_right x inside]
    exact ⟨.inl,fun one => one.resolve_right Bool.false_ne_true⟩

-- The level whose list a tick moves is the last where all bits below are 0.
structure Moves (after i : Nat) : Prop where
  level : i ≤ 3
  carry : after%2^(8+i*6) = 0
  idx : i < 3 → after/2^(8+i*6)%64 ≠ 0

theorem rank_le {now due i : Nat} (level : i ≤ 3) (order : now ≤ due) : rank now due ≤ i ↔ due/2^(8+i*6) = now/2^(8+i*6) := by
  unfold rank
  obtain rfl | rfl | rfl | rfl : i = 0 ∨ i = 1 ∨ i = 2 ∨ i = 3 := by omega
  all_goals
    simp only [Nat.reduceMul,Nat.reduceAdd,Nat.reducePow]
    split_ifs <;> omega

theorem place_level {now due i idx : Nat} : place now due = .level i idx ↔ rank now due = i+1 ∧ due/2^(8+i*6)%64 = idx := by
  unfold place
  split
  · simp_all
  · rename_i level
    rw [level,Place.level.injEq,Nat.succ_eq_add_one,Nat.add_right_cancel_iff]
    constructor
    · rintro ⟨rfl,rfl⟩
      exact ⟨rfl,rfl⟩
    · rintro ⟨rfl,rfl⟩
      exact ⟨rfl,rfl⟩

theorem place_rank {now now' due due' : Nat} (same : place now due = place now' due') : rank now due = rank now' due' := by
  unfold place at same
  split at same <;> split at same <;> simp_all

theorem rank_bound (now due : Nat) : rank now due ≤ 4 := by
  unfold rank
  split_ifs <;> omega

-- What is due in the part of the level that begins with the tick is in the list that it moves.
theorem Moves.moved {now due i : Nat} (moves : Moves (now+1) i) (low : now < due) (high : due < now+2^31) :
    place now due = .level i ((now+1)/2^(8+i*6)%64) ↔ rank (now+1) due ≤ i := by
  obtain ⟨level,carry,idx⟩ := moves
  have exactly : rank now due = i+1 ↔ rank now due ≤ i+1 ∧ ¬rank now due ≤ i := by omega
  rw [place_level,exactly,rank_le level low.le,rank_le level low]
  have bound := rank_bound now due
  rcases Nat.lt_or_ge i 3 with inner | outer
  · rw [rank_le (show i+1 ≤ 3 by omega) low.le]
    have nonzero := idx inner
    clear idx exactly bound
    obtain rfl | rfl | rfl : i = 0 ∨ i = 1 ∨ i = 2 := by omega
    all_goals
      simp only [Nat.reduceMul,Nat.reduceAdd,Nat.reducePow] at *
      omega
  · obtain rfl : i = 3 := by omega
    simp only [Nat.reduceMul,Nat.reduceAdd,Nat.reducePow] at *
    omega

theorem rank_congr {now now' due : Nat} (same : ∀ j ≤ 3, rank now' due ≤ j ↔ rank now due ≤ j) : rank now' due = rank now due := by
  have bound := rank_bound now due
  have bound' := rank_bound now' due
  have level0 := same 0 (by decide)
  have level1 := same 1 (by decide)
  have level2 := same 2 (by decide)
  have level3 := same 3 (by decide)
  omega

-- A tick brings nothing further away.
theorem rank_tick {now due j : Nat} (level : j ≤ 3) (low : now < due) (near : rank now due ≤ j) : rank (now+1) due ≤ j := by
  rw [rank_le level low]
  rw [rank_le level low.le] at near
  apply Nat.le_antisymm
  · exact near.le.trans (Nat.div_le_div_right (Nat.le_succ now))
  · exact Nat.div_le_div_right low

theorem Moves.stays {now due i : Nat} (moves : Moves (now+1) i) (low : now < due) (above : ¬rank (now+1) due ≤ i) :
    rank (now+1) due = rank now due := by
  refine rank_congr (fun j level => ⟨fun near => ?_,rank_tick level low⟩)
  obtain ⟨inner,carry,idx⟩ := moves
  have nonzero := idx (by omega)
  rw [rank_le level low] at near
  rw [rank_le level low.le,near]
  have higher : i < j := by
    by_contra lower
    exact above (le_trans ((rank_le level low).mpr near) (Nat.le_of_not_lt lower))
  clear above idx near low
  obtain ⟨rfl,rfl⟩ | ⟨rfl,rfl⟩ | ⟨rfl,rfl⟩ | ⟨rfl,rfl⟩ | ⟨rfl,rfl⟩ | ⟨rfl,rfl⟩ :
      (i = 0 ∧ j = 1) ∨ (i = 0 ∧ j = 2) ∨ (i = 0 ∧ j = 3) ∨ (i = 1 ∧ j = 2) ∨ (i = 1 ∧ j = 3) ∨ (i = 2 ∧ j = 3) := by omega
  all_goals
    simp only [Nat.reduceMul,Nat.reduceAdd,Nat.reducePow] at *
    omega

-- Within 256 ticks nothing has to be moved.
theorem rank_same {now due : Nat} (within : (now+1)%2^8 ≠ 0) (low : now < due) : rank (now+1) due = rank now due := by
  refine rank_congr (fun j level => ⟨fun near => ?_,rank_tick level low⟩)
  rw [rank_le level low] at near
  rw [rank_le level low.le,near]
  clear near low
  obtain rfl | rfl | rfl | rfl : j = 0 ∨ j = 1 ∨ j = 2 ∨ j = 3 := by omega
  all_goals
    simp only [Nat.reduceMul,Nat.reduceAdd,Nat.reducePow] at *
    omega

theorem place_congr {now now' due : Nat} (same : rank now' due = rank now due) : place now' due = place now due := by
  unfold place
  rw [same]

section shift
variable {now i : Nat} {pending : List (Nat × TimerEvent)} (bounds : ∀ timeout ∈ pending, now < timeout.1 ∧ timeout.1 < now+2^31)
include bounds

-- A tick that moves a list: what was in it goes to lists below, that are empty, and the others keep what they have.
theorem moveList_wheel (moves : Moves (now+1) i) (idx : Nat) (its : idx = (now+1)/2^(8+i*6)%64) :
    moveList {wheel now pending with time:=(now+1)%2^32} i idx = wheel (now+1) pending := by
  subst its
  have listed : (wheel now pending).t i ((now+1)/2^(8+i*6)%64) =
      (pending.filter (fun timeout => place now timeout.1 = .level i ((now+1)/2^(8+i*6)%64))).map nodeOf := rfl
  have inside : ∀ timeout ∈ pending.filter (fun timeout => place now timeout.1 = .level i ((now+1)/2^(8+i*6)%64)),
      now+1 ≤ timeout.1 ∧ timeout.1 < now+1+2^31 := by
    intro timeout there
    have bound := bounds timeout (List.mem_of_mem_filter there)
    omega
  obtain ⟨time,slots⟩ := addNodes_slot (T:=clearLevel {wheel now pending with time:=(now+1)%2^32} i ((now+1)/2^(8+i*6)%64)) _ rfl inside
  refine slot_ext (fun p => ?_) time
  have sorted : ∀ timeout ∈ pending, (place now timeout.1 = .level i ((now+1)/2^(8+i*6)%64) ↔ rank (now+1) timeout.1 ≤ i) :=
    fun timeout there => moves.moved (bounds timeout there).1 (bounds timeout there).2
  have kept : ∀ timeout ∈ pending, ¬rank (now+1) timeout.1 ≤ i → place (now+1) timeout.1 = place now timeout.1 :=
    fun timeout there above => place_congr (moves.stays (bounds timeout there).1 above)
  have before : (clearLevel {wheel now pending with time:=(now+1)%2^32} i ((now+1)/2^(8+i*6)%64)).slot p =
      (pending.filter (fun timeout => p ≠ .level i ((now+1)/2^(8+i*6)%64) ∧ place now timeout.1 = p)).map nodeOf := by
    rw [clearLevel_slot]
    split
    next here => simp [here]
    next apart =>
      have same : ({wheel now pending with time:=(now+1)%2^32} : Timer).slot p = (wheel now pending).slot p := by
        cases p <;> rfl
      rw [same,wheel_slot]
      simp [apart]
  unfold moveList
  dsimp only
  rw [listed,slots,before,List.filter_filter,wheel_slot,← List.map_append]
  refine congrArg (List.map nodeOf) (filter_either ?_ ?_)
  · intro timeout there
    simp only [Bool.and_eq_true,decide_eq_true_eq]
    by_cases moved : rank (now+1) timeout.1 ≤ i
    · have listed := (sorted timeout there).mpr moved
      rw [listed]
      constructor
      · exact fun same => .inr ⟨same,rfl⟩
      · rintro (⟨apart,same⟩ | both)
        · exact absurd same.symm apart
        · exact both.1
    · have away : place now timeout.1 ≠ .level i ((now+1)/2^(8+i*6)%64) := fun listed => moved ((sorted timeout there).mp listed)
      rw [kept timeout there moved]
      constructor
      · rintro rfl
        exact .inl ⟨away,rfl⟩
      · rintro (both | both)
        · exact both.2
        · exact both.1
  · by_cases some_moved : ∃ timeout ∈ pending, place now timeout.1 = .level i ((now+1)/2^(8+i*6)%64) ∧ place (now+1) timeout.1 = p
    · obtain ⟨moved,there,listed,goes⟩ := some_moved
      left
      intro timeout other
      refine decide_eq_false (fun both => ?_)
      have away : ¬rank (now+1) timeout.1 ≤ i := by
        rw [← sorted timeout other,both.2]
        exact both.1
      have stays := kept timeout other away
      have ranks := place_rank (goes.trans (both.2.symm.trans stays.symm))
      exact away (ranks ▸ (sorted moved there).mp listed)
    · right
      intro timeout other
      simp only [Bool.and_eq_false_imp,decide_eq_true_eq,decide_eq_false_iff_not]
      exact fun goes listed => some_moved ⟨timeout,other,listed,goes⟩

-- A tick that moves none.
theorem wheel_tick (within : (now+1)%2^8 ≠ 0) : {wheel now pending with time:=(now+1)%2^32} = wheel (now+1) pending := by
  refine slot_ext (fun p => ?_) rfl
  have same : ({wheel now pending with time:=(now+1)%2^32} : Timer).slot p = (wheel now pending).slot p := by
    cases p <;> rfl
  rw [same,wheel_slot,wheel_slot]
  refine congrArg (List.map nodeOf) (List.filter_congr (fun timeout there => ?_))
  rw [place_congr (rank_same within (bounds timeout there).1)]

omit bounds in
theorem shiftLoop_four (T : Timer) (ct : Nat) : shiftLoop T ct 4 256 (ct>>>8) 0 =
    if ct%2^8 = 0 then if ct/2^8%64 ≠ 0 then some (moveList T 0 (ct/2^8%64)) else
    if ct%2^14 = 0 then if ct/2^14%64 ≠ 0 then some (moveList T 1 (ct/2^14%64)) else
    if ct%2^20 = 0 then if ct/2^20%64 ≠ 0 then some (moveList T 2 (ct/2^20%64)) else
    if ct%2^26 = 0 then if ct/2^26%64 ≠ 0 then some (moveList T 3 (ct/2^26%64)) else none
    else some T else some T else some T else some T := by
  have masks : ∀ k, ct&&&(2^k-1) = ct%2^k := and_mask ct
  have idx : ∀ x, x&&&63 = x%64 := fun x => and_mask x 6
  have shifted : ∀ k, (ct/2^k)>>>6 = ct/2^(k+6) := by
    intro k
    rw [Nat.shiftRight_eq_div_pow,Nat.div_div_eq_div_mul,← Nat.pow_add]
  have masks8 : ct&&&255 = ct%2^8 := masks 8
  have masks14 : ct&&&16383 = ct%2^14 := masks 14
  have masks20 : ct&&&1048575 = ct%2^20 := masks 20
  have masks26 : ct&&&67108863 = ct%2^26 := masks 26
  rw [Nat.shiftRight_eq_div_pow]
  simp only [shiftLoop,Nat.reduceShiftLeft,Nat.reduceSub,masks8,masks14,masks20,masks26,idx,shifted,Nat.reduceAdd]

theorem timerShift_wheel : timerShift (wheel now pending) = some (wheel (now+1) pending) := by
  have time : ((wheel now pending).time+1)%2^32 = (now+1)%2^32 := by
    change (now%2^32+1)%2^32 = (now+1)%2^32
    omega
  have low : ∀ k ≤ 32, (now+1)%2^32%2^k = (now+1)%2^k := fun k le => Nat.mod_mod_of_dvd _ (Nat.pow_dvd_pow 2 le)
  have idx : ∀ i ≤ 3, (now+1)%2^32/2^(8+i*6)%64 = (now+1)/2^(8+i*6)%64 := by
    intro i level
    have masked := level_idx (now+1) level
    rwa [Nat.shiftRight_eq_div_pow] at masked
  unfold timerShift
  simp only [time]
  split
  next turn =>
    have moves : Moves (now+1) 3 := ⟨le_refl 3,by simp only [Nat.reduceMul,Nat.reduceAdd]; omega,fun impossible => absurd impossible (by decide)⟩
    rw [moveList_wheel bounds moves 0 (by simp only [Nat.reduceMul,Nat.reduceAdd]; omega)]
  next =>
    rw [shiftLoop_four]
    have idx0 := idx 0 (by decide)
    have idx1 := idx 1 (by decide)
    have idx2 := idx 2 (by decide)
    have idx3 := idx 3 (by decide)
    simp only [Nat.reduceMul,Nat.reduceAdd] at idx0 idx1 idx2 idx3
    rw [low 8 (by decide),low 14 (by decide),low 20 (by decide),low 26 (by decide),idx0,idx1,idx2,idx3]
    by_cases carry0 : (now+1)%2^8 = 0
    · by_cases idx0 : (now+1)/2^8%64 ≠ 0
      · rw [if_pos carry0,if_pos idx0]
        exact congrArg some (moveList_wheel bounds ⟨by decide,carry0,fun _ => idx0⟩ _ rfl)
      · have carry1 : (now+1)%2^14 = 0 := by omega
        by_cases idx1 : (now+1)/2^14%64 ≠ 0
        · rw [if_pos carry0,if_neg idx0,if_pos carry1,if_pos idx1]
          exact congrArg some (moveList_wheel bounds ⟨by decide,carry1,fun _ => idx1⟩ _ rfl)
        · have carry2 : (now+1)%2^20 = 0 := by omega
          by_cases idx2 : (now+1)/2^20%64 ≠ 0
          · rw [if_pos carry0,if_neg idx0,if_pos carry1,if_neg idx1,if_pos carry2,if_pos idx2]
            exact congrArg some (moveList_wheel bounds ⟨by decide,carry2,fun _ => idx2⟩ _ rfl)
          · have carry3 : (now+1)%2^26 = 0 := by omega
            have idx3 : (now+1)/2^26%64 ≠ 0 := by omega
            rw [if_pos carry0,if_neg idx0,if_pos carry1,if_neg idx1,if_pos carry2,if_neg idx2,if_pos carry3,if_pos idx3]
            exact congrArg some (moveList_wheel bounds ⟨by decide,carry3,fun impossible => absurd impossible (by decide)⟩ _ rfl)
    · rw [if_neg carry0]
      exact congrArg some (wheel_tick bounds carry0)

end shift
end OriginGame.SkynetTimer
